import SszSchema.Datum

/-!
# JSON text

Two ways to write data as JSON. `Datum.compact` puts everything on one line and escapes whatever
is not ASCII, for log lines; `Datum.indented` puts every entry on a line of its own and leaves
letters of all scripts as they are, for the report of a schema.
-/

namespace SszSchema.Datum

/-- A UTF-16 unit as an escape. -/
def unitEscape (n : Nat) : List Char := '\\' :: 'u' :: Text.hexPadded 4 n

/-- The escapes that JSON has a letter for. -/
def letterEscape? (c : Char) : Option (List Char) :=
  if c = '"' then some ['\\', '"']
  else if c = '\\' then some ['\\', '\\']
  else if c = '\n' then some ['\\', 'n']
  else if c = '\r' then some ['\\', 'r']
  else if c = '\t' then some ['\\', 't']
  else if c.toNat = 12 then some ['\\', 'f']
  else if c.toNat = 8 then some ['\\', 'b']
  else none

/-- A character of a JSON string that holds ASCII only. -/
def asciiEscape (c : Char) : List Char :=
  match letterEscape? c with
  | some cs => cs
  | none =>
      let n := c.toNat
      if 32 ≤ n && n < 127 then [c]
      else if n < 0x10000 then unitEscape n
      else unitEscape (0xD800 + (n - 0x10000) / 0x400) ++ unitEscape (0xDC00 + (n - 0x10000) % 0x400)

/-- A character of a JSON string that holds any letters. -/
def controlEscape (c : Char) : List Char :=
  match letterEscape? c with
  | some cs => cs
  | none => if c.toNat < 32 then unitEscape c.toNat else [c]

/-- A JSON string. -/
def jsonString (escape : Char → List Char) (s : String) : String :=
  "\"" ++ String.ofList (s.toList.flatMap escape) ++ "\""

mutual

/-- JSON on one line. -/
def compact : Datum → String
  | .null => "null"
  | .bool b => if b then "true" else "false"
  | .int n => toString n
  | .text s => jsonString asciiEscape s
  | .list items => "[" ++ Text.join "," (compactItems items) ++ "]"
  | .map entries => "\x7b" ++ Text.join "," (compactEntries entries) ++ "\x7d"
  | .bytes bs => jsonString asciiEscape (Text.hexBytes bs)
  | .path p => jsonString asciiEscape p.toString

/-- The items of a list on one line. -/
def compactItems : List Datum → List String
  | [] => []
  | d :: rest => compact d :: compactItems rest

/-- The entries of a map on one line. -/
def compactEntries : List (String × Datum) → List String
  | [] => []
  | (k, d) :: rest => (jsonString asciiEscape k ++ ":" ++ compact d) :: compactEntries rest

end

/-- A line break and the indentation of a depth. -/
def newline (depth : Nat) : String :=
  String.ofList ('\n' :: List.replicate (2 * depth) ' ')

/-- Parts on lines of their own between brackets; empty brackets stay together. -/
def bracketed (depth : Nat) (left right : String) (parts : List String) : String :=
  if parts.isEmpty then left ++ right
  else left ++ newline (depth + 1) ++ Text.join ("," ++ newline (depth + 1)) parts ++
    newline depth ++ right

mutual

/-- JSON with two blanks of indentation for each depth. -/
def indented (depth : Nat) : Datum → String
  | .null => "null"
  | .bool b => if b then "true" else "false"
  | .int n => toString n
  | .text s => jsonString controlEscape s
  | .list items => bracketed depth "[" "]" (indentedItems (depth + 1) items)
  | .map entries => bracketed depth "\x7b" "\x7d" (indentedEntries (depth + 1) entries)
  | .bytes bs => jsonString controlEscape (Text.hexBytes bs)
  | .path p => jsonString controlEscape p.toString

/-- The items of a list, indented. -/
def indentedItems (depth : Nat) : List Datum → List String
  | [] => []
  | d :: rest => indented depth d :: indentedItems depth rest

/-- The entries of a map, indented. -/
def indentedEntries (depth : Nat) : List (String × Datum) → List String
  | [] => []
  | (k, d) :: rest =>
      (jsonString controlEscape k ++ ": " ++ indented depth d) :: indentedEntries depth rest

end

end SszSchema.Datum
