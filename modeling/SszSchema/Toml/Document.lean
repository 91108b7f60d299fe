import SszSchema.Toml.Literal

/-!
# Configuration files

`Toml.parse` reads a TOML file into a table. Tables may be opened by headers, by dotted names and
inside lines; `Names` remembers which names may not be opened or extended again.
-/

namespace SszSchema.Toml

/-- What must have been found. -/
def found : Option α → Except Fault α
  | some a => .ok a
  | none => .error .invalid

/-- Drops blanks. -/
def dropBlanks (cs : List Char) : List Char := cs.dropWhile isBlank

/-- Drops a comment. -/
def dropComment : List Char → Except Fault (List Char)
  | '#' :: rest =>
      if (rest.takeWhile (· ≠ '\n')).any isControl then .error .invalid
      else .ok (rest.dropWhile (· ≠ '\n'))
  | cs => .ok cs

/-- Drops blanks, line ends and comments; the fuel bounds the number of comments. -/
def dropGaps : Nat → List Char → Except Fault (List Char)
  | 0, _ => .error .invalid
  | fuel + 1, cs =>
      match cs.dropWhile isBlankOrBreak with
      | '#' :: rest => do dropGaps fuel (← dropComment ('#' :: rest))
      | rest => .ok rest

/-! ## Keys -/

/-- Characters of names without quotes. -/
def isBare (c : Char) : Bool :=
  isDigit c || ('a' ≤ c && c ≤ 'z') || ('A' ≤ c && c ≤ 'Z') || c = '-' || c = '_'

/-- Reads one name of a key. -/
def keyPart : List Char → Except Fault (String × List Char)
  | '"' :: rest => do
      let (name, rest) ← found (lineText rest)
      return (String.ofList name, rest)
  | '\'' :: rest => do
      let (name, rest) ← found (rawText rest)
      return (String.ofList name, rest)
  | cs =>
      let name := cs.takeWhile isBare
      if name.isEmpty then .error .invalid
      else .ok (String.ofList name, cs.dropWhile isBare)

/-- Reads a key with dots between its names and the blanks behind it; the fuel bounds the number of
names. -/
def key : Nat → List Char → Except Fault (Key × List Char)
  | 0, _ => .error .invalid
  | fuel + 1, cs => do
      let (name, rest) ← keyPart cs
      match dropBlanks rest with
      | '.' :: rest => do
          let (names, rest) ← key fuel (dropBlanks rest)
          return (name :: names, rest)
      | rest => return ([name], rest)

/-! ## Values -/

/-- Whether a key begins with one of some others. -/
def extendsAny (keys : List Key) (k : Key) : Bool := keys.any (·.isPrefixOf k)

/-- Reads a value that is no array and no table. -/
def leaf : List Char → Except Fault (Value × List Char)
  | '"' :: rest => do
      let (text, rest) ← found (quotedText rest)
      return (.text (String.ofList text), rest)
  | '\'' :: rest => do
      let (text, rest) ← found (literalText rest)
      return (.text (String.ofList text), rest)
  | 't' :: 'r' :: 'u' :: 'e' :: rest => .ok (.bool true, rest)
  | 'f' :: 'a' :: 'l' :: 's' :: 'e' :: rest => .ok (.bool false, rest)
  | cs =>
      let time (rest : List Char) : Except Fault (Value × List Char) :=
        .ok (.time (String.ofList (cs.take (cs.length - rest.length))), rest)
      match date? cs with
      | some (some rest) => time rest
      | some none => .error .invalid
      | none =>
          match clock? cs with
          | some rest => time rest
          | none =>
              match number? cs with
              | some read => read.map fun (n, rest) => (.number (String.ofList n), rest)
              | none => do
                  let (n, rest) ← found (special? cs)
                  return (.number (String.ofList n), rest)

/-- Whether a value is closed against additions. -/
def Value.isCollection : Value → Bool
  | .array _ | .table _ => true
  | _ => false

mutual

/-- Reads a value; the fuel bounds how deep values are nested and how many there are. -/
def value : Nat → List Char → Except Fault (Value × List Char)
  | 0, _ => .error .invalid
  | fuel + 1, '[' :: rest => do
      let (items, rest) ← arrayItems fuel (← dropGaps (rest.length + 1) rest)
      return (.array items, rest)
  | fuel + 1, '\x7b' :: rest =>
      match dropBlanks rest with
      | '\x7d' :: rest => .ok (.table [], rest)
      | rest => do
          let (t, rest) ← tableItems fuel [] [] rest
          return (.table t, rest)
  | _ + 1, cs => leaf cs

/-- Reads the items of an array up to its closing bracket. -/
def arrayItems : Nat → List Char → Except Fault (List Value × List Char)
  | 0, _ => .error .invalid
  | _ + 1, ']' :: rest => .ok ([], rest)
  | fuel + 1, cs => do
      let (v, rest) ← value fuel cs
      match ← dropGaps (rest.length + 1) rest with
      | ']' :: rest => return ([v], rest)
      | ',' :: rest => do
          let (items, rest) ← arrayItems fuel (← dropGaps (rest.length + 1) rest)
          return (v :: items, rest)
      | _ => .error .invalid

/-- Reads the items of a table inside a line up to its closing brace. Collections among them, whose
keys are in `closed`, cannot be extended. -/
def tableItems : Nat → List Key → Table → List Char → Except Fault (Table × List Char)
  | 0, _, _, _ => .error .invalid
  | fuel + 1, closed, t, cs => do
      let (k, rest) ← key (cs.length + 1) cs
      match rest with
      | '=' :: rest => do
          let (v, rest) ← value fuel (dropBlanks rest)
          if extendsAny closed k then .error .invalid
          else
            let t ← found (t.modifyAt false (Table.insertNew (k.getLastD "") v) k.dropLast)
            match dropBlanks rest with
            | '\x7d' :: rest => return (t, rest)
            | ',' :: rest =>
                tableItems fuel (if v.isCollection then k :: closed else closed) t
                  (dropBlanks rest)
            | _ => .error .invalid
      | _ => .error .invalid

end

/-! ## Statements -/

/-- What is known of the names of a file. -/
structure Names where
  /-- Keys of values that cannot be extended. -/
  closed : List Key := []
  /-- Keys of tables that cannot be opened by a header or a dotted name. -/
  opened : List Key := []
  /-- Keys that join `opened` at the next header. -/
  waiting : List Key := []

/-- What has been read: the table, its names, and the key of the last header. -/
structure State where
  table : Table := []
  names : Names := {}
  header : Key := []

namespace State

/-- The state at a header: dotted names of the section before cannot be opened any more. -/
def settle (s : State) : State :=
  { s with names := { s.names with opened := s.names.waiting ++ s.names.opened, waiting := [] } }

/-- Opens a table. -/
def openTable (s : State) (k : Key) : Except Fault State := do
  if s.names.opened.contains k || extendsAny s.names.closed k then .error .invalid
  else
    let table ← found (s.table.modifyAt true some k)
    return { s with table, names := { s.names with opened := k :: s.names.opened }, header := k }

/-- Opens the next table of an array of tables. Names below the one before are free again. -/
def openItem (s : State) (k : Key) : Except Fault State := do
  if extendsAny s.names.closed k then .error .invalid
  else
    let free (keys : List Key) : List Key := keys.filter fun other => !k.isPrefixOf other
    let names := { s.names with closed := free s.names.closed, opened := k :: free s.names.opened }
    let table ← found (s.table.modifyAt true (Table.appendTable (k.getLastD "")) k.dropLast)
    return { table, names, header := k }

/-- Adds a value under a key, which is relative to the last header. -/
def addValue (s : State) (k : Key) (v : Value) : Except Fault State := do
  let inner := ((List.range k.length).drop 1).map fun n => s.header ++ k.take n
  if inner.any s.names.opened.contains || extendsAny s.names.closed (s.header ++ k.dropLast) then
    .error .invalid
  else
    let table ← found
      (s.table.modifyAt true (Table.insertNew (k.getLastD "") v) (s.header ++ k.dropLast))
    let closed := if v.isCollection then (s.header ++ k) :: s.names.closed else s.names.closed
    return { s with table, names := { s.names with closed, waiting := inner ++ s.names.waiting } }

end State

/-- Reads a statement. -/
def statement (s : State) : List Char → Except Fault (State × List Char)
  | '[' :: '[' :: rest => do
      let (k, rest) ← key (rest.length + 1) (dropBlanks rest)
      let s ← s.settle.openItem k
      match rest with
      | ']' :: ']' :: rest => return (s, rest)
      | _ => .error .invalid
  | '[' :: rest => do
      let (k, rest) ← key (rest.length + 1) (dropBlanks rest)
      let s ← s.settle.openTable k
      match rest with
      | ']' :: rest => return (s, rest)
      | _ => .error .invalid
  | '#' :: rest => .ok (s, '#' :: rest)
  | cs => do
      let (k, rest) ← key (cs.length + 1) cs
      match rest with
      | '=' :: rest => do
          let (v, rest) ← value (2 * rest.length + 2) (dropBlanks rest)
          return (← s.addValue k v, rest)
      | _ => .error .invalid

/-- Reads statements, each on lines of its own; the fuel bounds their number. -/
def statements : Nat → State → List Char → Except Fault State
  | 0, _, _ => .error .invalid
  | fuel + 1, s, cs =>
      match dropBlanks cs with
      | [] => .ok s
      | '\n' :: rest => statements fuel s rest
      | cs => do
          let (s, rest) ← statement s cs
          match ← dropComment (dropBlanks rest) with
          | [] => return s
          | '\n' :: rest => statements fuel s rest
          | _ => .error .invalid

/-- Line ends of two characters count as one. -/
def joinBreaks : List Char → List Char
  | '\r' :: '\n' :: rest => '\n' :: joinBreaks rest
  | c :: rest => c :: joinBreaks rest
  | [] => []

/-- Reads a file. -/
def parse (text : String) : Except Fault Table :=
  let cs := joinBreaks text.toList
  (statements (cs.length + 1) {} cs).map (·.table)

end SszSchema.Toml
