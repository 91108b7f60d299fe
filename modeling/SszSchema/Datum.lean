import SszSchema.Path
import SszSchema.Text.Quoted

/-!
# Data of messages

Errors and log lines carry named data: numbers, texts, lists and maps, and also raw bytes and
paths, which `Datum.plain` turns into text before anything is shown. `Datum.display` is how a value
reads inside a message.
-/

namespace SszSchema

/-- A value that a message carries. -/
inductive Datum where
  | null
  | bool (b : Bool)
  | int (n : Int)
  | text (s : String)
  | list (items : List Datum)
  | map (entries : List (String × Datum))
  | bytes (bs : List UInt8)
  | path (p : Path)
  deriving Repr, Inhabited

namespace Datum

mutual

/-- Bytes become hexadecimal text and paths their text, at every depth. -/
def plain : Datum → Datum
  | .bytes bs => .text (Text.hexBytes bs)
  | .path p => .text p.toString
  | .list items => .list (plainItems items)
  | .map entries => .map (plainEntries entries)
  | d => d

/-- `plain` on the items of a list. -/
def plainItems : List Datum → List Datum
  | [] => []
  | d :: rest => plain d :: plainItems rest

/-- `plain` on the entries of a map. -/
def plainEntries : List (String × Datum) → List (String × Datum)
  | [] => []
  | (k, d) :: rest => (k, plain d) :: plainEntries rest

end

mutual

/-- A value inside a list or a map: texts are quoted. -/
def inner : Datum → String
  | .null => "None"
  | .bool b => if b then "True" else "False"
  | .int n => toString n
  | .text s => Text.quoted s
  | .list items => "[" ++ Text.join ", " (innerItems items) ++ "]"
  | .map entries => "\x7b" ++ Text.join ", " (innerEntries entries) ++ "\x7d"
  | .bytes bs => Text.quoted (Text.hexBytes bs)
  | .path p => Text.quoted p.toString

/-- The items of a list. -/
def innerItems : List Datum → List String
  | [] => []
  | d :: rest => inner d :: innerItems rest

/-- The entries of a map. -/
def innerEntries : List (String × Datum) → List String
  | [] => []
  | (k, d) :: rest => (Text.quoted k ++ ": " ++ inner d) :: innerEntries rest

end

/-- A value in a message: a text stands as it is. -/
def display : Datum → String
  | .text s => s
  | .bytes bs => Text.hexBytes bs
  | .path p => p.toString
  | d => inner d

/-- Whether a value counts as given: zero, the empty text and empty collections do not. -/
def isGiven : Datum → Bool
  | .null => false
  | .bool b => b
  | .int n => n != 0
  | .text s => s != ""
  | .list items => !items.isEmpty
  | .map entries => !entries.isEmpty
  | .bytes bs => !bs.isEmpty
  | .path _ => true

/-- Whether there is a value at all. -/
def isNull : Datum → Bool
  | .null => true
  | _ => false

end Datum

/-- Named data in the order they were attached. -/
abbrev DataMap := List (String × Datum)

namespace DataMap

/-- The value under a name. -/
def get? (data : DataMap) (key : String) : Option Datum :=
  (data.find? (·.1 == key)).map (·.2)

/-- Attaches a value unless its name is taken. -/
def attach (data : DataMap) (key : String) (value : Datum) : DataMap :=
  if (data.get? key).isSome then data else data ++ [(key, value)]

/-- Sets the value under a name, in place if the name is taken. -/
def set (data : DataMap) (key : String) (value : Datum) : DataMap :=
  if (data.get? key).isSome then data.map fun e => if e.1 == key then (key, value) else e
  else data ++ [(key, value)]

/-- Removes a name. -/
def erase (data : DataMap) (key : String) : DataMap :=
  data.filter (·.1 != key)

/-- Names and plain values, without the names that have no value. -/
def given (data : DataMap) : DataMap :=
  (data.filter fun e => !e.2.isNull).map fun e => (e.1, e.2.plain)

end DataMap

end SszSchema
