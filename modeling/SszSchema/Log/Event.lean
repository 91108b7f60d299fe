import SszSchema.Diagnostic

/-!
# Events

What a run tells while it works: an event has a level and a message, names what it is about in
`extra`, and stands in a context of names bound around it.
-/

namespace SszSchema

/-- How much an event matters. Levels between the named ones are allowed. -/
abbrev Level := Int

namespace Level

/-- The level that lets everything pass. -/
def all : Level := 0

/-- The level of details. -/
def debug : Level := 10

/-- The level of progress. -/
def info : Level := 20

/-- The level of what needs attention. -/
def warning : Level := 30

/-- The level of failures. -/
def error : Level := 40

/-- The level of failures that end everything. -/
def critical : Level := 50

/-- The named levels. -/
def named : List (String × Level) :=
  [("CRITICAL", critical), ("ERROR", error), ("WARNING", warning), ("INFO", info),
    ("DEBUG", debug), ("NOTSET", all)]

/-- The name of a level. -/
def name (l : Level) : String :=
  match named.find? (·.2 == l) with
  | some (name, _) => name
  | none => "Level " ++ toString l

/-- A character in upper case, if that is in ASCII. -/
def upperCase (c : Char) : Char :=
  if 'a' ≤ c && c ≤ 'z' then Char.ofNat (c.toNat - 32)
  else if c = 'ı' then 'I'
  else if c = 'ſ' then 'S'
  else c

/-- The level that a word names in any case; other words stand for progress. -/
def ofText (s : String) : Level :=
  let word := String.ofList ((Text.trim s).toList.map upperCase)
  match named.find? (·.1 == word) with
  | some (_, level) => level
  | none => info

end Level

/-- Something that a run tells. -/
structure Event where
  logger : String
  level : Level
  message : String
  extra : DataMap := []
  context : DataMap := []
  cause : Option Cause := none
  deriving Repr

namespace Event

/-- Names that every event has for itself, so that `extra` must not use them. -/
def ownNames : List String :=
  ["name", "msg", "args", "levelname", "levelno", "pathname", "filename", "module", "exc_info",
    "exc_text", "stack_info", "lineno", "funcName", "created", "msecs", "relativeCreated", "thread",
    "threadName", "processName", "process", "message", "asctime"]

/-- Names in `extra` that are not shown. -/
def isHidden (name : String) : Bool := Text.startsWith name "_" || name = "taskName"

/-- Whether `extra` uses none of the names that an event has for itself. -/
def isWellFormed (e : Event) : Bool := !e.extra.any fun entry => ownNames.contains entry.1

/-- The part of `extra` that is shown. -/
def shown (e : Event) : DataMap :=
  (e.extra.filter fun entry => !isHidden entry.1).map fun entry => (entry.1, entry.2.plain)

/-- What a failure says at the end of an event. -/
def causeText (c : Cause) : String :=
  let text := if c.text = "" then c.label else c.label ++ ": " ++ c.text
  String.ofList (Text.dropEndWhile Text.isBlank text.toList)

end Event

/-- The names bound around events. -/
abbrev Context := DataMap

namespace Context

/-- Binds names, in place where they are bound already. -/
def bind (c : Context) (fields : DataMap) : Context :=
  fields.foldl (fun c f => DataMap.set c f.1 f.2.plain) c

/-- Frees names. -/
def unbind (c : Context) (names : List String) : Context := c.filter fun f => !names.contains f.1

end Context

end SszSchema
