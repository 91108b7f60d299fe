import SszSchema.Datum.Json
import SszSchema.Log.Event

/-!
# Lines of a log

An event is written on one line of JSON for programs (`Line.json`), or as text for people
(`Line.text`), in which colours can mark the parts. Names of the context win over those of the
event.
-/

namespace SszSchema.Line

/-- An event as JSON. -/
def json (time : String) (e : Event) : String :=
  let head : DataMap := [("ts", .text time), ("level", .text e.level.name),
    ("logger", .text e.logger), ("msg", .text e.message)]
  let inContext := e.context.foldl (fun data f => DataMap.set data f.1 f.2) head
  let complete := e.shown.foldl (fun data f => DataMap.attach data f.1 f.2) inContext
  Datum.compact (.map (match e.cause with
    | some c => DataMap.set complete "err" (.text (Event.causeText c))
    | none => complete))

/-- The escape that begins a colour. -/
def escape (code : String) : String := "\x1b[" ++ code ++ "m"

/-- A text in a colour. -/
def painted (code s : String) : String := escape code ++ s ++ escape "0"

/-- Grey, for what matters least. -/
def grey : String := "90"

/-- The colour of a level. -/
def painterOf (l : Level) (s : String) : String :=
  if l = Level.debug then painted grey s
  else if l = Level.info then painted "32" s
  else if l = Level.warning then painted "33" s
  else if l = Level.error then painted "31" s
  else if l = Level.critical then escape "1" ++ painted "35" s
  else painted "37" s

/-- A text with blanks added up to a width. -/
def padded (width : Nat) (s : String) : String :=
  s ++ String.ofList (List.replicate (width - s.length) ' ')

/-- The names of the context that a text shows. -/
def contextNames : List String := ["run_id", "unit", "record"]

/-- Names with their values. -/
def listed (data : DataMap) : String :=
  Text.join " " (data.map fun f => f.1 ++ "=" ++ f.2.display)

/-- The part of the context that a text shows. -/
def contextOf (c : Context) : String :=
  listed ((contextNames.filterMap fun name => (DataMap.get? c name).map (name, ·)).filter
    (!·.2.isNull))

/-- An event as text. -/
def text (colours : Bool) (time : String) (e : Event) : String :=
  let paint (code s : String) : String := if colours then painted code s else s
  let level := padded 5 e.level.name
  let context := contextOf e.context
  let extra := listed (e.shown.filter fun f => (DataMap.get? e.context f.1).isNone)
  paint grey time ++ " | " ++ (if colours then painterOf e.level level else level) ++ " | " ++
    paint "36" e.logger ++ (if context = "" then "" else " | " ++ paint grey context) ++ " | " ++
    e.message ++ (if extra = "" then "" else " " ++ extra) ++
    match e.cause with
    | some c => "\n" ++ Event.causeText c
    | none => ""

end SszSchema.Line
