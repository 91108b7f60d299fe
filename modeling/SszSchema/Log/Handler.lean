import SszSchema.Log.Line
import SszSchema.Text.LowerCase

/-!
# Handlers

A handler lets events of the program's own loggers pass from a level on and writes them in one of
two formats. `Handler.configure` chooses level and format from what was asked for, the environment,
and whether a terminal is listening.
-/

namespace SszSchema

/-- The variables of an environment. -/
abbrev Environment := List (String × String)

namespace Environment

/-- The value of a variable. -/
def get? (env : Environment) (name : String) : Option String :=
  (env.find? (·.1 == name)).map (·.2)

/-- The value of a variable that is not blank. -/
def given? (env : Environment) (name : String) : Option String :=
  (get? env name).filter fun v => Text.trim v ≠ ""

/-- A text in lower case without white space at its ends. -/
def word (s : String) : String :=
  String.ofList ((Text.trim s).toList.flatMap Text.lowerCase)

end Environment

/-- How events are written. -/
inductive LineFormat where
  | json
  | text (colours : Bool)
  deriving DecidableEq, Repr

/-- What becomes of events. -/
structure Handler where
  level : Level
  format : LineFormat
  deriving DecidableEq, Repr

namespace Handler

/-- The logger above all others of the program. -/
def root : String := "sszgen"

/-- Whether a logger belongs to the program. -/
def isOwn (logger : String) : Bool := logger = root || Text.startsWith logger (root ++ ".")

/-- Chooses a format: the one asked for, else that of the environment, else text for terminals that
take colours. -/
def chooseFormat (env : Environment) (json : Option Bool) (terminal : Bool) : LineFormat :=
  let colours := terminal && (env.get? "NO_COLOR").isNone
  let format := Environment.word ((env.get? "SSZGEN_LOG_FORMAT").getD "")
  let json := json.getD
    (if format = "json" then true else if format = "text" then false else !colours)
  if json then .json else .text colours

/-- The handler for what was asked for. -/
def configure (env : Environment) (json : Option Bool) (level : Option Level) (terminal : Bool) :
    Handler where
  level := level.getD (Level.ofText ((env.get? "SSZGEN_LOG_LEVEL").getD "WARNING"))
  format := chooseFormat env json terminal

/-- Whether an event passes. A handler that lets everything pass leaves the choice to the usual
level. -/
def passes (h : Handler) (e : Event) : Bool :=
  isOwn e.logger && decide ((if h.level = Level.all then Level.warning else h.level) ≤ e.level)

/-- The line of an event. -/
def line (h : Handler) (time : String) (e : Event) : String :=
  (match h.format with
  | .json => Line.json time e
  | .text colours => Line.text colours time e) ++ "\n"

/-- What is written for events. -/
def written (h : Handler) (time : String) (events : List Event) : String :=
  String.join ((events.filter h.passes).map (h.line time))

end Handler

end SszSchema
