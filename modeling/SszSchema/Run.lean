import SszSchema.FileTree
import SszSchema.Graph
import SszSchema.Log.Event

/-!
# Runs

A run works on a file tree and tells events while it does so. A run that fails keeps what it has
told, and what it has done to the files.
-/

namespace SszSchema

/-- What a run works on. -/
structure RunState where
  files : FileTree
  /-- The names bound around events. -/
  context : Context := []
  /-- The events told, the first first. -/
  events : List Event := []
  deriving Repr

/-- A step of a run. -/
abbrev Run (α : Type) := ExceptT Failure (StateM RunState) α

namespace Run

/-- Performs a step. -/
def perform (s : RunState) (step : Run α) : Except Failure α × RunState := step s

/-- Goes on with a result, or stops with its failure. -/
def ofResult (result : Except Failure α) : Run α := fun s => (result, s)

/-- Goes on with a result, or stops with its diagnostic. -/
def ofReport (result : Except Diagnostic α) : Run α := ofResult (result.mapError .reported)

/-- Tells an event in the present context. -/
def tell (logger : String) (level : Level) (message : String) (extra : DataMap := []) : Run Unit :=
  modify fun s =>
    { s with events := s.events ++ [{ logger, level, message, extra, context := s.context }] }

/-- Performs a step with names bound around its events. -/
def within (fields : DataMap) (step : Run α) : Run α := fun s =>
  let (result, last) := step { s with context := s.context.bind fields }
  (result, { last with context := s.context })

end Run

end SszSchema
