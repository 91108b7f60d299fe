import SszSchema.Text.Blank

/-!
# Commands

The words of a command line name a command, and after it options in any order. An option that takes
a value has it after an equals sign, or directly after its letter, or else as the next word,
whatever that looks like. Of two options with one meaning the last wins. `Command.ofWords?` refuses
all words that no command or option has.
-/

namespace SszSchema

/-- What an option of a command says. -/
inductive Flag where
  | path
  | targets
  | output
  | suffix
  | failFast
  | bestEffort
  | rehearsal
  | logLevel
  | logFormat
  deriving DecidableEq, Repr

namespace Flag

/-- The word for an option. -/
def word : Flag → String
  | .path => "--path"
  | .targets => "--objs"
  | .output => "--output"
  | .suffix => "--suffix"
  | .failFast => "--fail-fast"
  | .bestEffort => "--best-effort"
  | .rehearsal => "--dry-run"
  | .logLevel => "--log-level"
  | .logFormat => "--log-format"

/-- The letter for an option, if it has one. -/
def letter? : Flag → Option Char
  | .path => some 'p'
  | .output => some 'o'
  | _ => none

/-- Whether an option takes a value. -/
def takesValue : Flag → Bool
  | .failFast | .bestEffort | .rehearsal => false
  | _ => true

end Flag

/-- What the program can be told to do. -/
inductive Verb where
  /-- Write modules. -/
  | generate
  /-- Show a schema. -/
  | inspect
  /-- Tell the version of the program. -/
  | version
  deriving DecidableEq, Repr

namespace Verb

/-- The word for a command. -/
def word : Verb → String
  | .generate => "generate"
  | .inspect => "inspect"
  | .version => "version"

/-- The options of a command. -/
def flags : Verb → List Flag
  | .generate => [.path, .targets, .output, .suffix, .failFast, .bestEffort, .rehearsal, .logLevel,
      .logFormat]
  | .inspect => [.path, .targets, .logLevel, .logFormat]
  | .version => []

/-- The command that a word names. -/
def ofWord? (s : String) : Option Verb := [generate, inspect, version].find? (·.word == s)

end Verb

/-- A command with its options in order; the value of one that takes none is empty. -/
structure Command where
  verb : Verb
  options : List (Flag × String) := []
  deriving DecidableEq, Repr

namespace Command

/-- The value of an option. -/
def value? (c : Command) (f : Flag) : Option String :=
  (c.options.reverse.find? (·.1 == f)).map (·.2)

/-- Whether an option is given. -/
def has (c : Command) (f : Flag) : Bool := (c.value? f).isSome

/-- What the last of two opposite options says. -/
def failFast? (c : Command) : Option Bool :=
  (c.options.reverse.find? fun o => o.1 == .failFast || o.1 == .bestEffort).map (·.1 == .failFast)

/-- The formats of logs by name; whether they are JSON. -/
def logFormats : List (String × Bool) := [("json", true), ("text", false)]

/-- Whether the log is to be JSON, as far as an option says so. -/
def jsonLog? (c : Command) : Option Bool :=
  (c.value? .logFormat).bind fun name => (logFormats.find? (·.1 == name)).map (·.2)

/-- Whether all options that a command needs are given, with values that they can have. -/
def isComplete (c : Command) : Bool :=
  (c.verb = .version || c.has .path) && (!c.has .logFormat || c.jsonLog?.isSome)

/-- Reads a word as an option, with the value attached to it. -/
def readOption? (known : List Flag) (word : String) : Option (Flag × Option String) :=
  match word.toList with
  | '-' :: '-' :: _ =>
      let attached := match word.toList.dropWhile (· ≠ '=') with
        | [] => none
        | _ :: value => some (String.ofList value)
      (known.find? (·.word.toList == word.toList.takeWhile (· ≠ '='))).map (·, attached)
  | '-' :: letter :: value =>
      let attached := if value.isEmpty then none else some (String.ofList value)
      (known.find? (·.letter? == some letter)).map (·, attached)
  | _ => none

/-- The word after which no options follow. -/
def endOfOptions : String := "--"

/-- Reads options. -/
def readOptions? (known : List Flag) : List String → Option (List (Flag × String))
  | [] => some []
  | word :: rest =>
      if word = endOfOptions then
        if rest.isEmpty then some [] else none
      else
        match readOption? known word with
        | none => none
        | some (f, some value) =>
            if f.takesValue then (readOptions? known rest).map ((f, value) :: ·) else none
        | some (f, none) =>
            if f.takesValue then
              match rest with
              | [] => none
              | value :: rest => (readOptions? known rest).map ((f, value) :: ·)
            else (readOptions? known rest).map ((f, "") :: ·)

/-- Reads a command from the words after the name of the program. -/
def ofWords? (words : List String) : Option Command := do
  let words := if words.head? = some endOfOptions then words.tail else words
  let name ← words.head?
  let verb ← Verb.ofWord? name
  let c : Command := ⟨verb, ← readOptions? verb.flags words.tail⟩
  if c.isComplete then some c else none

end Command

end SszSchema
