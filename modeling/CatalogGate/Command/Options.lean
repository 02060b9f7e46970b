-- Command line options: their names, where else their values come from, and how they are read.
namespace CatalogGate.Command

/-- An option that takes a value, or many of them. -/
structure Flag where
  name : String
  letter : Option Char
  /-- The environment variable that is looked at if the option is not given. -/
  variableName : Option String
  /-- The value if there is no other. -/
  fallback : Option String
  /-- Whether it takes all values up to the next option, and may be given more than once. -/
  isMany : Bool
  /-- Whether a value can be used. -/
  accepts : String → Bool
  /-- How the value is called in the help. -/
  valueName : String
  about : String

/-- Why arguments lead to no command. -/
inductive Stop where
  /-- They cannot be understood, or lack something. -/
  | usage
  /-- Help is asked for: about a command, or about all of them. -/
  | help (command : Option String)
  | version
deriving Repr, DecidableEq

/-- The values of options by their names. -/
abbrev Given := List (String × List String)

namespace Flag

/-- Takes the values of an option up. -/
def take (f : Flag) (values : List String) (given : Given) : Except Stop Given :=
  let isGiven := given.any fun g => g.1 == f.name
  if values.isEmpty || !values.all f.accepts then .error .usage
  else if !isGiven then .ok (given ++ [(f.name, values)])
  else if f.isMany then
    .ok (given.map fun g => if g.1 == f.name then (g.1, g.2 ++ values) else g)
  else .error .usage

/-- Takes up an option whose values have been collected, if there is one. -/
def close (waiting : Option (Flag × List String)) (given : Given) : Except Stop Given :=
  match waiting with
  | some (f, values) => f.take values given
  | none => .ok given

end Flag

/-! ## One argument -/

/-- What an argument is. -/
inductive Word where
  /-- Two dashes, behind which there are no options. -/
  | separator
  | value (text : String)
  /-- A long name, and what stands behind an equals sign. -/
  | long (name : String) (attached : Option String)
  /-- Letters behind one dash. -/
  | letters (cs : List Char)
deriving Repr, DecidableEq

def Word.ofArgument (argument : String) : Word :=
  match argument.toList with
  | ['-', '-'] => .separator
  | '-' :: '-' :: rest =>
    let name := rest.takeWhile (· ≠ '=')
    .long (String.ofList name)
      (if rest.length = name.length then none else some (String.ofList (rest.drop (name.length + 1))))
  | ['-'] => .value argument
  | '-' :: rest => .letters rest
  | _ => .value argument

/-! ## All arguments -/

/-- Where reading has come to: an option that still waits for values, and all that has been taken up. -/
structure Reading where
  waiting : Option (Flag × List String)
  given : Given

namespace Reading

/-- An option begins. A value may be attached to it, and then it takes no other. -/
def begin (r : Reading) (f : Flag) (attached : Option String) : Except Stop Reading := do
  let given ← Flag.close r.waiting r.given
  match attached with
  | some value => return ⟨none, ← f.take [value] given⟩
  | none => return ⟨some (f, []), given⟩

/-- One argument in front of the separator. -/
def read (flags : List Flag) (command : String) (r : Reading) (w : Word) : Except Stop Reading :=
  match w with
  | .separator => .error .usage
  | .value text =>
    match r.waiting with
    | some (f, values) =>
      if f.isMany || values.isEmpty then .ok ⟨some (f, values ++ [text]), r.given⟩ else .error .usage
    | none => .error .usage
  | .long "help" none => do
    let _ ← Flag.close r.waiting r.given
    throw (.help (some command))
  | .long name attached =>
    match flags.find? (·.name == name) with
    | some f => r.begin f attached
    | none => .error .usage
  | .letters ('h' :: _) => do
    let _ ← Flag.close r.waiting r.given
    throw (.help (some command))
  | .letters (c :: rest) =>
    match flags.find? (·.letter == some c) with
    | some f =>
      let attached := match rest with
        | [] => none
        | '=' :: value => some (String.ofList value)
        | value => some (String.ofList value)
      r.begin f attached
    | none => .error .usage
  | .letters [] => .error .usage

/-- All arguments. Behind the separator nothing may stand. -/
def readAll (flags : List Flag) (command : String) (r : Reading) : List Word → Except Stop Given
  | [] => Flag.close r.waiting r.given
  | .separator :: rest => do
    let given ← Flag.close r.waiting r.given
    if rest.isEmpty then return given else throw .usage
  | w :: rest => do readAll flags command (← r.read flags command w) rest

end Reading

/-- Completes what was given by the environment and by fallback values. An option that then has no value
was needed. -/
def complete (environment : String → Option String) (given : Given) : List Flag → Except Stop Given
  | [] => .ok given
  | f :: rest => do
    let values ←
      match given.find? (·.1 == f.name), f.variableName.bind environment, f.fallback with
      | some g, _, _ => pure g.2
      | none, some value, _ => if f.accepts value then pure [value] else throw .usage
      | none, none, some value => pure [value]
      | none, none, none => throw .usage
    return (f.name, values) :: (← complete environment given rest)

/-- The values of all options of a command. -/
def readFlags (flags : List Flag) (command : String) (environment : String → Option String)
    (arguments : List String) : Except Stop Given := do
  let given ← Reading.readAll flags command ⟨none, []⟩ (arguments.map Word.ofArgument)
  complete environment given flags

/-- The values of an option. -/
def Given.all (given : Given) (name : String) : List String :=
  match given.find? (·.1 == name) with
  | some g => g.2
  | none => []

/-- The one value of an option. -/
def Given.one (given : Given) (name : String) : String := (given.all name).headD ""

end CatalogGate.Command
