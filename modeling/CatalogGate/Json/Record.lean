-- Reading JSON values as records: an object with certain members, or an array with their values in order.
import CatalogGate.Json.Printer
import CatalogGate.Text.Quoted

namespace CatalogGate.Json

/-- Why a value is not the record that is wanted. -/
inductive Mismatch where
  | wrongType (found : Json) (expected : String)
  | wrongLength (length : Nat) (expected : String)
  | unknownMember (name : String) (known : List String)
  | missingMember (name : String)
  /-- Neither a list nor a single one of what is wanted. -/
  | neitherListNorOne

namespace Mismatch

/-- What a value is called where something else is wanted. -/
def foundText : Json → String
  | null => "null"
  | bool b => s!"boolean \x60{b}\x60"
  | number (.int i) => s!"integer \x60{i}\x60"
  | number (.float f) => "floating point \x60" ++ amount.float f ++ "\x60"
  | string s => "string " ++ Text.quoted s
  | array _ => "sequence"
  | object _ => "map"

/-- The names that are known, as a choice. -/
def knownText (known : List String) : String :=
  match known.map fun name => "\x60" ++ name ++ "\x60" with
  | [one] => one
  | [one, other] => one ++ " or " ++ other
  | names => "one of " ++ ", ".intercalate names

def message : Mismatch → String
  | wrongType found expected => s!"invalid type: {foundText found}, expected {expected}"
  | wrongLength length expected => s!"invalid length {length}, expected {expected}"
  | unknownMember name known => s!"unknown field \x60{name}\x60, expected {knownText known}"
  | missingMember name => s!"missing field \x60{name}\x60"
  | neitherListNorOne => "data did not match any variant of untagged enum OneOrMany"

end Mismatch

/-! ## Types of members -/

abbrev Reads (α : Type) := Json → Except Mismatch α

def Reads.string : Reads String
  | .string s => .ok s
  | v => .error (.wrongType v "a string")

def Reads.float : Reads Float
  | .number n => .ok n.toFloat
  | v => .error (.wrongType v "f64")

def Reads.list {α : Type} (read : Reads α) : Reads (List α)
  | .array items => items.mapM read
  | v => .error (.wrongType v "a sequence")

/-- Null stands for an absent value. -/
def Reads.optional {α : Type} (read : Reads α) : Reads (Option α)
  | .null => .ok none
  | v => (read v).map some

/-- A list, or one that is not in a list. -/
def Reads.oneOrMany {α : Type} (read : Reads α) : Reads (List α) := fun v =>
  match Reads.list read v with
  | .ok many => .ok many
  | .error _ =>
    match read v with
    | .ok one => .ok [one]
    | .error _ => .error .neitherListNorOne

/-! ## Records -/

structure Member where
  name : String
  isOptional : Bool
  /-- What is wrong with a value of this member. -/
  check : Json → Option Mismatch

def Member.of {α : Type} (name : String) (isOptional : Bool) (read : Reads α) : Member :=
  ⟨name, isOptional, fun v =>
    match read v with
    | .ok _ => none
    | .error m => some m⟩

structure RecordType where
  name : String
  members : List Member

namespace RecordType

def names (t : RecordType) : List String := t.members.map Member.name

def lengthText (t : RecordType) : String :=
  s!"struct {t.name} with {t.members.length} " ++ if t.members.length = 1 then "element" else "elements"

/-- Goes through the members of an object in its order, then looks for those that are missing. -/
def ofObject (t : RecordType) (members : List (String × Json)) : Except Mismatch (List (String × Json)) := do
  for (name, v) in members do
    match t.members.find? (·.name == name) with
    | none => throw (.unknownMember name t.names)
    | some m =>
      match m.check v with
      | some mismatch => throw mismatch
      | none => pure ()
  match t.members.find? fun m => !m.isOptional && (lookup m.name members).isNone with
  | some m => throw (.missingMember m.name)
  | none => return members

/-- Takes the values of an array as those of the members, one after the other. -/
def ofArray (t : RecordType) (items : List Json) : Except Mismatch (List (String × Json)) := do
  let mut read := []
  for (m, i) in t.members.zipIdx do
    match items[i]? with
    | none => throw (.wrongLength i t.lengthText)
    | some v =>
      match m.check v with
      | some mismatch => throw mismatch
      | none => read := (m.name, v) :: read
  if t.members.length < items.length then throw (.wrongLength items.length "fewer elements in array")
  return read.reverse

/-- The members of a record, with names. Every one of them has the type that it should have. -/
def read (t : RecordType) : Reads (List (String × Json))
  | object members => t.ofObject members
  | array items => t.ofArray items
  | v => .error (.wrongType v s!"struct {t.name}")

end RecordType

/-- A member of a record, if it is there and of its type. -/
def field? {α : Type} (record : List (String × Json)) (name : String) (read : Reads α) : Option α :=
  (lookup name record).bind fun v => (read v).toOption

end CatalogGate.Json
