-- Directives: each says from which level on the events of some parts of the program are logged, such as
-- `server=info` or `server[{addr}]=debug`.
import CatalogGate.Log.Threshold
import CatalogGate.Pattern.Reader

namespace CatalogGate.Log

/-- What is asked of a field: that it is there, or that it has a value. -/
structure FieldDemand where
  name : List Char
  hasValue : Bool
deriving Repr, DecidableEq

structure Directive where
  threshold : Threshold
  /-- What the names of the parts begin with. -/
  target : Option (List Char)
  /-- The span inside of which the events have to be. -/
  span : Option (List Char)
  fields : List FieldDemand
deriving Repr, DecidableEq

inductive DirectiveFault where
  | malformed
  | level
  /-- The value of a field is neither a number nor an expression. -/
  | value
  /-- The value of a field asks where words of all scripts end. -/
  | words
deriving Repr, DecidableEq

def DirectiveFault.message : DirectiveFault → String
  | malformed => "invalid filter directive"
  | level =>
    "error parsing level filter: expected one of \"off\", \"error\", \"warn\", \"info\", \"debug\", \"trace\", "
      ++ "or a number 0-5"
  | value => "invalid field filter: error building NFA"
  | words =>
    "invalid field filter: unsupported regex feature for DFAs: cannot build DFAs for regexes with Unicode word "
      ++ "boundaries; switch to ASCII word boundaries, or heuristically enable Unicode word boundaries or use a "
      ++ "different regex engine"

namespace FieldDemand

/-- Whether a text is a number, also one that is infinite or none at all. -/
def isNumber (text : List Char) : Bool :=
  let unsigned := match text with
    | '+' :: rest => rest
    | '-' :: rest => rest
    | _ => text
  (Decimal.Digits.read? text).isSome
    || ["inf", "infinity", "nan"].contains (String.ofList (Text.lowerAscii unsigned))

/-- A value is a number or an expression. -/
def checkValue (text : List Char) : Except DirectiveFault Unit :=
  if isNumber text then .ok ()
  else
    match Pattern.readPart .unicode text with
    | .ok part => if part.pattern.asksForWords then .error .words else .ok ()
    | .error _ => .error .value

/-- A name with perhaps a value behind an equals sign. -/
def read (text : List Char) : Except DirectiveFault FieldDemand := do
  if text.isEmpty then throw .malformed
  match text.dropWhile (· ≠ '=') with
  | _ :: behind =>
    checkValue (behind.takeWhile (· ≠ '='))
    return ⟨text.takeWhile (· ≠ '='), true⟩
  | [] => return ⟨text, false⟩

end FieldDemand

namespace Directive

/-! ## Reading -/

/-- Where a reader is in the text of a directive. Some places know where they began. -/
inductive Place where
  | start
  | levelOrTarget (first : Nat)
  | span (first : Nat)
  | field (first : Nat)
  | afterField
  | afterSpan
  | level (first : Nat)

def levelOf (text : List Char) : Except DirectiveFault Threshold :=
  if text.isEmpty then .ok (some .trace)
  else
    match Threshold.ofText? text with
    | some t => .ok t
    | none => .error .level

/-- What a directive may begin with that is no bracket. -/
def isStart (c : Char) : Bool :=
  c == '-' || c == ':' || c == '_' || Unicode.Property.alphanumeric.contains c

/-- One more character, which has a number. Pieces are cut out of the whole text by such numbers. -/
def step (text : List Char) (d : Directive) (place : Place) (i : Nat) (c : Char) :
    Except DirectiveFault (Directive × Place) :=
  let piece (first : Nat) := (text.drop first).take (i - first)
  match place with
  | .start =>
    if c = '[' then .ok (d, .span (i + 1))
    else if isStart c then .ok (d, .levelOrTarget i)
    else .error .malformed
  | .levelOrTarget first =>
    if c = '=' then .ok ({ d with target := some (piece first) }, .level (i + 1))
    else if c = '[' then .ok ({ d with target := some (piece first) }, .span (i + 1))
    else .ok (d, place)
  | .span first =>
    if c = ']' then .ok ({ d with span := some (piece first) }, .afterSpan)
    else if c = '\x7b' then
      .ok ({ d with span := if (piece first).isEmpty then none else some (piece first) }, .field (i + 1))
    else .ok (d, place)
  | .field first =>
    if c = '\x7d' then do
      let demand ← FieldDemand.read (piece first)
      return ({ d with fields := d.fields ++ [demand] }, .afterField)
    else .ok (d, place)
  | .afterField => if c = ']' then .ok (d, .afterSpan) else .error .malformed
  | .afterSpan => if c = '=' then .ok (d, .level (i + 1)) else .error .malformed
  | .level _ => .ok (d, place)

def steps (text : List Char) (d : Directive) (place : Place) (i : Nat) :
    List Char → Except DirectiveFault (Directive × Place)
  | [] => .ok (d, place)
  | c :: rest => do
    let (d, place) ← step text d place i c
    steps text d place (i + 1) rest

/-- What the end of the text makes of a directive. A word that is no level is a target for which all is let
through. -/
def finish (text : List Char) (d : Directive) : Place → Except DirectiveFault Directive
  | .levelOrTarget first =>
    let word := text.drop first
    match if word.isEmpty then some (some Level.trace) else Threshold.ofText? word with
    | some t => .ok { d with threshold := t }
    | none => .ok { d with target := some word }
  | .level first => do return { d with threshold := ← levelOf (text.drop first) }
  | .afterSpan => .ok d
  | _ => .error .malformed

/-- The directive that a text says. Blanks around it are not read, but the pieces are cut as if they had
been. -/
def read (text : List Char) : Except DirectiveFault Directive := do
  let (d, place) ← steps text ⟨some .trace, none, none, []⟩ .start 0 (Text.trim text)
  finish text d place

/-! ## Meaning -/

/-- A directive for all events. -/
def forAll (threshold : Threshold) : Directive := ⟨threshold, none, none, []⟩

/-- Whether a directive says the same of all events, in whatever span they are. -/
def isStatic (d : Directive) : Bool := d.span.isNone && !d.fields.any FieldDemand.hasValue

def fieldNames (d : Directive) : List String := d.fields.map fun demand => String.ofList demand.name

/-- Whether a directive is about an event. -/
def covers (d : Directive) (e : Event) : Bool :=
  (match d.target with
    | some target => target.isPrefixOf e.target.toList
    | none => true)
    && d.fieldNames.all (e.members.map Prod.fst).contains

/-- How exactly a directive says what it is about: by the length of its target, then by the number of its
fields. What is equally exact is in the order of the names. -/
def order (a b : Directive) : Ordering :=
  let target := fun (d : Directive) => d.target.map String.ofList
  (compare ((target a).map String.utf8ByteSize) ((target b).map String.utf8ByteSize)).then <|
    (compare a.fields.length b.fields.length).then <|
      (compare (target a) (target b)).then (compare a.fieldNames b.fieldNames)

end Directive

end CatalogGate.Log
