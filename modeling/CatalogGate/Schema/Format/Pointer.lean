-- Pointers into documents as texts.
import CatalogGate.Schema.Format.Address

namespace CatalogGate.Schema.Pointer

/-- Every tilde has a zero or a one behind it. -/
def tildesEscaped : List Char → Bool
  | [] => true
  | '~' :: '0' :: rest => tildesEscaped rest
  | '~' :: '1' :: rest => tildesEscaped rest
  | '~' :: _ => false
  | _ :: rest => tildesEscaped rest

def isPointer (cs : List Char) : Bool := cs.isEmpty || (cs.head? == some '/' && tildesEscaped cs)

/-- A number of levels up, and then a pointer or a number sign. -/
def isRelativePointer (cs : List Char) : Bool :=
  let digits := cs.takeWhile Char.isDigit
  let rest := cs.dropWhile Char.isDigit
  !digits.isEmpty && (digits.length == 1 || digits.head? != some '0') && (rest == ['#'] || isPointer rest)

end CatalogGate.Schema.Pointer
