-- Patterns of schemas: expressions that are found as plain patterns where that is possible, and otherwise by
-- trying one way after the other.
import CatalogGate.Pattern.Expression.Reader
import CatalogGate.Pattern.Program

namespace CatalogGate.Pattern

inductive Search where
  | plain (p : Pattern)
  | guided (p : Program)

namespace Search

/-- The text of an expression with the dialect in which it is written. What looks around or refers to groups
is taken as it stands, with classes of all scripts. A backslash, a small `c` and a letter stand for a control
character. Other faults make the text no expression. -/
def dialect? : Nat → List Char → Option (Dialect × List Char)
  | 0, _ => none
  | fuel + 1, text =>
    match readPart .schema text with
    | .ok _ => some (.schema, text)
    | .error .lookAround | .error .backreference => some (.unicode, text)
    | .error (.unknownEscape ('c' :: c :: rest)) =>
      if c.isAlpha then
        dialect? fuel (text.take (text.length - (rest.length + 3)) ++ Char.ofNat (c.toNat % 32) :: rest)
      else none
    | .error _ => none

/-- The search for the expression that a text writes. -/
def read? (text : List Char) : Option Search := do
  let (d, text) ← dialect? (text.length + 1) text
  let reading ← Expression.read? d text
  if reading.expression.isPlain reading.referred then
    if Expression.sizeLimit < reading.expression.size then none
    else some (.plain reading.expression.pattern)
  else (Program.ofExpression? reading.expression reading.groups reading.referred).map guided

def run (s : Search) (text : List Char) : Program.Outcome :=
  match s with
  | plain p => if p.isFoundIn text then .found else .absent
  | guided p => p.run text

/-- Whether the search ends with success. -/
def finds (s : Search) (text : String) : Bool := s.run text.toList == .found

end Search

end CatalogGate.Pattern
