-- Templates of identifiers: text with expressions in braces, such as `/pets/{id}`. The digits of bytes and the
-- letters of names are small.
import CatalogGate.Schema.Format.Address

namespace CatalogGate.Schema.Template

def isSmallHexDigit (c : Char) : Bool := c.isDigit || ('a' ≤ c && c ≤ 'f')

/-- Whether a text, which must not be empty, holds only certain characters and bytes written with `%`. -/
def isEncoded (isIn : Char → Bool) : List Char → Bool
  | [] => true
  | '%' :: x :: y :: rest => isSmallHexDigit x && isSmallHexDigit y && isEncoded isIn rest
  | c :: rest => c != '%' && isIn c && isEncoded isIn rest

/-- How much of a value is meant: a number of characters, or all of it as a list. -/
def isModifier (cs : List Char) : Bool :=
  match cs with
  | [] => true
  | ['*'] => true
  | ':' :: first :: more =>
    '1' ≤ first && first ≤ '9' && more.length ≤ 3 && more.all Char.isDigit
  | _ => false

def isModifierMark (c : Char) : Bool := c == ':' || c == '*'

/-- A name with perhaps a modifier. -/
def isVariable (cs : List Char) : Bool :=
  let name := cs.takeWhile (!isModifierMark ·)
  !name.isEmpty && isEncoded (fun c => c.isLower || c.isDigit || c == '_') name
    && isModifier (cs.dropWhile (!isModifierMark ·))

def isExpression (cs : List Char) : Bool :=
  let names := match cs with
    | c :: rest => if "+#./;?&=,!@|".contains c then rest else cs
    | [] => []
  (Address.split ',' names).all isVariable

def isLiteral (c : Char) : Bool := 0x20 < c.toNat && !"\"'<>\\^\x60\x7b|\x7d".contains c

/-- Text outside of braces, and the expressions in between. -/
def isTemplate (cs : List Char) : Bool :=
  match Address.split '\x7b' cs with
  | first :: others =>
    isEncoded isLiteral first
      && others.all fun piece =>
        match piece.dropWhile (· ≠ '\x7d') with
        | _ :: literal => isExpression (piece.takeWhile (· ≠ '\x7d')) && isEncoded isLiteral literal
        | [] => false
  | [] => true

end CatalogGate.Schema.Template
