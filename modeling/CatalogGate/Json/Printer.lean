-- The two texts of a JSON value: compact on one line, and indented.
import CatalogGate.Json.Basic
import CatalogGate.Decimal.Layout

namespace CatalogGate.Json

/-- Written out while the point stands from four places before to sixteen places after the first digit. -/
def amount : Decimal.Layout := ⟨-4, 16, true, true⟩

def Number.text : Number → String
  | int i => toString i
  | float f => amount.float f

/-! ## Quoted strings -/

def hexDigit (n : Nat) : Char := (Nat.toDigits 16 n).headD '0'

/-- A quote, a backslash and the control characters are escaped; all else stands for itself. -/
def escape (c : Char) : List Char :=
  if c = '"' then ['\\', '"']
  else if c = '\\' then ['\\', '\\']
  else if c = '\n' then ['\\', 'n']
  else if c = '\r' then ['\\', 'r']
  else if c = '\t' then ['\\', 't']
  else if c = '\x08' then ['\\', 'b']
  else if c = '\x0c' then ['\\', 'f']
  else if c.toNat < 0x20 then ['\\', 'u', '0', '0', hexDigit (c.toNat / 16), hexDigit (c.toNat % 16)]
  else [c]

def quote (s : String) : String := String.ofList ('"' :: (s.toList.flatMap escape ++ ['"']))

/-! ## Compact text -/

mutual

/-- The value on one line, without blanks. -/
def compact : Json → String
  | null => "null"
  | bool true => "true"
  | bool false => "false"
  | number n => n.text
  | string s => quote s
  | array [] => "[]"
  | array (v :: rest) => "[" ++ compact v ++ compactItems rest ++ "]"
  | object [] => "\x7b\x7d"
  | object ((k, v) :: rest) => "\x7b" ++ quote k ++ ":" ++ compact v ++ compactMembers rest ++ "\x7d"

def compactItems : List Json → String
  | [] => ""
  | v :: rest => "," ++ compact v ++ compactItems rest

def compactMembers : List (String × Json) → String
  | [] => ""
  | (k, v) :: rest => "," ++ quote k ++ ":" ++ compact v ++ compactMembers rest

end

/-! ## Indented text -/

/-- The start of a line at a depth, two blanks for each level. -/
def newline (depth : Nat) : String := "\n" ++ String.ofList (List.replicate (2 * depth) ' ')

mutual

/-- The value over several lines, from a depth on. Empty arrays and objects stay on their line. -/
def indented (depth : Nat) : Json → String
  | array (v :: rest) =>
    "[" ++ newline (depth + 1) ++ indented (depth + 1) v ++ indentedItems depth rest ++ newline depth ++ "]"
  | object ((k, v) :: rest) =>
    "\x7b" ++ newline (depth + 1) ++ quote k ++ ": " ++ indented (depth + 1) v
      ++ indentedMembers depth rest ++ newline depth ++ "\x7d"
  | array [] => "[]"
  | object [] => "\x7b\x7d"
  | null => "null"
  | bool true => "true"
  | bool false => "false"
  | number n => n.text
  | string s => quote s

def indentedItems (depth : Nat) : List Json → String
  | [] => ""
  | v :: rest => "," ++ newline (depth + 1) ++ indented (depth + 1) v ++ indentedItems depth rest

def indentedMembers (depth : Nat) : List (String × Json) → String
  | [] => ""
  | (k, v) :: rest =>
    "," ++ newline (depth + 1) ++ quote k ++ ": " ++ indented (depth + 1) v ++ indentedMembers depth rest

end

def pretty (value : Json) : String := indented 0 value

/-- The text of a value inside a message: a string bare, all else compact. -/
def display : Json → String
  | string s => s
  | value => compact value

end CatalogGate.Json
