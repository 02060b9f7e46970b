-- Text in double quotes for messages: what cannot be seen is written by its code point.
import CatalogGate.Unicode.Property

namespace CatalogGate.Text

/-- Whether a character shows nothing by itself. -/
def isHidden (c : Char) : Bool :=
  if c.toNat < 0x7F then c.toNat < 0x20 else Unicode.Property.hidden.contains c

def escapeForMessage (c : Char) : List Char :=
  if c = '"' then ['\\', '"']
  else if c = '\\' then ['\\', '\\']
  else if c = '\n' then ['\\', 'n']
  else if c = '\r' then ['\\', 'r']
  else if c = '\t' then ['\\', 't']
  else if c = '\x00' then ['\\', '0']
  else if isHidden c then ['\\', 'u', '{'] ++ Nat.toDigits 16 c.toNat ++ ['}']
  else [c]

/-- A string in double quotes. -/
def quoted (s : String) : String := String.ofList ('"' :: (s.toList.flatMap escapeForMessage ++ ['"']))

end CatalogGate.Text
