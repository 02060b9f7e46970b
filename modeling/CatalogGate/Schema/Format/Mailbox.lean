-- Mailboxes as texts: a name, an at sign, and a host.
import CatalogGate.Schema.Format.Address
import CatalogGate.Text.Blank
import CatalogGate.Unicode.Property

namespace CatalogGate.Schema.Mailbox

/-! ## Characters -/

/-- Characters beyond ASCII that need not be letters: those of two bytes that encode a character in UTF-8. -/
def isBytePair (c : Char) : Bool :=
  let (high, low) := (c.toNat / 0x100, c.toNat % 0x100)
  0xC2 ≤ high && high ≤ 0xDF && 0x80 ≤ low && low ≤ 0xBF

/-- A character of a word. -/
def isWordChar (c : Char) : Bool :=
  Unicode.Property.alphanumeric.contains c || "!#$%&'*+-/=?^_\x60\x7b|\x7d~".contains c || isBytePair c

/-- A character that is seen. -/
def isVisible (c : Char) : Bool := '!' ≤ c && c ≤ '~'

def isQuotable (c : Char) : Bool := (isVisible c && c != '"' && c != '\\') || c == ' ' || c == '\t' || isBytePair c

def isBracketable (c : Char) : Bool := (isVisible c && c != '[' && c != '\\' && c != ']') || isBytePair c

/-! ## Parts -/

def isWord (cs : List Char) : Bool := !cs.isEmpty && cs.all isWordChar

/-- What may stand between quotes. A backslash protects the next character. -/
def isQuotedContent : List Char → Bool
  | [] => true
  | '\\' :: c :: rest => isVisible c && isQuotedContent rest
  | c :: rest => isQuotable c && isQuotedContent rest

/-- How many bytes a text takes. -/
def size (cs : List Char) : Nat := (String.ofList cs).utf8ByteSize

/-- The part before the at sign: words with points between, or anything in quotes. -/
def isLocalPart (cs : List Char) : Bool :=
  let words := (Address.split '.' cs).all isWord
  size cs ≤ 64 &&
    match cs with
    | '"' :: rest =>
      if rest.getLast? = some '"' ∧ 2 ≤ rest.length then isQuotedContent rest.dropLast else words
    | _ => words

/-- A host, or a numeric address in brackets. -/
def isDomain (isHost : List Char → Bool) (cs : List Char) : Bool :=
  match cs with
  | '[' :: rest =>
    let inner := rest.dropLast
    rest.getLast? == some ']' && inner.all isBracketable
      && (if "IPv6:".toList.isPrefixOf inner then Address.isIpv6 (inner.drop 5) else Address.isIpv4 inner)
  | _ => size cs ≤ 254 && (Address.split '.' cs).all (fun label => isWord label && size label ≤ 63) && isHost cs

/-! ## The whole -/

/-- What stands before and behind the last place of some characters, whose order is turned, in a text whose
order is turned too. -/
def splitLast? (mark behind : List Char) : List Char → Option (List Char × List Char)
  | [] => none
  | c :: rest =>
    if mark.isPrefixOf (c :: rest) then some (((c :: rest).drop mark.length).reverse, behind)
    else splitLast? mark (c :: behind) rest

/-- The mailbox without the name of its owner, who may be written in front of angle brackets. -/
def bare? (cs : List Char) : Option (List Char) :=
  match splitLast? ['<', ' '] [] cs.reverse with
  | some (_, bracketed) =>
    let bracketed := Text.trim bracketed
    if bracketed.getLast? = some '>' then some bracketed.dropLast else none
  | none => some cs

def isMailbox (isHost : List Char → Bool) (cs : List Char) : Bool :=
  match (bare? cs).bind fun bare => splitLast? ['@'] [] bare.reverse with
  | some (name, domain) => !name.isEmpty && isLocalPart name && isDomain isHost domain
  | none => false

end CatalogGate.Schema.Mailbox
