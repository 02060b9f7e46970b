-- Addresses of hosts as texts: names in ASCII and numbers.
import CatalogGate.Decimal.Reading
import CatalogGate.Text.Hex

namespace CatalogGate.Schema.Address

/-- The pieces between the places of a character. -/
def split (mark : Char) (cs : List Char) : List (List Char) :=
  cs.foldr (fun c pieces =>
    if c = mark then [] :: pieces
    else
      match pieces with
      | piece :: more => (c :: piece) :: more
      | [] => [[c]]) [[]]

/-! ## Names -/

/-- A part of a host name: letters, digits and dashes, of which none stands at an end. -/
def isLabel (cs : List Char) : Bool :=
  !cs.isEmpty && cs.length ≤ 63 && cs.all (fun c => c.isAlphanum || c == '-')
    && cs.head? != some '-' && cs.getLast? != some '-'

def isHostname (cs : List Char) : Bool := cs.length ≤ 253 && (split '.' cs).all isLabel

/-! ## Numbers -/

/-- A number up to 255 without zeros in front. -/
def isOctet (cs : List Char) : Bool :=
  !cs.isEmpty && cs.length ≤ 3 && cs.all Char.isDigit && (cs.length == 1 || cs.head? != some '0')
    && Decimal.natOfDigits cs ≤ 255

def isIpv4 (cs : List Char) : Bool :=
  let parts := split '.' cs
  parts.length == 4 && parts.all isOctet

def isHexGroup (cs : List Char) : Bool := !cs.isEmpty && cs.length ≤ 4 && cs.all Text.isHexDigit

/-- How many groups of 16 bits a run of groups between colons makes. The last part may be an address of
32 bits. -/
def groupCount? (cs : List Char) : Option Nat :=
  if cs.isEmpty then some 0
  else
    let parts := split ':' cs
    let (last, first) := (parts.getLast?.getD [], parts.dropLast)
    if !first.all isHexGroup then none
    else if isHexGroup last then some parts.length
    else if isIpv4 last then some (parts.length + 1)
    else none

/-- What stands before and behind the first two colons side by side. -/
def splitGap (read : List Char) : List Char → Option (List Char × List Char)
  | ':' :: ':' :: rest => some (read.reverse, rest)
  | c :: rest => splitGap (c :: read) rest
  | [] => none

def isIpv6 (cs : List Char) : Bool :=
  match splitGap [] cs with
  | none => groupCount? cs == some 8
  | some (front, back) =>
    let frontCount := if front.contains '.' then none else groupCount? front
    match frontCount, groupCount? back with
    | some m, some n => m + n ≤ 7
    | _, _ => false

end CatalogGate.Schema.Address
