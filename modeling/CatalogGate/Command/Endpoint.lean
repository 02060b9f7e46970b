-- Numeric addresses at which the server listens: a host and a 16-bit number behind a colon.
import CatalogGate.Schema.Format.Address
import CatalogGate.Text.Hex

namespace CatalogGate

inductive Endpoint.Host where
  | v4 (octets : List Nat)
  /-- Eight groups of 16 bits, and a scope, which is none if it is zero. -/
  | v6 (groups : List Nat) (scope : Nat)
deriving Repr, DecidableEq

structure Endpoint where
  host : Endpoint.Host
  portNumber : Nat
deriving Repr, DecidableEq

namespace Endpoint

open Schema.Address (split isIpv4 isIpv6 splitGap)

/-! ## Reading -/

/-- A number in decimal digits that is below a limit. -/
def number? (limit : Nat) (cs : List Char) : Option Nat :=
  if cs.isEmpty || !cs.all Char.isDigit then none
  else
    let n := Decimal.natOfDigits cs
    if n < limit then some n else none

def octets (cs : List Char) : List Nat := (split '.' cs).map Decimal.natOfDigits

def hexNumber (cs : List Char) : Nat := cs.foldl (fun n c => 16 * n + (Text.hexValue? c).getD 0) 0

/-- The groups of a part between colons. Four octets are two groups. -/
def groupsOfPart (part : List Char) : List Nat :=
  match octets part with
  | [a, b, c, d] => [256 * a + b, 256 * c + d]
  | _ => [hexNumber part]

def groupsOfRun (cs : List Char) : List Nat := if cs.isEmpty then [] else (split ':' cs).flatMap groupsOfPart

/-- All eight groups. Two colons side by side stand for as many zeros as are missing. -/
def groups (cs : List Char) : List Nat :=
  match splitGap [] cs with
  | none => groupsOfRun cs
  | some (front, back) =>
    let (front, back) := (groupsOfRun front, groupsOfRun back)
    front ++ List.replicate (8 - front.length - back.length) 0 ++ back

/-- What stands in brackets: an address and, behind a percent sign, a scope. -/
def v6? (cs : List Char) : Option Host :=
  let address := cs.takeWhile (· ≠ '%')
  let scope := match cs.drop address.length with
    | _ :: digits => number? UInt32.size digits
    | [] => some 0
  if isIpv6 address then scope.map fun scope => .v6 (groups address) scope else none

def host? (cs : List Char) : Option Host :=
  match cs with
  | '[' :: rest => if rest.getLast? = some ']' then v6? rest.dropLast else none
  | _ => if isIpv4 cs then some (.v4 (octets cs)) else none

def read? (text : String) : Option Endpoint :=
  let cs := text.toList
  let portNumber := (cs.reverse.takeWhile (· ≠ ':')).reverse
  let rest := cs.take (cs.length - portNumber.length)
  if rest.getLast? = some ':' then do
    return ⟨← host? rest.dropLast, ← number? UInt16.size portNumber⟩
  else none

/-! ## Text -/

def v4Text (octets : List Nat) : String := ".".intercalate (octets.map toString)

def groupText (n : Nat) : String := String.ofList (Nat.toDigits 16 n)

def groupsText (groups : List Nat) : String := ":".intercalate (groups.map groupText)

/-- Where the longest run of zeros begins, of several the first, and how long it is. -/
def longestGap (i : Nat) (groups : List Nat) : Nat × Nat :=
  match groups with
  | [] => (i, 0)
  | _ :: rest =>
    let here := (groups.takeWhile (· = 0)).length
    let later := longestGap (i + 1) rest
    if later.2 ≤ here then (i, here) else later

def v6Text (groups : List Nat) : String :=
  match groups with
  | [0, 0, 0, 0, 0, 0xffff, a, b] => "::ffff:" ++ v4Text [a / 256, a % 256, b / 256, b % 256]
  | _ =>
    let (first, count) := longestGap 0 groups
    if count ≤ 1 then groupsText groups
    else groupsText (groups.take first) ++ "::" ++ groupsText (groups.drop (first + count))

def text (e : Endpoint) : String :=
  match e.host with
  | .v4 octets => s!"{v4Text octets}:{e.portNumber}"
  | .v6 groups 0 => s!"[{v6Text groups}]:{e.portNumber}"
  | .v6 groups scope => s!"[{v6Text groups}%{scope}]:{e.portNumber}"

end Endpoint

end CatalogGate
