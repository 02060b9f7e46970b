-- Patterns of text, and whether one is found in a text. A set of places in a text is a number: bit `i` is
-- set if the place before the `i`-th character belongs to it. A pattern moves such sets forward.
import CatalogGate.Text.CharSet

namespace CatalogGate

/-- What a pattern can demand of a place without moving on. -/
inductive Boundary where
  | textStart
  | textEnd
  | lineStart
  | lineEnd
  /-- Lines end with a carriage return, a line feed or both. -/
  | anyLineStart
  | anyLineEnd
  | word
  | notWord
  | wordStart
  | wordEnd
  | beforeNonWord
  | behindNonWord
deriving Repr, DecidableEq

namespace Boundary

/-- Whether a place between two characters, of which either may be absent, is such a boundary. Words are
made of certain characters. -/
def holds (words : CharSet) (b : Boundary) (before after : Option Char) : Bool :=
  let isWord := fun (c : Option Char) => c.any words.contains
  match b with
  | textStart => before.isNone
  | textEnd => after.isNone
  | lineStart => before.isNone || before == some '\n'
  | lineEnd => after.isNone || after == some '\n'
  | anyLineStart =>
    before.isNone || before == some '\n' || (before == some '\r' && after != some '\n')
  | anyLineEnd =>
    after.isNone || after == some '\r' || (after == some '\n' && before != some '\r')
  | word => isWord before != isWord after
  | notWord => isWord before == isWord after
  | wordStart => !isWord before && isWord after
  | wordEnd => isWord before && !isWord after
  | behindNonWord => !isWord before
  | beforeNonWord => !isWord after

end Boundary

inductive Pattern where
  | empty
  | one (s : CharSet)
  | boundary (b : Boundary)
  | sequence (a b : Pattern)
  | choice (a b : Pattern)
  | repeated (least : Nat) (most : Option Nat) (p : Pattern)
  /-- Whether, as wanted, `p` is found straight ahead of the place, or straight behind it. -/
  | look (ahead wanted : Bool) (p : Pattern)
deriving Repr, DecidableEq

namespace Pattern

/-- Whether a pattern asks somewhere whether a word begins or ends. -/
def asksForWords : Pattern → Bool
  | boundary b => !([Boundary.textStart, .textEnd, .lineStart, .lineEnd, .anyLineStart, .anyLineEnd].contains b)
  | sequence a b => a.asksForWords || b.asksForWords
  | choice a b => a.asksForWords || b.asksForWords
  | repeated _ _ p => p.asksForWords
  | look _ _ p => p.asksForWords
  | _ => false

/-! ## Sets of places -/

/-- The characters before and behind each place of a text. -/
def surroundings (text : List Char) : List (Option Char × Option Char) :=
  (none :: text.map some).zip (text.map some ++ [none])

/-- The places of a text at which a test holds. -/
def places (text : List Char) (test : Option Char → Option Char → Bool) : Nat :=
  (surroundings text).foldr (fun (before, after) above => 2 * above + (test before after).toNat) 0

/-! ## A pattern laid on a text -/

/-- A pattern whose tests have been made at every place of one text. -/
inductive Moves where
  | stay (places : Nat)
  /-- One character further, from certain places. -/
  | step (places : Nat)
  | sequence (a b : Moves)
  | choice (a b : Moves)
  | repeated (least : Nat) (most : Option Nat) (m : Moves)

/-- Moves a set `n` times, or until that changes nothing any more. -/
def times (move : Nat → Nat) : Nat → Nat → Nat
  | 0, s => s
  | n + 1, s => if move s = s then s else times move n (move s)

/-- Moves a set up to `n` times, as long as that adds places. -/
def upTo (move : Nat → Nat) : Nat → Nat → Nat
  | 0, s => s
  | n + 1, s => if s ||| move s = s then s else upTo move n (s ||| move s)

/-- The places to which moves lead from a set of places. In a text of `size` characters more than `size`
optional repetitions add nothing. -/
def Moves.ends (size : Nat) : Moves → Nat → Nat
  | .stay places, s => s &&& places
  | .step places, s => (s &&& places) <<< 1
  | .sequence a b, s => b.ends size (a.ends size s)
  | .choice a b, s => a.ends size s ||| b.ends size s
  | .repeated least most m, s =>
    let further := match most with
      | some most => min (most - least) (size + 1)
      | none => size + 1
    upTo (m.ends size) further (times (m.ends size) least s)

/-- The places from which moves lead anywhere. -/
def Moves.starts (size : Nat) (m : Moves) : Nat :=
  (List.range (size + 1)).foldl (fun found i => if m.ends size (1 <<< i) = 0 then found else found ||| 1 <<< i) 0

/-- All places of a text of `size` characters. -/
def everywhere (size : Nat) : Nat := (1 <<< (size + 1)) - 1

/-- Makes the tests of a pattern at every place of a text. -/
def lay (text : List Char) (size : Nat) : Pattern → Moves
  | empty => .stay (everywhere size)
  | one s => .step (places text fun _ after => after.any s.contains)
  | boundary b => .stay (places text (b.holds .words))
  | sequence a b => .sequence (lay text size a) (lay text size b)
  | choice a b => .choice (lay text size a) (lay text size b)
  | repeated least most p => .repeated least most (lay text size p)
  | look ahead wanted p =>
    let moves := lay text size p
    let found := if ahead then moves.starts size else moves.ends size (everywhere size)
    .stay (if wanted then found else everywhere size ^^^ found)

/-- Whether a pattern is found anywhere in a text. -/
def isFoundIn (p : Pattern) (text : List Char) : Bool :=
  let size := text.length
  (lay text size p).ends size (everywhere size) != 0

/-! ## Pieces -/

/-- Patterns one behind the other. -/
def sequences : List Pattern → Pattern
  | [] => empty
  | [p] => p
  | p :: rest => sequence p (sequences rest)

/-- Any of several patterns. -/
def choices : List Pattern → Pattern
  | [] => one .none
  | [p] => p
  | p :: rest => choice p (choices rest)

def char (c : Char) : Pattern := one (.single c)

def optional (p : Pattern) : Pattern := repeated 0 (some 1) p

/-- Once or more often. -/
def several (p : Pattern) : Pattern := repeated 1 none p

/-- Any number of times. -/
def many (p : Pattern) : Pattern := repeated 0 none p

/-- All of a text. -/
def whole (p : Pattern) : Pattern := sequence (boundary .textStart) (sequence p (boundary .textEnd))

/-- A text that starts with certain characters. -/
def startingWith (s : String) : Pattern := sequences (boundary .textStart :: s.toList.map char)

end Pattern

end CatalogGate
