-- Punycode: characters of all scripts written with letters, digits and dashes of ASCII. The characters of
-- ASCII come first; what stands behind the last dash says which others stand where.
namespace CatalogGate.Text.Punycode

/-- The letters stand for the digits up to 25, the digits for those up to 35. -/
def digitValue? (c : Char) : Option Nat :=
  if c.isUpper then some (c.toNat - 'A'.toNat)
  else if c.isLower then some (c.toNat - 'a'.toNat)
  else if c.isDigit then some (c.toNat - '0'.toNat + 26)
  else none

/-- The last value of the digit at a position, counted in steps of 36. -/
def threshold (position bias : Nat) : Nat := min 26 (max 1 (position - bias))

/-- Halves a distance until the digits of the next one fit. -/
def adaptBy (steps delta : Nat) : Nat :=
  if 455 < delta then adaptBy (steps + 36) (delta / 35) else steps + 36 * delta / (delta + 38)
termination_by delta

/-- What the distance before says about the digits of the next one. -/
def adapt (delta count : Nat) (isFirst : Bool) : Nat :=
  let delta := if isFirst then delta / 700 else delta / 2
  adaptBy 0 (delta + delta / count)

/-! ## Decoding -/

/-- The number whose digits stand first, the least one in front, and the text behind it. -/
def readNumber (bias : Nat) (position weight sum : Nat) : List Char → Option (Nat × List Char)
  | [] => none
  | c :: rest => do
    let digit ← digitValue? c
    let sum := sum + digit * weight
    let t := threshold position bias
    if digit < t then some (sum, rest) else readNumber bias (position + 36) (weight * (36 - t)) sum rest

theorem length_readNumber {bias position weight sum n : Nat} {cs rest : List Char}
    (h : readNumber bias position weight sum cs = some (n, rest)) : rest.length < cs.length := by
  induction cs generalizing position weight sum with
  | nil => simp [readNumber] at h
  | cons c cs ih =>
    simp only [readNumber, Option.bind_eq_bind] at h
    cases hd : digitValue? c with
    | none => simp [hd] at h
    | some digit =>
      simp only [hd, Option.bind_some] at h
      split at h
      · simp only [Option.some.injEq, Prod.mk.injEq] at h
        simp [h.2]
      · have := ih h
        simp only [List.length_cons]
        omega

/-- Puts in the characters that a text describes, from a code point and an index on. -/
def insertAll (n i bias : Nat) (isFirst : Bool) (out : List Char) (cs : List Char) : Option (List Char) :=
  match cs with
  | [] => some out
  | c :: rest =>
    match _h : readNumber bias 36 1 0 (c :: rest) with
    | none => none
    | some (delta, behind) =>
      let count := out.length + 1
      let i := i + delta
      let n := n + i / count
      if n.isValidChar then
        insertAll n (i % count + 1) (adapt delta count isFirst) false (out.insertIdx (i % count) (Char.ofNat n))
          behind
      else none
termination_by cs.length
decreasing_by exact length_readNumber _h

/-- The characters that a text stands for. -/
def decode? (cs : List Char) : Option (List Char) :=
  let behind := (cs.reverse.takeWhile (· ≠ '-')).reverse
  let plain := if behind.length = cs.length then [] else cs.take (cs.length - behind.length - 1)
  if cs.all (·.toNat < 0x80) then insertAll 128 0 72 true plain behind else none

/-! ## The length of what is encoded -/

/-- How many digits write a number. -/
def digitCount (bias position : Nat) : Nat → Nat → Nat
  | 0, _ => 1
  | fuel + 1, n =>
    let t := threshold position bias
    if n < t then 1 else 1 + digitCount bias (position + 36) fuel ((n - t) / (36 - t))

/-- A state of encoding: how far the last character is, and what has been written. -/
structure Encoder where
  delta : Nat
  bias : Nat
  /-- How many characters have been dealt with. -/
  count : Nat
  isFirst : Bool
  size : Nat

/-- Deals with one character of the text when the characters up to `n` have been dealt with. -/
def Encoder.pass (n : Nat) (e : Encoder) (c : Char) : Encoder :=
  if c.toNat < n then { e with delta := e.delta + 1 }
  else if c.toNat = n then
    { delta := 0, bias := adapt e.delta (e.count + 1) e.isFirst, count := e.count + 1, isFirst := false
      size := e.size + digitCount e.bias 36 e.delta e.delta }
  else e

/-- How many characters the text takes that stands for some characters. -/
def encodedLength (cs : List Char) : Nat :=
  let plain := cs.countP (·.toNat < 0x80)
  let others := ((cs.filter (0x80 ≤ ·.toNat)).map Char.toNat).mergeSort.eraseDups
  let start : Encoder := ⟨0, 72, plain, true, if plain = 0 then 0 else plain + 1⟩
  let (e, _) := others.foldl (fun (e, last) n =>
    let e := { e with delta := e.delta + (n - last) * (e.count + 1) }
    let e := cs.foldl (Encoder.pass n) e
    ({ e with delta := e.delta + 1 }, n + 1)) (start, 128)
  e.size

end CatalogGate.Text.Punycode
