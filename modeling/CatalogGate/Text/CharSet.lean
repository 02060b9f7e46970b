-- Sets of characters as ranges of code points, in order.
namespace CatalogGate

structure CharSet where
  /-- From one code point to another, both included. -/
  ranges : List (Nat × Nat)
  sorted : ranges.Pairwise (fun r s => r.1 ≤ s.1)
deriving Repr, DecidableEq

namespace CharSet

/-- Whether a code point lies in one of some ranges. -/
def covers (ranges : List (Nat × Nat)) (n : Nat) : Bool := ranges.any fun (low, high) => low ≤ n && n ≤ high

def contains (s : CharSet) (c : Char) : Bool := covers s.ranges c.toNat

/-! ## Making sets -/

def none : CharSet := ⟨[], .nil⟩

def range (low high : Nat) : CharSet := ⟨[(low, high)], by simp⟩

def single (c : Char) : CharSet := range c.toNat c.toNat

def between (low high : Char) : CharSet := range low.toNat high.toNat

/-- Joins ranges that touch. -/
def join : List (Nat × Nat) → List (Nat × Nat)
  | [] => []
  | [r] => [r]
  | (a, b) :: (c, d) :: rest =>
    if c ≤ b + 1 then join ((a, max b d) :: rest) else (a, b) :: join ((c, d) :: rest)
termination_by ranges => ranges.length

theorem le_of_mem_join {ranges : List (Nat × Nat)} {low : Nat} (h : ∀ r ∈ ranges, low ≤ r.1) :
    ∀ r ∈ join ranges, low ≤ r.1 := by
  fun_induction join ranges with
  | case1 => simp
  | case2 => simpa using h
  | case3 a b c d rest _ ih =>
    apply ih
    intro r hr
    rcases List.mem_cons.1 hr with rfl | hr
    · exact h (a, b) (by simp)
    · exact h r (by simp [hr])
  | case4 a b c d rest _ ih =>
    intro r hr
    rcases List.mem_cons.1 hr with rfl | hr
    · exact h _ (by simp)
    · exact ih (fun s hs => h s (by simp_all)) r hr

theorem sorted_join {ranges : List (Nat × Nat)} (h : ranges.Pairwise (fun r s => r.1 ≤ s.1)) :
    (join ranges).Pairwise (fun r s => r.1 ≤ s.1) := by
  fun_induction join ranges with
  | case1 => simp
  | case2 => simp
  | case3 a b c d rest _ ih =>
    apply ih
    simp only [List.pairwise_cons] at h ⊢
    exact ⟨fun s hs => h.1 s (by simp [hs]), h.2.2⟩
  | case4 a b c d rest _ ih =>
    simp only [List.pairwise_cons] at h ⊢
    refine ⟨?_, ih (by simpa using h.2)⟩
    apply le_of_mem_join
    intro r hr
    exact h.1 r hr

theorem sorted_mergeSort (ranges : List (Nat × Nat)) :
    (ranges.mergeSort fun r s => r.1 ≤ s.1).Pairwise (fun r s => r.1 ≤ s.1) := by
  have h : (ranges.mergeSort fun r s => r.1 ≤ s.1).Pairwise (fun r s => decide (r.1 ≤ s.1) = true) :=
    List.pairwise_mergeSort (fun a b c => by simpa using Nat.le_trans)
      (fun a b => by simpa using Nat.le_total a.1 b.1) ranges
  simpa using h

/-- The set that ranges in any order cover. -/
def ofRanges (ranges : List (Nat × Nat)) : CharSet :=
  ⟨join (ranges.mergeSort fun r s => r.1 ≤ s.1), sorted_join (sorted_mergeSort ranges)⟩

def unions (sets : List CharSet) : CharSet := ofRanges (sets.flatMap ranges)

def union (a b : CharSet) : CharSet := unions [a, b]

/-- What lies between ranges from a code point on. -/
def gaps (first : Nat) : List (Nat × Nat) → List (Nat × Nat)
  | [] => if first ≤ 0x10FFFF then [(first, 0x10FFFF)] else []
  | (low, high) :: rest =>
    (if first < low then [(first, low - 1)] else []) ++ gaps (max first (high + 1)) rest

theorem le_of_mem_gaps (first : Nat) (ranges : List (Nat × Nat)) : ∀ r ∈ gaps first ranges, first ≤ r.1 := by
  induction ranges generalizing first with
  | nil =>
    unfold gaps
    split <;> simp
  | cons head rest ih =>
    intro r hr
    rcases List.mem_append.1 hr with hr | hr
    · split at hr <;> simp_all
    · exact Nat.le_trans (Nat.le_max_left _ _) (ih _ r hr)

theorem sorted_gaps (first : Nat) (ranges : List (Nat × Nat)) :
    (gaps first ranges).Pairwise (fun r s => r.1 ≤ s.1) := by
  induction ranges generalizing first with
  | nil =>
    unfold gaps
    split <;> simp
  | cons head rest ih =>
    refine List.pairwise_append.2 ⟨?_, ih _, ?_⟩
    · split <;> simp
    · intro r hr s hs
      have := le_of_mem_gaps _ rest s hs
      split at hr
      · simp only [List.mem_singleton] at hr
        subst hr
        exact Nat.le_trans (Nat.le_max_left _ _) this
      · simp at hr

def complement (s : CharSet) : CharSet := ⟨gaps 0 s.ranges, sorted_gaps 0 s.ranges⟩

def intersection (a b : CharSet) : CharSet := (union a.complement b.complement).complement

/-- What is in the first set and not in the second. -/
def difference (a b : CharSet) : CharSet := intersection a b.complement

/-- What is in one of two sets only. -/
def symmetricDifference (a b : CharSet) : CharSet := union (difference a b) (difference b a)

/-! ## Case of the letters `A` to `Z` -/

/-- The part of a range between two characters, moved by a distance. -/
def movedPart (low high : Char) (move : Nat → Nat) (r : Nat × Nat) : Option (Nat × Nat) :=
  if r.1 ≤ high.toNat ∧ low.toNat ≤ r.2 then some (move (max r.1 low.toNat), move (min r.2 high.toNat))
  else .none

/-- The same letters in the other case. A range that holds small and capital letters counts for its small
letters only. -/
def otherCase (r : Nat × Nat) : Option (Nat × Nat) :=
  (movedPart 'a' 'z' (· - 32) r).orElse fun _ => movedPart 'A' 'Z' (· + 32) r

/-- With the other case of the letters from `A` to `Z` and `a` to `z`. -/
def anyCase (s : CharSet) : CharSet := ofRanges (s.ranges ++ s.ranges.filterMap otherCase)

/-! ## Named sets -/

def digits : CharSet := between '0' '9'

def upper : CharSet := between 'A' 'Z'

def lower : CharSet := between 'a' 'z'

def letters : CharSet := union upper lower

def words : CharSet := unions [digits, upper, single '_', lower]

def blanks : CharSet := union (between '\t' '\r') (single ' ')

/-- The sets that have names between colons. -/
def ofName? : String → Option CharSet
  | "alnum" => some (union digits letters)
  | "alpha" => some letters
  | "ascii" => some (range 0 0x7F)
  | "blank" => some (union (single '\t') (single ' '))
  | "cntrl" => some (union (range 0 0x1F) (range 0x7F 0x7F))
  | "digit" => some digits
  | "graph" => some (between '!' '~')
  | "lower" => some lower
  | "print" => some (between ' ' '~')
  | "punct" => some (unions [between '!' '/', between ':' '@', between '[' '\x60', between '\x7b' '~'])
  | "space" => some blanks
  | "upper" => some upper
  | "word" => some words
  | "xdigit" => some (unions [digits, between 'A' 'F', between 'a' 'f'])
  | _ => Option.none

/-! ## Laws -/

theorem contains_between (low high c : Char) :
    (between low high).contains c = true ↔ low.toNat ≤ c.toNat ∧ c.toNat ≤ high.toNat := by
  simp [between, range, contains, covers]

theorem contains_single (a c : Char) : (single a).contains c = true ↔ c = a := by
  simp only [single, range, contains, covers, List.any_cons, List.any_nil, Bool.or_false, Bool.and_eq_true,
    decide_eq_true_eq]
  constructor
  · intro h
    exact Char.toNat_inj.1 (by omega)
  · rintro rfl
    omega

theorem covers_join {ranges : List (Nat × Nat)} (n : Nat) (h : ranges.Pairwise (fun r s => r.1 ≤ s.1)) :
    covers (join ranges) n = covers ranges n := by
  fun_induction join ranges with
  | case1 => rfl
  | case2 => rfl
  | case3 a b c d rest hc ih =>
    simp only [List.pairwise_cons] at h
    have hac : a ≤ c := h.1 (c, d) (by simp)
    rw [ih (by simpa using ⟨fun x y hs => h.1 (x, y) (by simp [hs]), h.2.2⟩), Bool.eq_iff_iff]
    simp only [covers, List.any_cons, Bool.or_eq_true, Bool.and_eq_true, decide_eq_true_eq, ← or_assoc]
    constructor
    · rintro (hn | hn)
      · left
        omega
      · exact .inr hn
    · rintro (hn | hn)
      · left
        omega
      · exact .inr hn
  | case4 a b c d rest _ ih =>
    simp only [List.pairwise_cons] at h
    simp only [covers, List.any_cons] at ih ⊢
    rw [ih (by simpa using h.2)]

theorem contains_ofRanges (ranges : List (Nat × Nat)) (c : Char) :
    (ofRanges ranges).contains c = covers ranges c.toNat := by
  have hp := List.mergeSort_perm ranges fun r s => decide (r.1 ≤ s.1)
  simp only [contains, ofRanges, covers_join _ (sorted_mergeSort ranges)]
  rw [Bool.eq_iff_iff]
  simp [covers, hp.mem_iff]

theorem contains_union (a b : CharSet) (c : Char) : (union a b).contains c = (a.contains c || b.contains c) := by
  simp only [union, unions, contains_ofRanges]
  simp [covers, contains]

end CharSet

end CatalogGate
