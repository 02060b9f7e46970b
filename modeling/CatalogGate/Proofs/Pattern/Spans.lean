-- The laws of searching. A pattern spans the texts that lie between certain places, and the sets of places that
-- are moved forward hold exactly the places that it spans.
import CatalogGate.Pattern.Basic
import Mathlib.Logic.Function.Iterate

namespace CatalogGate.Pattern

/-! ## What a pattern spans -/

/-- The character in front of a place. -/
def before (text : List Char) : Nat → Option Char
  | 0 => none
  | i + 1 => text[i]?

/-- So many steps lead from one place to another. -/
def Repeats (step : Nat → Nat → Prop) : Nat → Nat → Nat → Prop
  | 0, i, j => i = j
  | n + 1, i, j => ∃ k, step i k ∧ Repeats step n k j

/-- The pattern means all that lies between two places of a text. -/
def Spans (text : List Char) : Pattern → Nat → Nat → Prop
  | empty, i, j => i = j
  | one s, i, j => j = i + 1 ∧ ∃ c, text[i]? = some c ∧ s.contains c = true
  | boundary b, i, j => i = j ∧ b.holds .words (before text i) text[i]? = true
  | sequence a b, i, j => ∃ k, Spans text a i k ∧ Spans text b k j
  | choice a b, i, j => Spans text a i j ∨ Spans text b i j
  | repeated least most p, i, j =>
    ∃ n, least ≤ n ∧ (∀ m, most = some m → n ≤ max least m) ∧ Repeats (Spans text p) n i j
  | look ahead wanted p, i, j =>
    i = j ∧ ((if ahead then ∃ k, Spans text p i k else ∃ k, Spans text p k i) ↔ wanted = true)

/-! ## Steps that go forward -/

/-- Steps never lead back, and never out of a text of `size` characters. -/
structure Forward (size : Nat) (step : Nat → Nat → Prop) : Prop where
  le : ∀ {i j}, step i j → i ≤ j
  within : ∀ {i j}, step i j → i ≤ size → j ≤ size

variable {size : Nat} {step : Nat → Nat → Prop}

theorem Forward.repeats (h : Forward size step) (n : Nat) : Forward size (Repeats step n) := by
  constructor
  · intro i j hij
    induction n generalizing i with
    | zero => exact Nat.le_of_eq hij
    | succ n ih =>
      obtain ⟨k, hik, hkj⟩ := hij
      exact Nat.le_trans (h.le hik) (ih hkj)
  · intro i j hij hi
    induction n generalizing i with
    | zero => exact hij ▸ hi
    | succ n ih =>
      obtain ⟨k, hik, hkj⟩ := hij
      exact ih hkj (h.within hik hi)

theorem repeats_add (n m i j : Nat) :
    Repeats step (n + m) i j ↔ ∃ k, Repeats step n i k ∧ Repeats step m k j := by
  induction n generalizing i with
  | zero => simp [Repeats]
  | succ n ih =>
    rw [Nat.succ_add]
    simp only [Repeats, ih]
    constructor
    · rintro ⟨k, hik, l, hkl, hlj⟩
      exact ⟨l, ⟨k, hik, hkl⟩, hlj⟩
    · rintro ⟨l, ⟨k, hik, hkl⟩, hlj⟩
      exact ⟨k, hik, l, hkl, hlj⟩

/-- Up to so many steps are so many that may also stand still. -/
theorem repeats_or_stay (n i j : Nat) :
    Repeats (fun i j => i = j ∨ step i j) n i j ↔ ∃ k ≤ n, Repeats step k i j := by
  induction n generalizing i with
  | zero => simp [Repeats]
  | succ n ih =>
    simp only [Repeats, ih]
    constructor
    · rintro ⟨l, rfl | hil, k, hk, hlj⟩
      · exact ⟨k, Nat.le_succ_of_le hk, hlj⟩
      · exact ⟨k + 1, Nat.succ_le_succ hk, l, hil, hlj⟩
    · rintro ⟨_ | k, hk, hij⟩
      · exact ⟨i, Or.inl rfl, 0, Nat.zero_le n, hij⟩
      · obtain ⟨l, hil, hlj⟩ := hij
        exact ⟨l, Or.inr hil, k, Nat.le_of_succ_le_succ hk, hlj⟩

/-- Steps on the spot can be left out, and the others are no more than the places that they pass. -/
theorem Forward.exists_repeats_le (h : Forward size step) {n i j : Nat} (hij : Repeats step n i j) :
    ∃ k ≤ n, k ≤ j - i ∧ Repeats step k i j := by
  induction n generalizing i with
  | zero => exact ⟨0, Nat.le_refl 0, Nat.zero_le _, hij⟩
  | succ n ih =>
    obtain ⟨l, hil, hlj⟩ := hij
    obtain ⟨k, hkn, hk, hrest⟩ := ih hlj
    have hle := h.le hil
    have hlast := (h.repeats n).le hlj
    rcases Nat.eq_or_lt_of_le hle with rfl | hlt
    · exact ⟨k, Nat.le_succ_of_le hkn, hk, hrest⟩
    · exact ⟨k + 1, Nat.succ_le_succ hkn, by omega, l, hil, hrest⟩

theorem forward_spans (text : List Char) (p : Pattern) : Forward text.length (Spans text p) := by
  induction p with
  | empty => exact ⟨Nat.le_of_eq, fun h hi => h ▸ hi⟩
  | one s =>
    constructor
    · rintro i j ⟨rfl, _⟩
      exact Nat.le_succ i
    · rintro i j ⟨rfl, c, hc, _⟩ _
      exact (List.getElem?_eq_some_iff.mp hc).1
  | boundary b => exact ⟨fun h => Nat.le_of_eq h.1, fun h hi => h.1 ▸ hi⟩
  | sequence a b iha ihb =>
    constructor
    · rintro i j ⟨k, ha, hb⟩
      exact Nat.le_trans (iha.le ha) (ihb.le hb)
    · rintro i j ⟨k, ha, hb⟩ hi
      exact ihb.within hb (iha.within ha hi)
  | choice a b iha ihb =>
    constructor
    · rintro i j (ha | hb)
      · exact iha.le ha
      · exact ihb.le hb
    · rintro i j (ha | hb) hi
      · exact iha.within ha hi
      · exact ihb.within hb hi
  | repeated least most p ih =>
    constructor
    · rintro i j ⟨n, _, _, hn⟩
      exact (ih.repeats n).le hn
    · rintro i j ⟨n, _, _, hn⟩ hi
      exact (ih.repeats n).within hn hi
  | look ahead wanted p => exact ⟨fun h => Nat.le_of_eq h.1, fun h hi => h.1 ▸ hi⟩

/-! ## Sets of places -/

/-- All places of a set are in a text of `size` characters. -/
def Within (size s : Nat) : Prop := ∀ i, s.testBit i = true → i ≤ size

/-- Moving a set of places leads exactly where steps from its places lead. -/
def Follows (size : Nat) (move : Nat → Nat) (step : Nat → Nat → Prop) : Prop :=
  ∀ s, Within size s → ∀ j, (move s).testBit j = true ↔ ∃ i, s.testBit i = true ∧ step i j

variable {move : Nat → Nat}

theorem Follows.within (h : Follows size move step) (hforward : Forward size step) {s : Nat} (hs : Within size s) :
    Within size (move s) := by
  intro j hj
  obtain ⟨i, hi, hij⟩ := (h s hs j).mp hj
  exact hforward.within hij (hs i hi)

theorem Follows.iterate (h : Follows size move step) (hforward : Forward size step) (n : Nat) :
    Follows size (move^[n]) (Repeats step n) := by
  induction n with
  | zero => simp [Follows, Repeats]
  | succ n ih =>
    intro s hs j
    rw [Function.iterate_succ_apply, ih (move s) (h.within hforward hs) j]
    constructor
    · rintro ⟨k, hk, hkj⟩
      obtain ⟨i, hi, hik⟩ := (h s hs k).mp hk
      exact ⟨i, hi, k, hik, hkj⟩
    · rintro ⟨i, hi, k, hik, hkj⟩
      exact ⟨k, (h s hs k).mpr ⟨i, hi, hik⟩, hkj⟩

theorem times_eq_iterate (move : Nat → Nat) (n s : Nat) : times move n s = move^[n] s := by
  induction n generalizing s with
  | zero => rfl
  | succ n ih =>
    unfold times
    split
    · rename_i hfixed
      exact (Function.iterate_fixed hfixed (n + 1)).symm
    · exact ih (move s)

theorem upTo_eq_iterate (move : Nat → Nat) (n s : Nat) : upTo move n s = (fun s => s ||| move s)^[n] s := by
  induction n generalizing s with
  | zero => rfl
  | succ n ih =>
    unfold upTo
    split
    · rename_i hfixed
      exact (Function.iterate_fixed hfixed (n + 1)).symm
    · exact ih (s ||| move s)

theorem Follows.orStay (h : Follows size move step) :
    Follows size (fun s => s ||| move s) (fun i j => i = j ∨ step i j) := by
  intro s hs j
  rw [Nat.testBit_or, Bool.or_eq_true, h s hs j]
  constructor
  · rintro (hj | ⟨i, hi, hij⟩)
    · exact ⟨j, hj, Or.inl rfl⟩
    · exact ⟨i, hi, Or.inr hij⟩
  · rintro ⟨i, hi, rfl | hij⟩
    · exact Or.inl hi
    · exact Or.inr ⟨i, hi, hij⟩

theorem Forward.orStay (h : Forward size step) : Forward size (fun i j => i = j ∨ step i j) := by
  constructor
  · rintro i j (rfl | hij)
    · exact Nat.le_refl i
    · exact h.le hij
  · rintro i j (rfl | hij) hi
    · exact hi
    · exact h.within hij hi

theorem Follows.times (h : Follows size move step) (hforward : Forward size step) (n : Nat) :
    Follows size (times move n) (Repeats step n) := by
  intro s hs j
  rw [times_eq_iterate]
  exact h.iterate hforward n s hs j

theorem Follows.upTo (h : Follows size move step) (hforward : Forward size step) (n : Nat) :
    Follows size (upTo move n) (fun i j => ∃ k ≤ n, Repeats step k i j) := by
  intro s hs j
  rw [upTo_eq_iterate, h.orStay.iterate hforward.orStay n s hs j]
  simp only [repeats_or_stay]

/-! ## Tests at places -/

theorem testBit_foldr {α : Type} (test : α → Bool) (l : List α) (i : Nat) :
    (l.foldr (fun x above => 2 * above + (test x).toNat) 0).testBit i = l[i]?.any test := by
  induction l generalizing i with
  | nil => simp
  | cons x l ih =>
    rw [List.foldr_cons]
    cases i with
    | zero => cases h : test x <;> simp [Nat.testBit_zero, h]
    | succ i =>
      rw [Nat.testBit_succ, List.getElem?_cons_succ, ← ih i]
      congr 1
      cases test x with
      | false => simp
      | true =>
        rw [Bool.toNat_true]
        omega

theorem getElem?_surroundings (text : List Char) (i : Nat) :
    (surroundings text)[i]? = if i ≤ text.length then some (before text i, text[i]?) else none := by
  have hbefore : (none :: text.map some)[i]? = if i ≤ text.length then some (before text i) else none := by
    cases i with
    | zero => rfl
    | succ i =>
      rw [List.getElem?_cons_succ, List.getElem?_map, before]
      by_cases hi : i < text.length
      · rw [if_pos (Nat.succ_le_of_lt hi), List.getElem?_eq_getElem hi, Option.map_some]
      · rw [if_neg (mt Nat.lt_of_succ_le hi), List.getElem?_eq_none (Nat.le_of_not_lt hi), Option.map_none]
  have hafter : (text.map some ++ [none])[i]? = if i ≤ text.length then some text[i]? else none := by
    rcases Nat.lt_trichotomy i text.length with hi | rfl | hi
    · rw [List.getElem?_append_left (by rwa [List.length_map]), List.getElem?_map, if_pos (Nat.le_of_lt hi),
        List.getElem?_eq_getElem hi, Option.map_some]
    · rw [List.getElem?_append_right (Nat.le_of_eq (List.length_map _)), if_pos (Nat.le_refl _), List.length_map,
        Nat.sub_self, List.getElem?_cons_zero, List.getElem?_eq_none (Nat.le_refl _)]
    · rw [if_neg (Nat.not_le_of_lt hi), List.getElem?_eq_none]
      rwa [List.length_append, List.length_map]
  rw [surroundings, List.zip, List.getElem?_zipWith, hbefore, hafter]
  by_cases hi : i ≤ text.length <;> simp [hi]

theorem testBit_places (text : List Char) (test : Option Char → Option Char → Bool) (i : Nat) :
    (places text test).testBit i = true ↔ i ≤ text.length ∧ test (before text i) text[i]? = true := by
  have h := testBit_foldr (fun sides : Option Char × Option Char => test sides.1 sides.2) (surroundings text) i
  rw [getElem?_surroundings] at h
  rw [places]
  refine (Bool.eq_iff_iff.mp h).trans ?_
  split <;> simp [*]

theorem testBit_everywhere (size i : Nat) : (everywhere size).testBit i = true ↔ i ≤ size := by
  rw [everywhere, Nat.one_shiftLeft, Nat.testBit_two_pow_sub_one, decide_eq_true_eq, Nat.lt_succ_iff]

/-! ## Searching -/

theorem exists_testBit_iff (s : Nat) : (∃ i, s.testBit i = true) ↔ s ≠ 0 := by
  constructor
  · rintro ⟨i, hi⟩ rfl
    simp at hi
  · exact Nat.exists_testBit_of_ne_zero

theorem follows_stay {size places : Nat} {test : Nat → Prop}
    (h : ∀ i ≤ size, places.testBit i = true ↔ test i) :
    Follows size ((Moves.stay places).ends size) (fun i j => i = j ∧ test i) := by
  intro s hs j
  rw [Moves.ends, Nat.testBit_and, Bool.and_eq_true]
  constructor
  · rintro ⟨hj, hplace⟩
    exact ⟨j, hj, rfl, (h j (hs j hj)).mp hplace⟩
  · rintro ⟨i, hi, rfl, htest⟩
    exact ⟨hi, (h i (hs i hi)).mpr htest⟩

theorem follows_step {size places : Nat} {test : Nat → Prop}
    (h : ∀ i ≤ size, places.testBit i = true ↔ test i) :
    Follows size ((Moves.step places).ends size) (fun i j => j = i + 1 ∧ test i) := by
  intro s hs j
  rw [Moves.ends, Nat.testBit_shiftLeft, Bool.and_eq_true, decide_eq_true_eq, Nat.testBit_and, Bool.and_eq_true]
  constructor
  · rintro ⟨hj, hplace, htest⟩
    exact ⟨j - 1, hplace, by omega, (h _ (hs _ hplace)).mp htest⟩
  · rintro ⟨i, hi, rfl, htest⟩
    exact ⟨by omega, hi, (h i (hs i hi)).mpr htest⟩

theorem within_single {size i : Nat} (hi : i ≤ size) : Within size (1 <<< i) := by
  intro j hj
  rw [Nat.one_shiftLeft, Nat.testBit_two_pow, decide_eq_true_eq] at hj
  omega

theorem Follows.ne_zero_iff {move : Nat → Nat} {step : Nat → Nat → Prop} {size s : Nat} (h : Follows size move step)
    (hs : Within size s) : move s ≠ 0 ↔ ∃ i j, s.testBit i = true ∧ step i j := by
  rw [← exists_testBit_iff, exists_comm]
  simp only [h s hs]

theorem testBit_foldl_range (f : Nat → Nat) (n i : Nat) :
    ((List.range n).foldl (fun found k => if f k = 0 then found else found ||| 1 <<< k) 0).testBit i = true ↔
      i < n ∧ f i ≠ 0 := by
  induction n with
  | zero => simp
  | succ n ih =>
    rw [List.range_succ, List.foldl_append, List.foldl_cons, List.foldl_nil]
    split
    · rename_i hzero
      rw [ih]
      constructor
      · rintro ⟨hi, hf⟩
        exact ⟨Nat.lt_succ_of_lt hi, hf⟩
      · rintro ⟨hi, hf⟩
        refine ⟨?_, hf⟩
        have hne : i ≠ n := fun h => hf (h ▸ hzero)
        omega
    · rename_i hne
      rw [Nat.testBit_or, Bool.or_eq_true, ih, Nat.one_shiftLeft, Nat.testBit_two_pow, decide_eq_true_eq]
      constructor
      · rintro (⟨hi, hf⟩ | rfl)
        · exact ⟨Nat.lt_succ_of_lt hi, hf⟩
        · exact ⟨Nat.lt_succ_self _, hne⟩
      · rintro ⟨hi, hf⟩
        rcases Nat.lt_succ_iff_lt_or_eq.mp hi with hlt | rfl
        · exact Or.inl ⟨hlt, hf⟩
        · exact Or.inr rfl

theorem testBit_starts {m : Moves} {step : Nat → Nat → Prop} {size : Nat} (h : Follows size (m.ends size) step)
    (i : Nat) : (m.starts size).testBit i = true ↔ i ≤ size ∧ ∃ j, step i j := by
  rw [Moves.starts, testBit_foldl_range, Nat.lt_succ_iff]
  refine and_congr_right fun hi => ?_
  rw [h.ne_zero_iff (within_single hi)]
  simp [Nat.one_shiftLeft, Nat.testBit_two_pow]

/-- The rounds that are made after those that there must be. -/
def furtherRounds (size least : Nat) (most : Option Nat) : Nat :=
  most.elim (size + 1) fun most => min (most - least) (size + 1)

theorem ends_repeated (size least : Nat) (most : Option Nat) (m : Moves) (s : Nat) :
    (Moves.repeated least most m).ends size s =
      upTo (m.ends size) (furtherRounds size least most) (times (m.ends size) least s) := by
  cases most <;> rfl

/-- The rounds are enough for everything that the pattern allows, since a text of `size` characters has no room
for more steps that move on. -/
theorem exists_rounds_iff {size : Nat} {step : Nat → Nat → Prop} (h : Forward size step) (least : Nat)
    (most : Option Nat) {i j : Nat} (hi : i ≤ size) :
    (∃ k, Repeats step least i k ∧ ∃ n ≤ furtherRounds size least most, Repeats step n k j) ↔
      ∃ n, least ≤ n ∧ (∀ m, most = some m → n ≤ max least m) ∧ Repeats step n i j := by
  constructor
  · rintro ⟨k, hik, n, hn, hkj⟩
    refine ⟨least + n, Nat.le_add_right .., ?_, (repeats_add ..).mpr ⟨k, hik, hkj⟩⟩
    rintro m rfl
    simp only [furtherRounds, Option.elim_some] at hn
    omega
  · rintro ⟨n, hn, hmost, hij⟩
    rw [← Nat.add_sub_cancel' hn, repeats_add] at hij
    obtain ⟨k, hik, hkj⟩ := hij
    have hk := (h.repeats least).within hik hi
    have hj := (h.repeats (n - least)).within hkj hk
    obtain ⟨few, hle, hroom, hfew⟩ := h.exists_repeats_le hkj
    refine ⟨k, hik, few, ?_, hfew⟩
    cases most with
    | none =>
      simp only [furtherRounds, Option.elim_none]
      omega
    | some m =>
      have := hmost m rfl
      simp only [furtherRounds, Option.elim_some]
      omega

theorem within_everywhere (size : Nat) : Within size (everywhere size) :=
  fun i hi => (testBit_everywhere size i).mp hi

/-- The places of which something is found straight ahead or straight behind. -/
theorem testBit_found {text : List Char} {p : Pattern} {m : Moves}
    (h : Follows text.length (m.ends text.length) (Spans text p)) (ahead : Bool) {i : Nat} (hi : i ≤ text.length) :
    (if ahead then m.starts text.length else m.ends text.length (everywhere text.length)).testBit i = true ↔
      if ahead then ∃ k, Spans text p i k else ∃ k, Spans text p k i := by
  cases ahead with
  | true => simp [testBit_starts h, hi]
  | false =>
    simp only [Bool.false_eq_true, if_false, h _ (within_everywhere _) i, testBit_everywhere]
    refine exists_congr fun k => and_iff_right_of_imp fun hk => ?_
    exact Nat.le_trans ((forward_spans text p).le hk) hi

/-- Moving a set of places by a pattern leads exactly to the ends of what the pattern spans from there. -/
theorem follows_lay (text : List Char) (p : Pattern) :
    Follows text.length ((lay text text.length p).ends text.length) (Spans text p) := by
  induction p with
  | empty =>
    intro s hs j
    rw [lay, Moves.ends, Nat.testBit_and, Bool.and_eq_true, testBit_everywhere]
    constructor
    · rintro ⟨hj, _⟩
      exact ⟨j, hj, rfl⟩
    · rintro ⟨i, hi, rfl⟩
      exact ⟨hi, hs i hi⟩
  | one set =>
    refine follows_step fun i hi => ?_
    rw [testBit_places]
    simp [hi, Option.any_eq_true]
  | boundary b =>
    refine follows_stay fun i hi => ?_
    rw [testBit_places]
    simp [hi]
  | sequence a b iha ihb =>
    intro s hs j
    rw [lay, Moves.ends, ihb _ (iha.within (forward_spans text a) hs) j]
    constructor
    · rintro ⟨k, hk, hkj⟩
      obtain ⟨i, hi, hik⟩ := (iha s hs k).mp hk
      exact ⟨i, hi, k, hik, hkj⟩
    · rintro ⟨i, hi, k, hik, hkj⟩
      exact ⟨k, (iha s hs k).mpr ⟨i, hi, hik⟩, hkj⟩
  | choice a b iha ihb =>
    intro s hs j
    rw [lay, Moves.ends, Nat.testBit_or, Bool.or_eq_true, iha s hs j, ihb s hs j, ← exists_or]
    simp only [Spans, and_or_left]
  | repeated least most p ih =>
    intro s hs j
    have hforward := forward_spans text p
    have htimes := ih.times hforward least
    have hmore := ih.upTo hforward (furtherRounds text.length least most)
    rw [lay, ends_repeated, hmore _ (htimes.within (hforward.repeats least) hs) j]
    constructor
    · rintro ⟨k, hk, hkj⟩
      obtain ⟨i, hi, hik⟩ := (htimes s hs k).mp hk
      exact ⟨i, hi, (exists_rounds_iff hforward least most (hs i hi)).mp ⟨k, hik, hkj⟩⟩
    · rintro ⟨i, hi, hij⟩
      obtain ⟨k, hik, hkj⟩ := (exists_rounds_iff hforward least most (hs i hi)).mpr hij
      exact ⟨k, (htimes s hs k).mpr ⟨i, hi, hik⟩, hkj⟩
  | look ahead wanted p ih =>
    refine follows_stay fun i hi => ?_
    have hfound := testBit_found ih ahead hi
    rw [← hfound]
    cases wanted with
    | true => simp
    | false => simp [Nat.testBit_xor, (testBit_everywhere text.length i).mpr hi]

/-- A pattern is found in a text exactly if it spans something in it. -/
theorem isFoundIn_iff (p : Pattern) (text : List Char) :
    p.isFoundIn text = true ↔ ∃ i j, i ≤ text.length ∧ Spans text p i j := by
  rw [isFoundIn, bne_iff_ne, (follows_lay text p).ne_zero_iff (within_everywhere _)]
  simp only [testBit_everywhere]

end CatalogGate.Pattern
