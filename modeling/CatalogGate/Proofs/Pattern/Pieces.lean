-- The laws of pieces of patterns: what they span, and in which texts those are found that are tied to the start or
-- to both ends of a text.
import CatalogGate.Proofs.Pattern.Spans

namespace CatalogGate.Pattern

theorem spans_char_iff {text : List Char} {c : Char} {i j : Nat} :
    Spans text (char c) i j ↔ j = i + 1 ∧ text[i]? = some c := by
  simp [char, Spans, CharSet.contains_single]

theorem spans_optional_iff {text : List Char} {p : Pattern} {i j : Nat} :
    Spans text (optional p) i j ↔ i = j ∨ Spans text p i j := by
  constructor
  · rintro ⟨_ | _ | n, _, hmost, hij⟩
    · exact Or.inl hij
    · obtain ⟨k, hik, rfl⟩ := hij
      exact Or.inr hik
    · exact absurd (hmost 1 rfl) (by omega)
  · rintro (hij | hij)
    · exact ⟨0, Nat.le_refl 0, by simp, hij⟩
    · exact ⟨1, Nat.zero_le 1, by simp, j, hij, rfl⟩

theorem spans_sequences_cons_iff {text : List Char} {p : Pattern} {rest : List Pattern} {i j : Nat} :
    Spans text (sequences (p :: rest)) i j ↔ ∃ k, Spans text p i k ∧ Spans text (sequences rest) k j := by
  cases rest with
  | nil => simp [sequences, Spans]
  | cons next rest => rfl

theorem spans_sequences_append_iff {text : List Char} {ps qs : List Pattern} {i j : Nat} :
    Spans text (sequences (ps ++ qs)) i j ↔ ∃ k, Spans text (sequences ps) i k ∧ Spans text (sequences qs) k j := by
  induction ps generalizing i with
  | nil => simp [sequences, Spans]
  | cons p ps ih =>
    simp only [List.cons_append, spans_sequences_cons_iff, ih]
    constructor
    · rintro ⟨k, hp, l, hps, hqs⟩
      exact ⟨l, ⟨k, hp, hps⟩, hqs⟩
    · rintro ⟨l, ⟨k, hp, hps⟩, hqs⟩
      exact ⟨k, hp, l, hps, hqs⟩

theorem spans_textStart_iff {text : List Char} {i j : Nat} (hi : i ≤ text.length) :
    Spans text (boundary .textStart) i j ↔ i = 0 ∧ j = 0 := by
  cases i with
  | zero => simp [Spans, Boundary.holds, before, eq_comm]
  | succ i =>
    simp only [Spans, Boundary.holds, before, Option.isNone_iff_eq_none, List.getElem?_eq_none_iff]
    omega

theorem spans_textEnd_iff {text : List Char} {i j : Nat} (hi : i ≤ text.length) :
    Spans text (boundary .textEnd) i j ↔ i = text.length ∧ j = i := by
  simp only [Spans, Boundary.holds, Option.isNone_iff_eq_none, List.getElem?_eq_none_iff]
  omega

theorem isFoundIn_whole_iff (p : Pattern) (text : List Char) :
    (whole p).isFoundIn text = true ↔ Spans text p 0 text.length := by
  rw [isFoundIn_iff]
  constructor
  · rintro ⟨i, j, hi, k, hstart, l, hp, hend⟩
    obtain ⟨rfl, rfl⟩ := (spans_textStart_iff hi).mp hstart
    have hl := (forward_spans text p).within hp hi
    obtain ⟨rfl, rfl⟩ := (spans_textEnd_iff hl).mp hend
    exact hp
  · intro hp
    exact ⟨0, text.length, Nat.zero_le _, 0, (spans_textStart_iff (Nat.zero_le _)).mpr ⟨rfl, rfl⟩, text.length, hp,
      (spans_textEnd_iff (Nat.le_refl _)).mpr ⟨rfl, rfl⟩⟩

/-- The ends of a text may be asked for as the first and the last piece. -/
theorem isFoundIn_bounded (ps : List Pattern) (text : List Char) :
    (sequences (boundary .textStart :: (ps ++ [boundary .textEnd]))).isFoundIn text =
      (whole (sequences ps)).isFoundIn text := by
  rw [Bool.eq_iff_iff, isFoundIn_iff, isFoundIn_iff]
  simp only [spans_sequences_cons_iff, spans_sequences_append_iff, whole, Spans, sequences]

theorem cons_prefix_drop_iff {text cs : List Char} {c : Char} {i : Nat} :
    c :: cs <+: text.drop i ↔ text[i]? = some c ∧ cs <+: text.drop (i + 1) := by
  by_cases hi : i < text.length
  · rw [List.drop_eq_getElem_cons hi, List.cons_prefix_cons, List.getElem?_eq_getElem hi, Option.some.injEq, eq_comm]
  · simp [List.drop_eq_nil_of_le (Nat.le_of_not_lt hi), List.getElem?_eq_none (Nat.le_of_not_lt hi)]

theorem spans_chars_iff {text cs : List Char} {i j : Nat} :
    Spans text (sequences (cs.map char)) i j ↔ cs <+: text.drop i ∧ j = i + cs.length := by
  induction cs generalizing i with
  | nil => simp [sequences, Spans, eq_comm]
  | cons c cs ih =>
    rw [List.map_cons, spans_sequences_cons_iff, cons_prefix_drop_iff, List.length_cons]
    simp only [spans_char_iff, ih]
    constructor
    · rintro ⟨_, ⟨rfl, hc⟩, hcs, hj⟩
      exact ⟨⟨hc, hcs⟩, by omega⟩
    · rintro ⟨⟨hc, hcs⟩, hj⟩
      exact ⟨i + 1, ⟨rfl, hc⟩, hcs, by omega⟩

theorem isFoundIn_startingWith_iff (s : String) (text : List Char) :
    (startingWith s).isFoundIn text = true ↔ s.toList <+: text := by
  rw [isFoundIn_iff, startingWith]
  simp only [spans_sequences_cons_iff]
  constructor
  · rintro ⟨i, j, hi, k, hstart, hchars⟩
    obtain ⟨rfl, rfl⟩ := (spans_textStart_iff hi).mp hstart
    exact (spans_chars_iff.mp hchars).1
  · intro h
    exact ⟨0, _, Nat.zero_le _, 0, (spans_textStart_iff (Nat.zero_le _)).mpr ⟨rfl, rfl⟩,
      spans_chars_iff.mpr ⟨h, rfl⟩⟩

end CatalogGate.Pattern
