-- What a pattern reads, said of a text alone. A pattern that asks only for characters spans exactly those stretches of
-- a text that it reads, and it is found as all of a text exactly if it reads the text.
import CatalogGate.Proofs.List.Traversal
import CatalogGate.Proofs.Pattern.Pieces

namespace CatalogGate.Pattern

/-- The pattern asks only for characters, and not for what stands around a place. -/
def IsFree : Pattern → Prop
  | boundary _ => False
  | look _ _ _ => False
  | sequence a b => a.IsFree ∧ b.IsFree
  | choice a b => a.IsFree ∧ b.IsFree
  | repeated _ _ p => p.IsFree
  | _ => True

/-- A free pattern reads a text from its first character to its last one. -/
def Reads : Pattern → List Char → Prop
  | empty, cs => cs = []
  | one s, cs => ∃ c, cs = [c] ∧ s.contains c = true
  | sequence a b, cs => ∃ front back, cs = front ++ back ∧ a.Reads front ∧ b.Reads back
  | choice a b, cs => a.Reads cs ∨ b.Reads cs
  | repeated least most p, cs => ∃ stretches : List (List Char), cs = stretches.flatten ∧
      least ≤ stretches.length ∧ (∀ m, most = some m → stretches.length ≤ max least m) ∧
      ∀ stretch ∈ stretches, p.Reads stretch
  | _, _ => False

/-! ## Stretches of a text -/

theorem append_prefix_drop_iff {text front back : List Char} {i : Nat} :
    front ++ back <+: text.drop i ↔ front <+: text.drop i ∧ back <+: text.drop (i + front.length) := by
  rw [← List.drop_drop]
  constructor
  · intro h
    refine ⟨(List.prefix_append front back).trans h, ?_⟩
    obtain ⟨rest, hrest⟩ := h
    rw [← hrest, List.append_assoc, List.drop_left]
    exact List.prefix_append back rest
  · rintro ⟨⟨rest, hrest⟩, hback⟩
    rw [← hrest, List.drop_left] at hback
    rw [← hrest]
    exact (List.prefix_append_right_inj front).mpr hback

/-- Steps that each pass a stretch of a kind pass one after the other as many stretches as they are. -/
theorem repeats_iff_stretches {text : List Char} {step : Nat → Nat → Prop} {kind : List Char → Prop}
    (h : ∀ i j, step i j ↔ ∃ cs, cs <+: text.drop i ∧ j = i + cs.length ∧ kind cs) (n i j : Nat) :
    Repeats step n i j ↔ ∃ stretches : List (List Char), stretches.length = n ∧ (∀ cs ∈ stretches, kind cs) ∧
      stretches.flatten <+: text.drop i ∧ j = i + stretches.flatten.length := by
  induction n generalizing i with
  | zero => simp [Repeats, eq_comm]
  | succ n ih =>
    simp only [Repeats, h, ih]
    constructor
    · rintro ⟨_, ⟨cs, hcs, rfl, hkind⟩, stretches, rfl, hall, hstretches, rfl⟩
      refine ⟨cs :: stretches, rfl, List.forall_mem_cons.mpr ⟨hkind, hall⟩, ?_, ?_⟩
      · exact append_prefix_drop_iff.mpr ⟨hcs, hstretches⟩
      · rw [List.flatten_cons, List.length_append, Nat.add_assoc]
    · rintro ⟨stretches, hlength, hall, hstart, rfl⟩
      obtain ⟨cs, stretches, rfl⟩ := List.exists_cons_of_length_eq_add_one hlength
      obtain ⟨hkind, hall⟩ := List.forall_mem_cons.mp hall
      obtain ⟨hcs, hstretches⟩ := append_prefix_drop_iff.mp hstart
      refine ⟨_, ⟨cs, hcs, rfl, hkind⟩, stretches, Nat.succ.inj hlength, hall, hstretches, ?_⟩
      rw [List.flatten_cons, List.length_append, Nat.add_assoc]

theorem spans_iff_reads {p : Pattern} (h : p.IsFree) (text : List Char) (i j : Nat) :
    Spans text p i j ↔ ∃ cs, cs <+: text.drop i ∧ j = i + cs.length ∧ p.Reads cs := by
  induction p generalizing i j with
  | empty => simp [Spans, Reads, eq_comm]
  | one s =>
    simp only [Spans, Reads]
    constructor
    · rintro ⟨rfl, c, hc, hset⟩
      exact ⟨[c], cons_prefix_drop_iff.mpr ⟨hc, List.nil_prefix⟩, rfl, c, rfl, hset⟩
    · rintro ⟨_, hstart, rfl, c, rfl, hset⟩
      exact ⟨rfl, c, (cons_prefix_drop_iff.mp hstart).1, hset⟩
  | boundary b => exact h.elim
  | sequence a b iha ihb =>
    simp only [Spans, Reads, iha h.1, ihb h.2]
    constructor
    · rintro ⟨_, ⟨front, hfront, rfl, ha⟩, back, hback, rfl, hb⟩
      refine ⟨front ++ back, append_prefix_drop_iff.mpr ⟨hfront, hback⟩, ?_, front, back, rfl, ha, hb⟩
      rw [List.length_append, Nat.add_assoc]
    · rintro ⟨_, hstart, rfl, front, back, rfl, ha, hb⟩
      obtain ⟨hfront, hback⟩ := append_prefix_drop_iff.mp hstart
      refine ⟨_, ⟨front, hfront, rfl, ha⟩, back, hback, ?_, hb⟩
      rw [List.length_append, Nat.add_assoc]
  | choice a b iha ihb => simp only [Spans, Reads, iha h.1, ihb h.2, and_or_left, exists_or]
  | repeated least most p ih =>
    simp only [Spans, Reads, repeats_iff_stretches (ih h)]
    constructor
    · rintro ⟨_, hleast, hmost, stretches, rfl, hall, hstart, rfl⟩
      exact ⟨stretches.flatten, hstart, rfl, stretches, rfl, hleast, hmost, hall⟩
    · rintro ⟨_, hstart, rfl, stretches, rfl, hleast, hmost, hall⟩
      exact ⟨stretches.length, hleast, hmost, stretches, rfl, hall, hstart, rfl⟩
  | look ahead wanted p => exact h.elim

theorem isFoundIn_whole_iff_reads {p : Pattern} (h : p.IsFree) (text : List Char) :
    (whole p).isFoundIn text = true ↔ p.Reads text := by
  rw [isFoundIn_whole_iff, spans_iff_reads h, List.drop_zero]
  constructor
  · rintro ⟨cs, hstart, hlength, hreads⟩
    rw [Nat.zero_add] at hlength
    rwa [← hstart.eq_of_length hlength.symm]
  · intro hreads
    exact ⟨text, List.prefix_refl text, (Nat.zero_add _).symm, hreads⟩

/-! ## Repetitions -/

theorem reads_sequence_iff {a b : Pattern} {cs : List Char} :
    (sequence a b).Reads cs ↔ ∃ front back, cs = front ++ back ∧ a.Reads front ∧ b.Reads back :=
  Iff.rfl

theorem reads_many_iff {p : Pattern} {cs : List Char} :
    (many p).Reads cs ↔ ∃ stretches : List (List Char), cs = stretches.flatten ∧
      ∀ stretch ∈ stretches, p.Reads stretch := by
  simp [many, Reads]

/-- Stretches of one character each are the characters of a text. -/
theorem reads_repeated_one_iff {s : CharSet} {least : Nat} {cs : List Char} :
    (repeated least none (one s)).Reads cs ↔ least ≤ cs.length ∧ ∀ c ∈ cs, s.contains c = true := by
  have hflatten (cs : List Char) : (cs.map fun c => [c]).flatten = cs := by simp [← List.flatMap_def]
  simp only [Reads, forall_exists_eq_iff]
  constructor
  · rintro ⟨_, rfl, hleast, _, cs, rfl, hcs⟩
    rw [hflatten]
    exact ⟨by simpa using hleast, hcs⟩
  · rintro ⟨hleast, hcs⟩
    exact ⟨_, (hflatten cs).symm, by simpa using hleast, nofun, cs, rfl, hcs⟩

theorem reads_many_one_iff {s : CharSet} {cs : List Char} :
    (many (one s)).Reads cs ↔ ∀ c ∈ cs, s.contains c = true := by
  rw [many, reads_repeated_one_iff]
  exact and_iff_right (Nat.zero_le _)

theorem reads_several_one_iff {s : CharSet} {cs : List Char} :
    (several (one s)).Reads cs ↔ cs ≠ [] ∧ ∀ c ∈ cs, s.contains c = true := by
  rw [several, reads_repeated_one_iff, Nat.one_le_iff_ne_zero, Ne, List.length_eq_zero_iff]

end CatalogGate.Pattern
