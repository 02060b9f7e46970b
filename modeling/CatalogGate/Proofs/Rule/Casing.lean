-- The law of casings. A name follows a convention exactly if its letters, digits and marks stand as the convention
-- says, and the function that checks it says one thing about every other text and nothing about other values.
import CatalogGate.Proofs.Pattern.Stretches
import CatalogGate.Rule.Function

namespace CatalogGate

namespace CharSet

theorem contains_between_eq (first last c : Char) :
    (between first last).contains c = (decide (c.val ≥ first.val) && decide (c.val ≤ last.val)) := by
  rw [Bool.eq_iff_iff, contains_between]
  simp [UInt32.le_iff_toNat_le]

theorem contains_lower (c : Char) : lower.contains c = c.isLower := contains_between_eq 'a' 'z' c

theorem contains_upper (c : Char) : upper.contains c = c.isUpper :=
  (contains_between_eq 'A' 'Z' c).trans (Bool.decide_and ..).symm

theorem contains_digits (c : Char) : digits.contains c = c.isDigit := contains_between_eq '0' '9' c

end CharSet

namespace Rule

namespace Casing

open Pattern (Reads)

/-! ## The conventions -/

def isOrDigit (isLetter : Char → Bool) (c : Char) : Bool := isLetter c || c.isDigit

/-- A first character of one kind, and behind it only characters of another. -/
def Starts (isFirst isNext : Char → Bool) (cs : List Char) : Prop :=
  ∃ c rest, cs = c :: rest ∧ isFirst c = true ∧ ∀ x ∈ rest, isNext x = true

/-- The pieces between marks are not empty and hold only letters and digits, and the first one starts with a letter. -/
def Divided (mark : Char) (isLetter : Char → Bool) (cs : List Char) : Prop :=
  ∃ first further, cs.splitOn mark = first :: further ∧ Starts isLetter (isOrDigit isLetter) first ∧
    ∀ piece ∈ further, piece ≠ [] ∧ ∀ c ∈ piece, isOrDigit isLetter c = true

/-- What each convention says about a name. Letters and digits are those of ASCII. -/
def Follows : Casing → List Char → Prop
  | flat => Starts Char.isLower (isOrDigit Char.isLower)
  | camel => Starts Char.isLower Char.isAlphanum
  | pascal => Starts Char.isUpper Char.isAlphanum
  | kebab => Divided '-' Char.isLower
  | cobol => Divided '-' Char.isUpper
  | snake => Divided '_' Char.isLower
  | macroCase => Divided '_' Char.isUpper

/-! ## What the patterns read -/

variable {letters : CharSet} {isLetter : Char → Bool}

theorem contains_orDigit (h : ∀ c, letters.contains c = isLetter c) (c : Char) :
    (CharSet.union letters .digits).contains c = isOrDigit isLetter c := by
  rw [CharSet.contains_union, h, CharSet.contains_digits, isOrDigit]

theorem reads_first_iff (h : ∀ c, letters.contains c = isLetter c) {p : Pattern} {cs : List Char} :
    (Pattern.sequence (.one letters) p).Reads cs ↔ ∃ c rest, cs = c :: rest ∧ isLetter c = true ∧ p.Reads rest := by
  rw [Pattern.reads_sequence_iff]
  constructor
  · rintro ⟨_, rest, rfl, ⟨c, rfl, hc⟩, hrest⟩
    exact ⟨c, rest, rfl, (h c).symm.trans hc, hrest⟩
  · rintro ⟨c, rest, rfl, hc, hrest⟩
    exact ⟨[c], rest, rfl, ⟨c, rfl, (h c).trans hc⟩, hrest⟩

theorem reads_starts_iff {next : CharSet} {isNext : Char → Bool} (h : ∀ c, letters.contains c = isLetter c)
    (hnext : ∀ c, next.contains c = isNext c) {cs : List Char} :
    (Pattern.sequence (.one letters) (.many (.one next))).Reads cs ↔ Starts isLetter isNext cs := by
  simp only [reads_first_iff h, Pattern.reads_many_one_iff, hnext, Starts]

/-! ### Humps -/

theorem isAlphanum_iff {c : Char} :
    c.isAlphanum = true ↔ isOrDigit Char.isLower c = true ∨ isOrDigit Char.isUpper c = true := by
  change (c.isUpper || c.isLower || c.isDigit) = true ↔ _
  simp only [isOrDigit, Bool.or_eq_true]
  grind

theorem reads_lowerOrDigits_iff {cs : List Char} :
    (Pattern.many lowerOrDigit).Reads cs ↔ ∀ c ∈ cs, isOrDigit Char.isLower c = true := by
  simp only [lowerOrDigit, Pattern.reads_many_one_iff, contains_orDigit CharSet.contains_lower]

theorem reads_hump_iff {cs : List Char} :
    hump.Reads cs ↔ Starts (isOrDigit Char.isUpper) (isOrDigit Char.isLower) cs :=
  reads_starts_iff (contains_orDigit CharSet.contains_upper) (contains_orDigit CharSet.contains_lower)

/-- Every text of letters and digits is cut into humps in front of its capital letters. -/
theorem reads_humps_iff {cs : List Char} :
    (Pattern.sequence (.many lowerOrDigit) (.many hump)).Reads cs ↔ ∀ c ∈ cs, c.isAlphanum = true := by
  simp only [Pattern.reads_sequence_iff, reads_lowerOrDigits_iff]
  simp only [Pattern.reads_many_iff, reads_hump_iff]
  constructor
  · rintro ⟨front, _, rfl, hfront, humps, rfl, hhumps⟩ c hc
    rcases List.mem_append.mp hc with hc | hc
    · exact isAlphanum_iff.mpr (Or.inl (hfront c hc))
    · obtain ⟨_, hhump, hc⟩ := List.mem_flatten.mp hc
      obtain ⟨first, rest, rfl, hfirst, hrest⟩ := hhumps _ hhump
      rcases List.mem_cons.mp hc with rfl | hc
      · exact isAlphanum_iff.mpr (Or.inr hfirst)
      · exact isAlphanum_iff.mpr (Or.inl (hrest c hc))
  · intro h
    induction cs with
    | nil => exact ⟨[], [], rfl, List.forall_mem_nil _, [], rfl, List.forall_mem_nil _⟩
    | cons c cs ih =>
      obtain ⟨hc, hcs⟩ := List.forall_mem_cons.mp h
      obtain ⟨front, _, rfl, hfront, humps, rfl, hhumps⟩ := ih hcs
      rcases isAlphanum_iff.mp hc with hlower | hupper
      · exact ⟨c :: front, _, rfl, List.forall_mem_cons.mpr ⟨hlower, hfront⟩, humps, rfl, hhumps⟩
      · refine ⟨[], _, rfl, List.forall_mem_nil _, (c :: front) :: humps, rfl, ?_⟩
        exact List.forall_mem_cons.mpr ⟨⟨c, front, rfl, hupper, hfront⟩, hhumps⟩

theorem isFoundIn_humps_iff (h : ∀ c, letters.contains c = isLetter c) (cs : List Char) :
    (parts (.one letters) lowerOrDigit hump).isFoundIn cs = true ↔ Starts isLetter Char.isAlphanum cs := by
  rw [parts, Pattern.isFoundIn_whole_iff_reads (by simp [Pattern.IsFree, Pattern.many, hump, lowerOrDigit]),
    reads_first_iff h]
  simp only [reads_humps_iff, Starts]

/-! ### Marks -/

theorem reads_behind_iff (h : ∀ c, letters.contains c = isLetter c) {mark : Char} {cs : List Char} :
    (behind mark (.one (.union letters .digits))).Reads cs ↔
      ∃ piece, cs = mark :: piece ∧ piece ≠ [] ∧ ∀ c ∈ piece, isOrDigit isLetter c = true := by
  have hmark (c : Char) : (CharSet.single mark).contains c = (c == mark) := by
    rw [Bool.eq_iff_iff, CharSet.contains_single, beq_iff_eq]
  rw [behind, Pattern.char, reads_first_iff hmark]
  simp only [beq_iff_eq, Pattern.reads_several_one_iff, contains_orDigit h]
  constructor
  · rintro ⟨_, piece, rfl, rfl, hpiece⟩
    exact ⟨piece, rfl, hpiece⟩
  · rintro ⟨piece, rfl, hpiece⟩
    exact ⟨mark, piece, rfl, rfl, hpiece⟩

theorem intercalate_eq_append (mark : Char) (first : List Char) (further : List (List Char)) :
    [mark].intercalate (first :: further) = first ++ (further.map (mark :: ·)).flatten := by
  induction further generalizing first with
  | nil => simp
  | cons piece further ih => rw [List.intercalate_cons_cons, ih]; simp

/-- Pieces behind marks are the pieces between the marks, if no piece holds one. -/
theorem splitOn_eq_cons_iff {mark : Char} {cs first : List Char} {further : List (List Char)}
    (h : ∀ piece ∈ first :: further, mark ∉ piece) :
    cs.splitOn mark = first :: further ↔ cs = first ++ (further.map (mark :: ·)).flatten := by
  constructor
  · intro hsplit
    rw [← intercalate_eq_append, ← hsplit, List.intercalate_splitOn]
  · rintro rfl
    rw [← intercalate_eq_append, List.splitOn_intercalate mark h (List.cons_ne_nil _ _)]

theorem isFoundIn_marks_iff (h : ∀ c, letters.contains c = isLetter c) {mark : Char}
    (hmark : isOrDigit isLetter mark = false) (cs : List Char) :
    (parts (.one letters) (.one (.union letters .digits)) (behind mark (.one (.union letters .digits)))).isFoundIn cs =
      true ↔ Divided mark isLetter cs := by
  have hnot {piece : List Char} (hpiece : ∀ c ∈ piece, isOrDigit isLetter c = true) : mark ∉ piece := by
    intro hmem
    rw [hpiece mark hmem] at hmark
    exact nomatch hmark
  have hfirst {piece : List Char} (hpiece : Starts isLetter (isOrDigit isLetter) piece) :
      ∀ c ∈ piece, isOrDigit isLetter c = true := by
    obtain ⟨c, rest, rfl, hc, hrest⟩ := hpiece
    exact List.forall_mem_cons.mpr ⟨by rw [isOrDigit, hc, Bool.true_or], hrest⟩
  have hsplit {first : List Char} {further : List (List Char)} (hstart : Starts isLetter (isOrDigit isLetter) first)
      (hall : ∀ piece ∈ further, piece ≠ [] ∧ ∀ c ∈ piece, isOrDigit isLetter c = true) :
      cs.splitOn mark = first :: further ↔ cs = first ++ (further.map (mark :: ·)).flatten :=
    splitOn_eq_cons_iff (List.forall_mem_cons.mpr ⟨hnot (hfirst hstart), fun piece hp => hnot (hall piece hp).2⟩)
  rw [parts, Pattern.isFoundIn_whole_iff_reads
    (by simp [Pattern.IsFree, Pattern.many, behind, Pattern.char, Pattern.several]), reads_first_iff h]
  simp only [Pattern.reads_sequence_iff, Pattern.reads_many_one_iff, contains_orDigit h]
  simp only [Pattern.reads_many_iff, reads_behind_iff h, forall_exists_eq_iff]
  constructor
  · rintro ⟨c, _, hcs, hc, front, _, rfl, hfront, _, rfl, further, rfl, hall⟩
    have hstart : Starts isLetter (isOrDigit isLetter) (c :: front) := ⟨c, front, rfl, hc, hfront⟩
    exact ⟨c :: front, further, (hsplit hstart hall).mpr hcs, hstart, hall⟩
  · rintro ⟨first, further, heq, hstart, hall⟩
    obtain rfl := (hsplit hstart hall).mp heq
    obtain ⟨c, rest, rfl, hc, hrest⟩ := hstart
    exact ⟨c, _, rfl, hc, rest, _, rfl, hrest, _, rfl, further, rfl, hall⟩

/-! ## The law -/

theorem admits_iff (casing : Casing) (name : String) :
    casing.admits name = true ↔ name = "" ∨ casing.Follows name.toList := by
  rw [admits, Bool.or_eq_true, String.isEmpty_iff]
  refine or_congr_right ?_
  cases casing with
  | flat =>
    rw [pattern, Pattern.isFoundIn_whole_iff_reads (by simp [Pattern.IsFree, Pattern.many, lowerOrDigit])]
    exact reads_starts_iff CharSet.contains_lower (contains_orDigit CharSet.contains_lower)
  | camel => exact isFoundIn_humps_iff CharSet.contains_lower _
  | pascal => exact isFoundIn_humps_iff CharSet.contains_upper _
  | kebab => exact isFoundIn_marks_iff CharSet.contains_lower (by decide) _
  | cobol => exact isFoundIn_marks_iff CharSet.contains_upper (by decide) _
  | snake => exact isFoundIn_marks_iff CharSet.contains_lower (by decide) _
  | macroCase => exact isFoundIn_marks_iff CharSet.contains_upper (by decide) _

end Casing

/-- The function for a casing says nothing exactly about names that follow the convention, empty names and values that
are no text, and one thing about everything else. -/
theorem messages_casing (casing : Casing) (value : Option Json) (property : String) :
    ((Function.casing casing).messages value property = [] ↔
      ∀ name, value = some (.string name) → name = "" ∨ casing.Follows name.toList) ∧
    ((Function.casing casing).messages value property ≠ [] → ∃ name, value = some (.string name) ∧
      (Function.casing casing).messages value property = [s!"\"{name}\" must be {casing.name} case"]) := by
  cases value with
  | none => simp [Function.messages]
  | some v =>
    cases v with
    | string name =>
      simp only [Function.messages, Option.some.injEq, Json.string.injEq, forall_eq', exists_eq_left',
        ← Casing.admits_iff]
      cases casing.admits name <;> simp [Function.sayUnless]
    | _ => simp [Function.messages]

end Rule

end CatalogGate
