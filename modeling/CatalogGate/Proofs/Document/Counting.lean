-- Texts as they are read from their start: cut at line feeds into pieces, and counted through up to an offset.
-- The index of a document gives the same lines and places.
import CatalogGate.Document.Basic
import CatalogGate.Proofs.Text.Decoding
import Mathlib.Data.List.DropRight

namespace CatalogGate

namespace Document

/-! ## Pieces -/

/-- Puts a character in front of the first piece; a line feed ends a piece. -/
def addToPieces (c : Char) (pieces : List (List Char)) : List (List Char) :=
  if c = '\n' then [] :: pieces
  else
    match pieces with
    | piece :: more => (c :: piece) :: more
    | [] => [[c]]

/-- The pieces between line feeds, of which there is always one more than there are line feeds. -/
def pieces (text : List Char) : List (List Char) := text.foldr addToPieces [[]]

theorem pieces_feed (text : List Char) : pieces ('\n' :: text) = [] :: pieces text := rfl

theorem pieces_cons_of_ne {c : Char} {text piece : List Char} {more : List (List Char)} (hc : c ≠ '\n')
    (h : pieces text = piece :: more) : pieces (c :: text) = (c :: piece) :: more := by
  unfold pieces at h ⊢
  rw [List.foldr_cons, h, addToPieces, if_neg hc]

theorem exists_pieces_eq_cons (text : List Char) : ∃ piece more, pieces text = piece :: more := by
  induction text with
  | nil => exact ⟨[], [], rfl⟩
  | cons c text ih =>
    obtain ⟨piece, more, h⟩ := ih
    by_cases hc : c = '\n'
    · subst hc
      exact ⟨[], _, pieces_feed text⟩
    · exact ⟨c :: piece, more, pieces_cons_of_ne hc h⟩

/-- Texts in view of their pieces: they end, go on with a line feed, which starts a new piece, or with a character of
their first piece. -/
theorem pieces_induction {motive : List Char → List (List Char) → Prop} (nil : motive [] [[]])
    (feed : ∀ text, motive text (pieces text) → motive ('\n' :: text) ([] :: pieces text))
    (char : ∀ c text piece more, c ≠ '\n' → pieces text = piece :: more → motive text (piece :: more) →
      motive (c :: text) ((c :: piece) :: more))
    (text : List Char) : motive text (pieces text) := by
  induction text with
  | nil => exact nil
  | cons c text ih =>
    by_cases hc : c = '\n'
    · subst hc
      exact feed text ih
    · obtain ⟨piece, more, h⟩ := exists_pieces_eq_cons text
      rw [pieces_cons_of_ne hc h]
      exact char c text piece more hc h (h ▸ ih)

theorem length_pieces_le (text : List Char) : (pieces text).length ≤ text.length + 1 := by
  induction text using pieces_induction with
  | nil => exact Nat.le_refl _
  | feed text ih => exact Nat.succ_le_succ ih
  | char c text piece more _ _ ih =>
    simp only [List.length_cons] at ih ⊢
    omega

theorem length_le_of_mem_pieces {text : List Char} :
    ∀ {piece : List Char}, piece ∈ pieces text → piece.length ≤ text.length := by
  induction text using pieces_induction with
  | nil => simp
  | feed text ih =>
    intro piece h
    rcases List.mem_cons.mp h with rfl | h
    · exact Nat.zero_le _
    · exact Nat.le_succ_of_le (ih h)
  | char c text first more _ _ ih =>
    intro piece h
    rcases List.mem_cons.mp h with rfl | h
    · exact Nat.succ_le_succ (ih List.mem_cons_self)
    · exact Nat.le_succ_of_le (ih (List.mem_cons_of_mem _ h))

theorem pieces_eq_splitOn (text : List Char) : pieces text = text.splitOn '\n' := by
  induction text using pieces_induction with
  | nil => rfl
  | feed text ih =>
    rw [List.splitOn_eq_splitOnP, List.splitOnP_cons_eq_if_modifyHead, ← List.splitOn_eq_splitOnP, ← ih]
    rfl
  | char c text piece more hc _ ih =>
    rw [List.splitOn_eq_splitOnP, List.splitOnP_cons_eq_if_modifyHead, ← List.splitOn_eq_splitOnP, ← ih]
    simp [hc]

theorem length_pieces (text : List Char) : (pieces text).length = text.count '\n' + 1 := by
  induction text using pieces_induction with
  | nil => rfl
  | feed text ih => rw [List.length_cons, ih, List.count_cons_self]
  | char c text piece more hc _ ih => rw [List.length_cons, ← List.length_cons (a := piece), ih, List.count_cons_of_ne hc]

end Document

/-! ## Places behind a text -/

namespace Position

/-- The place behind a character. -/
def behind (here : Position) (c : Char) : Position :=
  if c = '\n' then ⟨here.line + 1, 0⟩ else ⟨here.line, here.character + 1⟩

theorem lt_behind (here : Position) (c : Char) : here < here.behind c := by
  unfold behind
  split
  · exact Or.inl (Nat.lt_succ_self _)
  · exact Or.inr ⟨rfl, Nat.lt_succ_self _⟩

theorem le_of_lt {p q : Position} (h : p < q) : p ≤ q := by
  rw [le_iff]
  rcases h with h | ⟨hline, hcharacter⟩
  · exact Or.inl h
  · exact Or.inr ⟨hline, Nat.le_of_lt hcharacter⟩

theorem lt_of_lt_of_le {p q r : Position} (hpq : p < q) (hqr : q ≤ r) : p < r := by
  rw [le_iff] at hqr
  show p.line < r.line ∨ (p.line = r.line ∧ p.character < r.character)
  rcases hpq with h | ⟨hline, hcharacter⟩ <;> omega

theorem lt_irrefl (p : Position) : ¬ p < p := le_rfl p

/-- The place behind a text that starts at a place. -/
def behindAll (here : Position) (text : List Char) : Position := text.foldl behind here

theorem behindAll_append (here : Position) (text rest : List Char) :
    here.behindAll (text ++ rest) = (here.behindAll text).behindAll rest := List.foldl_append

theorem le_behindAll (here : Position) (text : List Char) : here ≤ here.behindAll text := by
  induction text generalizing here with
  | nil => exact le_rfl here
  | cons c text ih => exact le_of_lt (lt_of_lt_of_le (lt_behind here c) (ih (here.behind c)))

theorem lt_behindAll (here : Position) {text : List Char} (h : text ≠ []) : here < here.behindAll text := by
  cases text with
  | nil => exact absurd rfl h
  | cons c text => exact lt_of_lt_of_le (lt_behind here c) (le_behindAll _ text)

/-- From the start of a text on, the line is the number of line feeds, and the character the number of
characters behind the last one. -/
theorem zero_behindAll (text : List Char) :
    zero.behindAll text = ⟨text.count '\n', (text.rtakeWhile (· ≠ '\n')).length⟩ := by
  induction text using List.reverseRecOn with
  | nil => rfl
  | append_singleton text c ih =>
    rw [behindAll_append, ih, List.count_append]
    show behind _ c = _
    unfold behind
    split
    · rename_i hc
      rw [List.rtakeWhile_concat_neg _ _ _ (by simpa using hc), hc]
      rfl
    · rename_i hc
      rw [List.rtakeWhile_concat_pos _ _ _ (by simpa using hc), List.length_append]
      simp [hc]

end Position

namespace Document

/-! ## Counting up to an offset -/

/-- The place of a byte offset, counted from the place of a character that starts at byte `index`. An
offset inside a character is the place behind it, and one past the end is the end. -/
def positionFrom (offset index : Nat) (here : Position) : List Char → Position
  | [] => here
  | c :: rest =>
    if index < offset then
      positionFrom offset (index + c.utf8Size)
        (if c = '\n' then ⟨here.line + 1, 0⟩ else ⟨here.line, here.character + 1⟩) rest
    else here

theorem size_utf8Encode_concat (text : List Char) (c : Char) :
    (text ++ [c]).utf8Encode.size = text.utf8Encode.size + c.utf8Size := by
  rw [List.utf8Encode_append, ByteArray.size_append, Text.size_utf8Encode_singleton]

/-- A text that ends in front of an offset is counted as a whole. -/
theorem positionFrom_append {offset index : Nat} (here : Position) {text : List Char} (rest : List Char)
    (h : index + text.utf8Encode.size ≤ offset) :
    positionFrom offset index here (text ++ rest) =
      positionFrom offset (index + text.utf8Encode.size) (here.behindAll text) rest := by
  induction text generalizing index here with
  | nil => simp [Position.behindAll]
  | cons c text ih =>
    rw [Text.size_utf8Encode_cons] at h ⊢
    have hpos := c.utf8Size_pos
    rw [List.cons_append, positionFrom, if_pos (by omega), ← Nat.add_assoc]
    exact ih (here.behind c) (by omega)

theorem positionFrom_of_le {offset index : Nat} (here : Position) (text : List Char) (h : offset ≤ index) :
    positionFrom offset index here text = here := by
  cases text with
  | nil => rfl
  | cons c text => rw [positionFrom, if_neg (Nat.not_lt_of_le h)]

end Document

end CatalogGate
