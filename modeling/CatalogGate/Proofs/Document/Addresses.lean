-- The laws of lines and offsets. The lines of a document are what stands between its line feeds, and an offset
-- means the place that counting the line feeds and the characters in front of it leads to.
import CatalogGate.Proofs.Document.Places
import Mathlib.Data.List.DropRight

namespace CatalogGate

namespace Document

/-! ## Lines -/

/-- The lines are the pieces between the line feeds, without the carriage returns at their ends. -/
structure IsDivided (d : Document) : Prop where
  count : d.lineCount = d.text.count '\n' + 1
  line : ∀ n, d.line? n = (d.text.splitOn '\n')[n]?.map (List.rdropWhile (· = '\r'))
  noLine : ∀ n, d.line? n = none ↔ d.lineCount ≤ n

theorem isDivided (d : Document) : d.IsDivided where
  count := by rw [lineCount_eq, length_pieces]
  line n := by rw [line?_eq, pieces_eq_splitOn]; rfl
  noLine n := by rw [line?_eq, Option.map_eq_none_iff, List.getElem?_eq_none_iff, lineCount_eq]

/-! ## Offsets -/

/-- An offset behind the start of a character, but not behind its end, means the place behind the character. -/
theorem positionAt_within {d : Document} {before : List Char} {c : Char} {offset : Nat}
    (hstart : before ++ [c] <+: d.text) (hlow : before.utf8Encode.size < offset)
    (hhigh : offset ≤ (before ++ [c]).utf8Encode.size) :
    d.positionAt offset = Position.zero.behindAll (before ++ [c]) := by
  obtain ⟨rest, hrest⟩ := hstart
  rw [size_utf8Encode_concat] at hhigh
  rw [positionAt_eq, ← hrest, List.append_assoc, positionFrom_append _ _ (by omega), Nat.zero_add, List.singleton_append,
    positionFrom, if_pos hlow, Position.behindAll_append]
  exact positionFrom_of_le _ _ hhigh

theorem positionAt_boundary {d : Document} {before : List Char} (hstart : before <+: d.text) :
    d.positionAt before.utf8Encode.size = Position.zero.behindAll before := by
  obtain ⟨rest, hrest⟩ := hstart
  rw [positionAt_eq, ← hrest, positionFrom_append _ _ (by omega), Nat.zero_add]
  exact positionFrom_of_le _ _ (Nat.le_refl _)

theorem positionAt_end {d : Document} {offset : Nat} (h : d.text.utf8Encode.size ≤ offset) :
    d.positionAt offset = Position.zero.behindAll d.text := by
  have hall := positionFrom_append .zero [] (show 0 + d.text.utf8Encode.size ≤ offset by omega)
  rwa [List.append_nil, ← positionAt_eq] at hall

theorem le_positionFrom (offset index : Nat) (here : Position) (text : List Char) :
    here ≤ positionFrom offset index here text := by
  induction text generalizing index here with
  | nil => exact Position.le_rfl here
  | cons c text ih =>
    rw [positionFrom]
    split
    · exact Position.le_of_lt (Position.lt_of_lt_of_le (here.lt_behind c) (ih _ _))
    · exact Position.le_rfl here

theorem positionFrom_mono {a b : Nat} (h : a ≤ b) (index : Nat) (here : Position) (text : List Char) :
    positionFrom a index here text ≤ positionFrom b index here text := by
  induction text generalizing index here with
  | nil => exact Position.le_rfl here
  | cons c text ih =>
    by_cases ha : index < a
    · rw [positionFrom, positionFrom, if_pos ha, if_pos (Nat.lt_of_lt_of_le ha h)]
      exact ih _ _
    · rw [positionFrom_of_le _ _ (Nat.le_of_not_lt ha)]
      exact le_positionFrom b index here (c :: text)

/-- Two starts of a text with the same place behind them are the same. -/
theorem eq_of_behindAll_eq {text before before' : List Char} (h : before <+: text) (h' : before' <+: text)
    (hplace : Position.zero.behindAll before = Position.zero.behindAll before') : before = before' := by
  wlog hlength : before.length ≤ before'.length generalizing before before'
  · exact (this h' h hplace.symm (Nat.le_of_not_le hlength)).symm
  obtain ⟨between, rfl⟩ := List.prefix_of_prefix_length_le h h' hlength
  by_cases hbetween : between = []
  · rw [hbetween, List.append_nil]
  · rw [Position.behindAll_append] at hplace
    have hlt := (Position.zero.behindAll before).lt_behindAll hbetween
    rw [← hplace] at hlt
    exact absurd hlt (Position.lt_irrefl _)

/-- Offsets are resolved exactly. The boundaries of characters are the sizes of the starts of the text. -/
structure IsAddressed (d : Document) : Prop where
  found : ∀ offset, positionIn? d.lineStarts d.text offset = some (d.positionAt offset)
  boundary : ∀ before, before <+: d.text →
    d.positionAt before.utf8Encode.size = ⟨before.count '\n', (before.rtakeWhile (· ≠ '\n')).length⟩
  distinct : ∀ before before', before <+: d.text → before' <+: d.text →
    d.positionAt before.utf8Encode.size = d.positionAt before'.utf8Encode.size → before = before'
  inside : ∀ before c offset, before ++ [c] <+: d.text → before.utf8Encode.size < offset →
    offset < (before ++ [c]).utf8Encode.size → d.positionAt offset = d.positionAt (before ++ [c]).utf8Encode.size
  behind : ∀ offset, d.text.utf8Encode.size ≤ offset → d.positionAt offset = d.positionAt d.text.utf8Encode.size
  monotone : ∀ a b, a ≤ b → d.positionAt a ≤ d.positionAt b

theorem isAddressed (d : Document) : d.IsAddressed where
  found := positionIn?_lineStarts d
  boundary before h := by rw [positionAt_boundary h, Position.zero_behindAll]
  distinct before before' h h' hplace := by
    rw [positionAt_boundary h, positionAt_boundary h'] at hplace
    exact eq_of_behindAll_eq h h' hplace
  inside before c offset h hlow hhigh := by
    rw [positionAt_within h hlow (Nat.le_of_lt hhigh), positionAt_boundary h]
  behind offset h := by rw [positionAt_end h, positionAt_end (Nat.le_refl _)]
  monotone a b h := by
    rw [positionAt_eq, positionAt_eq]
    exact positionFrom_mono h 0 .zero d.text

/-- A document that was loaded is divided into lines and addressed by offsets exactly, and none of its places
needs more than 32 bits for its line or its character. -/
theorem addresses_of_load {name : String} {bytes : ByteArray} {d : Document} (h : load name bytes = .ok d) :
    d.IsDivided ∧ d.IsAddressed ∧ ∀ offset, (d.positionAt offset).Fits := by
  refine ⟨d.isDivided, d.isAddressed, ?_⟩
  intro offset
  exact fits_of_holds (length_text_lt h) (holds_positionAt d offset)

/-- A character of two bytes in front of a carriage return, and an empty line. -/
def shortText : String := "é\r\n\nb"

/-- The first line has one character, and the offset between the bytes of it means the place behind it. -/
theorem addresses_of_load_short :
    load "api.yaml" shortText.toUTF8 = .ok ⟨"api.yaml", shortText.toList⟩ ∧
      line? ⟨"api.yaml", shortText.toList⟩ 0 = some ['é'] ∧
        positionAt ⟨"api.yaml", shortText.toList⟩ 1 = positionAt ⟨"api.yaml", shortText.toList⟩ 2 := by
  have hload : load "api.yaml" shortText.toUTF8 = .ok ⟨"api.yaml", shortText.toList⟩ :=
    (load_eq_ok_iff ..).mpr ⟨by decide, rfl, _, String.utf8Encode_toList.symm, by decide⟩
  obtain ⟨hdivided, haddressed, _⟩ := addresses_of_load hload
  have hstart : [] ++ ['é'] <+: shortText.toList := by decide
  exact ⟨hload, hdivided.line 0, haddressed.inside [] 'é' 1 hstart (by decide) (by decide)⟩

end Document

end CatalogGate
