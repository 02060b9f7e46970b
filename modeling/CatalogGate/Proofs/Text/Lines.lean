-- The laws of texts in lines: which lines a text consists of, and that there is one answer at most.
import CatalogGate.Decimal.Reading
import CatalogGate.Proofs.Document.Addresses
import CatalogGate.Text.Columns

namespace CatalogGate

/-- No piece between line feeds has one inside. -/
theorem Document.feed_not_mem_pieces {text : List Char} : ∀ piece ∈ pieces text, '\n' ∉ piece := by
  induction text using pieces_induction with
  | nil => simp
  | feed text ih => simpa using ih
  | char c text piece more hc _ ih =>
    obtain ⟨hpiece, hmore⟩ := List.forall_mem_cons.mp ih
    refine List.forall_mem_cons.mpr ⟨?_, hmore⟩
    rw [List.mem_cons, not_or]
    exact ⟨Ne.symm hc, hpiece⟩

namespace Text

/-! ## Line feeds -/

/-- How many line feeds are in a text. -/
def feeds (s : String) : Nat := s.toList.count '\n'

theorem feeds_append (s t : String) : feeds (s ++ t) = feeds s + feeds t := by
  rw [feeds, String.toList_append, List.count_append]
  rfl

theorem feeds_eq_zero_iff {s : String} : feeds s = 0 ↔ '\n' ∉ s.toList := List.count_eq_zero

theorem feeds_text (s : String) : feeds (toString s) = feeds s := rfl

theorem feeds_number (n : Nat) : feeds (toString n) = 0 := by
  rw [feeds_eq_zero_iff]
  intro hmem
  exact absurd (Decimal.isDigit_of_mem_toString hmem) (by decide)

theorem feeds_padded (width : Nat) (s : String) : feeds (padded width s) = feeds s := by
  rw [padded, feeds_append, Nat.add_eq_left, feeds_eq_zero_iff, String.toList_ofList]
  intro hmem
  exact absurd (List.eq_of_mem_replicate hmem) (by decide)

/-! ## Pieces -/

/-- The pieces of a text between its line feeds. -/
def pieces (s : String) : List String := (Document.pieces s.toList).map String.ofList

theorem length_pieces (s : String) : (pieces s).length = feeds s + 1 := by
  rw [pieces, List.length_map, Document.length_pieces, feeds]

theorem feeds_of_mem_pieces {s piece : String} (h : piece ∈ pieces s) : feeds piece = 0 := by
  obtain ⟨cs, hcs, rfl⟩ := List.mem_map.mp h
  rw [feeds_eq_zero_iff, String.toList_ofList]
  exact Document.feed_not_mem_pieces cs hcs

theorem pieces_of_feeds {s : String} (h : feeds s = 0) : pieces s = [s] := by
  rw [pieces, Document.pieces_eq_splitOn, List.splitOn_eq_singleton (feeds_eq_zero_iff.mp h)]
  simp

theorem pieces_line (s rest : String) : pieces (s ++ "\n" ++ rest) = pieces s ++ pieces rest := by
  have hfeed : (s ++ "\n" ++ rest).toList = s.toList ++ '\n' :: rest.toList := by simp
  simp only [pieces, Document.pieces_eq_splitOn]
  rw [hfeed, List.splitOn_append_cons_self, List.map_append]

theorem pieces_injective {s t : String} (h : pieces s = pieces t) : s = t := by
  have hpieces : Document.pieces s.toList = Document.pieces t.toList :=
    List.map_injective_iff.mpr (fun _ _ => String.ofList_inj.mp) h
  rw [Document.pieces_eq_splitOn, Document.pieces_eq_splitOn] at hpieces
  have hjoined (t : String) : ['\n'].intercalate (t.toList.splitOn '\n') = t.toList := List.intercalate_splitOn '\n'
  apply String.toList_injective
  rw [← hjoined s, hpieces, hjoined t]

theorem feeds_of_mem_flatMap {lines : List String} {piece : String} (h : piece ∈ lines.flatMap pieces) :
    feeds piece = 0 := by
  obtain ⟨_, _, hpiece⟩ := List.mem_flatMap.mp h
  exact feeds_of_mem_pieces hpiece

/-- Lines are cut into what is between their own line feeds. -/
theorem flatMap_pieces_eq_iff (lines : List String) :
    lines.flatMap pieces = lines ↔ ∀ line ∈ lines, feeds line = 0 := by
  constructor
  · intro h line hline
    rw [← h] at hline
    exact feeds_of_mem_flatMap hline
  · intro h
    have hsingle : lines.flatMap pieces = lines.flatMap fun line => [line] :=
      List.flatMap_congr fun line hline => pieces_of_feeds (h line hline)
    rw [hsingle, List.flatMap_singleton']

/-! ## Lines -/

/-- The lines of a text: a line feed ends each of them, none has another one inside, and nothing stands behind them. -/
structure ConsistsOf (s : String) (lines : List String) : Prop where
  text : s = ofLines lines
  apart : ∀ line ∈ lines, feeds line = 0

theorem ofLines_cons (line : String) (lines : List String) :
    ofLines (line :: lines) = line ++ "\n" ++ ofLines lines := by
  simp [ofLines]

theorem pieces_ofLines (lines : List String) : pieces (ofLines lines) = lines.flatMap pieces ++ [""] := by
  induction lines with
  | nil => rfl
  | cons line lines ih => rw [ofLines_cons, pieces_line, ih, List.flatMap_cons, List.append_assoc]

/-- What is written as lines consists of the pieces of these lines, and of no other lines. -/
theorem consistsOf_ofLines_iff (written lines : List String) :
    ConsistsOf (ofLines written) lines ↔ lines = written.flatMap pieces := by
  constructor
  · rintro ⟨htext, hapart⟩
    have hpieces := congrArg pieces htext
    rw [pieces_ofLines, pieces_ofLines, List.append_cancel_right_eq, (flatMap_pieces_eq_iff lines).mpr hapart] at hpieces
    exact hpieces.symm
  · rintro rfl
    have hapart : ∀ line ∈ written.flatMap pieces, feeds line = 0 := fun _ => feeds_of_mem_flatMap
    refine ⟨pieces_injective ?_, hapart⟩
    rw [pieces_ofLines, pieces_ofLines, (flatMap_pieces_eq_iff _).mpr hapart]

end Text

end CatalogGate
