-- The laws of places. Every place that is computed for a document, whether from an offset or from the entries
-- of its outline, is on a line that there is and not behind the end of that line.
import CatalogGate.Document.Outline
import CatalogGate.Proofs.Document.Index
import CatalogGate.Proofs.Document.Loading

namespace CatalogGate

/-- Line and character fit into 32 bits. -/
def Position.Fits (p : Position) : Prop := p.line < UInt32.size ∧ p.character < UInt32.size

namespace Document

/-- The line is there, and it has this many characters in front of its line feed. -/
def Holds (d : Document) (p : Position) : Prop :=
  ∃ piece, (pieces d.text)[p.line]? = some piece ∧ p.character ≤ piece.length

/-- Both ends are places in the document. -/
structure Covers (d : Document) (r : Range) : Prop where
  start : d.Holds r.start
  stop : d.Holds r.stop

/-! ## Lines -/

theorem holds_zero (d : Document) : d.Holds .zero := by
  obtain ⟨piece, more, h⟩ := exists_pieces_eq_cons d.text
  exact ⟨piece, by simp [h, Position.zero], Nat.zero_le _⟩

theorem length_dropEndWhile_le (p : Char → Bool) (cs : List Char) :
    (Text.dropEndWhile p cs).length ≤ cs.length := by
  rw [Text.dropEndWhile, List.length_reverse]
  exact Nat.le_trans (List.dropWhile_suffix p).length_le (Nat.le_of_eq List.length_reverse)

/-- A line without its carriage returns is no longer than with them. -/
theorem exists_piece_of_line {d : Document} {n : Nat} {line : List Char} (h : d.lines[n]? = some line) :
    ∃ piece, (pieces d.text)[n]? = some piece ∧ line.length ≤ piece.length := by
  rw [lines_eq, List.getElem?_map, Option.map_eq_some_iff] at h
  obtain ⟨piece, hpiece, rfl⟩ := h
  exact ⟨piece, hpiece, length_dropEndWhile_le ..⟩

/-! ## From offsets -/

/-- A place that counting can come to from a place in front of the first piece. -/
def Reaches (here : Position) : List (List Char) → Position → Prop
  | [], _ => False
  | piece :: more, p =>
    (p.line = here.line ∧ p.character ≤ here.character + piece.length) ∨ Reaches ⟨here.line + 1, 0⟩ more p

theorem reaches_here (here : Position) (text : List Char) : Reaches here (pieces text) here := by
  obtain ⟨piece, more, h⟩ := exists_pieces_eq_cons text
  rw [h]
  exact Or.inl ⟨rfl, Nat.le_add_right ..⟩

theorem reaches_positionFrom (offset index : Nat) (here : Position) (text : List Char) :
    Reaches here (pieces text) (positionFrom offset index here text) := by
  induction text generalizing index here with
  | nil => exact reaches_here here []
  | cons c text ih =>
    rw [positionFrom]
    split
    · by_cases hc : c = '\n'
      · subst hc
        exact Or.inr (ih _ _)
      · have hnext := ih (index + c.utf8Size) ⟨here.line, here.character + 1⟩
        obtain ⟨piece, more, h⟩ := exists_pieces_eq_cons text
        rw [pieces_cons_of_ne hc h, if_neg hc]
        rw [h] at hnext
        -- The character belongs to the piece, so that one more may be counted before it.
        rcases hnext with ⟨hline, hcharacter⟩ | hbelow
        · refine Or.inl ⟨hline, ?_⟩
          simp only [List.length_cons] at hcharacter ⊢
          omega
        · exact Or.inr hbelow
    · exact reaches_here here (c :: text)

theorem exists_piece_of_reaches {line : Nat} {ps : List (List Char)} {p : Position}
    (h : Reaches ⟨line, 0⟩ ps p) :
    ∃ below piece, p.line = line + below ∧ ps[below]? = some piece ∧ p.character ≤ piece.length := by
  induction ps generalizing line with
  | nil => exact absurd h id
  | cons piece more ih =>
    rcases h with ⟨hline, hcharacter⟩ | hbelow
    · exact ⟨0, piece, hline, rfl, by simpa using hcharacter⟩
    · obtain ⟨below, found, hline, hfound, hcharacter⟩ := ih hbelow
      refine ⟨below + 1, found, ?_, by simpa using hfound, hcharacter⟩
      rw [hline, Nat.add_assoc, Nat.add_comm 1]

theorem holds_positionAt (d : Document) (offset : Nat) : d.Holds (d.positionAt offset) := by
  obtain ⟨below, piece, hline, hpiece, hcharacter⟩ :=
    exists_piece_of_reaches (reaches_positionFrom offset 0 .zero d.text)
  rw [positionAt_eq]
  exact ⟨piece, by rw [hline, Nat.zero_add, hpiece], hcharacter⟩

theorem holds_endOfLine {d : Document} {p : Position} (h : d.Holds p) : d.Holds (d.endOfLine p.line) := by
  obtain ⟨piece, hpiece, _⟩ := h
  refine ⟨piece, hpiece, ?_⟩
  have hline : d.line? p.line = some (trimLine piece) := by
    rw [line?_eq, hpiece, Option.map_some]
  rw [endOfLine, hline]
  exact length_dropEndWhile_le ..

/-! ## Sizes -/

theorem length_le_size_utf8Encode (cs : List Char) : cs.length ≤ cs.utf8Encode.size := by
  induction cs with
  | nil => exact Nat.zero_le _
  | cons c cs ih =>
    have hpos := c.utf8Size_pos
    rw [Text.size_utf8Encode_cons, List.length_cons]
    omega

theorem length_dropMark_le (cs : List Char) : (dropMark cs).length ≤ cs.length := by
  unfold dropMark
  split
  · split <;> simp
  · exact Nat.le_refl _

/-- A document that was loaded has less characters than 32 bits can count. -/
theorem length_text_lt {name : String} {bytes : ByteArray} {d : Document} (h : load name bytes = .ok d) :
    d.text.length < UInt32.size := by
  obtain ⟨hsize, _, cs, hcs, htext⟩ := (load_eq_ok_iff name bytes d).mp h
  have hmark := length_dropMark_le cs
  have hlength := length_le_size_utf8Encode cs
  rw [hcs] at hsize
  rw [htext]
  omega

/-- Counting places of a document that was loaded never needs more than 32 bits. -/
theorem fits_of_holds {d : Document} (hsize : d.text.length < UInt32.size) {p : Position} (h : d.Holds p) :
    p.Fits := by
  obtain ⟨piece, hpiece, hcharacter⟩ := h
  obtain ⟨hline, _⟩ := List.getElem?_eq_some_iff.mp hpiece
  have hlines := length_pieces_le d.text
  have hlength := length_le_of_mem_pieces (List.mem_of_getElem? hpiece)
  constructor <;> omega

end Document

/-! ## From outlines -/

namespace Outline

open Document

theorem marksFrom_column_le (fuel column : Nat) (text : List Char) :
    ∀ m ∈ (marksFrom fuel column text).1, m.2 ≤ column + text.length := by
  induction fuel generalizing column text with
  | zero => simp [marksFrom]
  | succ fuel ih =>
    unfold marksFrom
    split
    · simp
    · rename_i rest
      have hblanks := (List.dropWhile_suffix (l := rest) (· = ' ')).length_le
      have hinner := ih (column + 2 + (rest.length - (rest.dropWhile (· = ' ')).length)) (rest.dropWhile (· = ' '))
      intro m hm
      rcases List.mem_cons.mp hm with rfl | hm
      · exact Nat.le_add_right ..
      · have := hinner m hm
        simp only [List.length_cons]
        omega
    · split <;> simp

/-- A line is passed over, or what stands behind its indentation is read for marks. -/
theorem readLine_cases (block : Option Nat) (line : Nat) (text : List Char) :
    readLine block line text = ([], block) ∨ readLine block line text = ([], none) ∨
      isSkipped (text.dropWhile (· = ' ')) = false ∧ ∃ fuel,
        readLine block line text =
          ((marksFrom fuel (text.length - (text.dropWhile (· = ' ')).length) (text.dropWhile (· = ' '))).1.map
              fun (mark, column) => ⟨mark, line, column, (Text.trimEnd text).length⟩,
            (marksFrom fuel (text.length - (text.dropWhile (· = ' ')).length) (text.dropWhile (· = ' '))).2) := by
  unfold readLine
  generalize text.dropWhile (· = ' ') = content
  by_cases hskip : isSkipped content = true
  · cases block with
    | none => simp [hskip]
    | some owner =>
      simp only [hskip, if_true]
      split
      · exact Or.inl rfl
      · exact Or.inr (Or.inl rfl)
  · have hread : isSkipped content = false := by simpa using hskip
    cases block with
    | none =>
      refine Or.inr (Or.inr ⟨hread, content.length + 1, ?_⟩)
      simp [hread]
    | some owner =>
      simp only [hread, Bool.false_eq_true, if_false]
      split
      · exact Or.inl rfl
      · exact Or.inr (Or.inr ⟨trivial, content.length + 1, rfl⟩)

/-- What is read off a line stands on it, and not behind its end. -/
theorem mem_readLine {block : Option Nat} {line : Nat} {text : List Char} {e : Entry}
    (h : e ∈ (readLine block line text).1) :
    e.line = line ∧ e.column ≤ text.length ∧ e.lineEnd ≤ text.length := by
  rcases readLine_cases block line text with hread | hread | ⟨_, fuel, hread⟩
  · simp [hread] at h
  · simp [hread] at h
  · rw [hread] at h
    obtain ⟨m, hm, rfl⟩ := List.mem_map.mp h
    have hblanks := (List.dropWhile_suffix (l := text) (· = ' ')).length_le
    have hcolumn := marksFrom_column_le _ _ _ m hm
    refine ⟨rfl, ?_, length_dropEndWhile_le ..⟩
    show m.2 ≤ text.length
    omega

theorem mem_readLines {block : Option Nat} {line : Nat} {texts : List (List Char)} {e : Entry}
    (h : e ∈ readLines block line texts) :
    ∃ below text, e.line = line + below ∧ texts[below]? = some text ∧ e.column ≤ text.length ∧
      e.lineEnd ≤ text.length := by
  induction texts generalizing block line with
  | nil => simp [readLines] at h
  | cons text texts ih =>
    rcases List.mem_append.mp h with h | h
    · obtain ⟨hline, hcolumn, hend⟩ := mem_readLine h
      exact ⟨0, text, hline, rfl, hcolumn, hend⟩
    · obtain ⟨below, found, hline, hfound, hcolumn, hend⟩ := ih h
      exact ⟨below + 1, found, by omega, by simpa using hfound, hcolumn, hend⟩

theorem covers_of_mem_entries {d : Document} {e : Entry} (h : e ∈ (ofDocument d).entries) :
    d.Covers e.range := by
  obtain ⟨n, line, hline, hget, hcolumn, hend⟩ := mem_readLines (List.mem_toArray.mp h)
  obtain ⟨piece, hpiece, hlength⟩ := exists_piece_of_line hget
  rw [Nat.zero_add] at hline
  rw [← hline] at hpiece
  refine ⟨⟨piece, hpiece, ?_⟩, ⟨piece, hpiece, ?_⟩⟩
  · exact Nat.le_trans hcolumn hlength
  · exact Nat.max_le.mpr ⟨Nat.le_trans hend hlength, Nat.le_trans hcolumn hlength⟩

theorem covers_rangeOf (d : Document) (path : Json.Path) : d.Covers ((ofDocument d).rangeOf path) := by
  unfold rangeOf
  split
  · rename_i e he
    obtain ⟨i, _, hget⟩ := Option.bind_eq_some_iff.mp he
    exact covers_of_mem_entries (Array.mem_of_getElem? hget)
  · exact ⟨holds_zero d, holds_zero d⟩

end Outline

end CatalogGate
