-- What stands between brackets: where it ends, how it is cut at commas, and which keys its parts are. A quote hides
-- brackets and commas until the same quote closes it.
import CatalogGate.Proofs.List.Traversal
import CatalogGate.Proofs.Text.Padding
import CatalogGate.Query.Reader

namespace CatalogGate.Query

/-! ## Quotes -/

/-- Some characters stand only in quotes, and in the end every quote is closed. -/
def Closed (stops : List Char) : Option Char → List Char → Prop
  | quote, [] => quote = none
  | quote, c :: rest => (quote = none → c ∉ stops) ∧ Closed stops (quoteAfter quote c) rest

theorem isQuote_iff {c : Char} : isQuote c = true ↔ c = '\'' ∨ c = '"' := by simp [isQuote]

theorem not_space_of_isQuote {c : Char} (h : isQuote c = true) : Text.isSpace c = false := by
  rcases isQuote_iff.mp h with rfl | rfl <;> decide

theorem not_isQuote_of_space {c : Char} (h : Text.isSpace c = true) : isQuote c = false := by
  rw [← Bool.not_eq_true]
  intro hquote
  rw [not_space_of_isQuote hquote] at h
  exact nomatch h

theorem quoteAfter_none {c : Char} (h : isQuote c = false) : quoteAfter none c = none := by simp [quoteAfter, h]

theorem quoteAfter_open {c : Char} (h : isQuote c = true) : quoteAfter none c = some c := by simp [quoteAfter, h]

theorem Closed.append {stops : List Char} {quote : Option Char} {cs rest : List Char} (h : Closed stops quote cs)
    (hrest : Closed stops none rest) : Closed stops quote (cs ++ rest) := by
  induction cs generalizing quote with
  | nil =>
    obtain rfl : quote = none := h
    exact hrest
  | cons c cs ih => exact ⟨h.1, ih h.2⟩

theorem Closed.mono {stops fewer : List Char} {quote : Option Char} {cs : List Char} (h : Closed stops quote cs)
    (hsub : fewer ⊆ stops) : Closed fewer quote cs := by
  induction cs generalizing quote with
  | nil => exact h
  | cons c cs ih => exact ⟨fun hquote hc => h.1 hquote (hsub hc), ih h.2⟩

theorem closed_blank {stops cs : List Char} (hstops : ∀ c ∈ stops, Text.isSpace c = false) (h : Text.Blank cs) :
    Closed stops none cs := by
  induction cs with
  | nil => rfl
  | cons c cs ih =>
    obtain ⟨hc, hcs⟩ := List.forall_mem_cons.mp h
    refine ⟨?_, ?_⟩
    · intro _ hmem
      rw [hstops c hmem] at hc
      exact nomatch hc
    · rw [quoteAfter_none (not_isQuote_of_space hc)]
      exact ih hcs

theorem closed_of_plain {stops cs : List Char} (h : ∀ c ∈ cs, c ∉ stops ∧ isQuote c = false) :
    Closed stops none cs := by
  induction cs with
  | nil => rfl
  | cons c cs ih =>
    obtain ⟨⟨hc, hquote⟩, hcs⟩ := List.forall_mem_cons.mp h
    exact ⟨fun _ => hc, by rw [quoteAfter_none hquote]; exact ih hcs⟩

/-- A key without its own quote is closed by the quote behind it. -/
theorem closed_quoted (stops : List Char) {q : Char} {key : List Char} (h : q ∉ key) :
    Closed stops (some q) (key ++ [q]) := by
  induction key with
  | nil => exact ⟨fun hnone => (nomatch hnone), by simp [quoteAfter, Closed]⟩
  | cons c key ih =>
    simp only [List.mem_cons, not_or] at h
    obtain ⟨hc, hkey⟩ := h
    refine ⟨fun hnone => (nomatch hnone), ?_⟩
    rw [quoteAfter, if_neg (Ne.symm hc)]
    exact ih hkey

/-! ## The end of a bracket -/

/-- A bracket ends before the first closing bracket outside of quotes. -/
theorem splitBracket_eq_some_iff {quote : Option Char} {read cs inner rest : List Char} :
    splitBracket quote read cs = some (inner, rest) ↔
      ∃ text, inner = read.reverse ++ text ∧ cs = text ++ ']' :: rest ∧ Closed [']'] quote text := by
  induction cs generalizing quote read with
  | nil => simp [splitBracket]
  | cons c cs ih =>
    rw [splitBracket]
    by_cases hend : quote = none ∧ c = ']'
    · obtain ⟨rfl, rfl⟩ := hend
      rw [if_pos ⟨rfl, rfl⟩, Option.some.injEq, Prod.mk.injEq]
      constructor
      · rintro ⟨rfl, rfl⟩
        exact ⟨[], by simp, rfl, rfl⟩
      · rintro ⟨text, rfl, htext, hclosed⟩
        cases text with
        | nil => simpa using htext
        | cons first text =>
          obtain ⟨rfl, _⟩ := List.cons.inj htext
          exact absurd (List.mem_singleton_self _) (hclosed.1 rfl)
    · rw [if_neg hend, ih]
      constructor
      · rintro ⟨text, rfl, rfl, hclosed⟩
        refine ⟨c :: text, by simp, rfl, ?_, hclosed⟩
        intro hquote hc
        exact hend ⟨hquote, List.mem_singleton.mp hc⟩
      · rintro ⟨text, rfl, htext, hclosed⟩
        cases text with
        | nil =>
          obtain ⟨rfl, _⟩ := List.cons.inj htext
          exact absurd ⟨hclosed, rfl⟩ hend
        | cons first text =>
          obtain ⟨rfl, rfl⟩ := List.cons.inj htext
          exact ⟨text, by simp, rfl, hclosed.2⟩

/-! ## Parts between commas -/

/-- Parts with commas between them. -/
def commaJoined : List (List Char) → List Char
  | [] => []
  | [part] => part
  | part :: rest => part ++ ',' :: commaJoined rest

theorem commaJoined_cons_ne_nil (part : List Char) {rest : List (List Char)} (h : rest ≠ []) :
    commaJoined (part :: rest) = part ++ ',' :: commaJoined rest := by
  cases rest with
  | nil => exact absurd rfl h
  | cons => rfl

theorem commaJoined_push (c : Char) (part : List Char) (rest : List (List Char)) :
    commaJoined ((c :: part) :: rest) = c :: commaJoined (part :: rest) := by
  cases rest <;> rfl

theorem closed_commaJoined {parts : List (List Char)} (h : ∀ part ∈ parts, Closed [',', ']'] none part) :
    Closed [']'] none (commaJoined parts) := by
  induction parts with
  | nil => rfl
  | cons part rest ih =>
    obtain ⟨hpart, hrest⟩ := List.forall_mem_cons.mp h
    have hclosed : Closed [']'] none part := hpart.mono (by simp)
    cases rest with
    | nil => exact hclosed
    | cons next rest => exact hclosed.append ⟨by simp, ih hrest⟩

/-- A closed part is read to its end, and no quote is open there. -/
theorem splitUnion_closed {quote : Option Char} (read : List Char) {part : List Char}
    (h : Closed [',', ']'] quote part) (cs : List Char) :
    splitUnion quote read (part ++ cs) = splitUnion none (part.reverse ++ read) cs := by
  induction part generalizing quote read with
  | nil =>
    obtain rfl : quote = none := h
    rfl
  | cons c part ih =>
    have hnot : ¬ (quote = none ∧ c = ',') := fun hcomma => h.1 hcomma.1 (by simp [hcomma.2])
    rw [List.cons_append, splitUnion, if_neg hnot, ih (c :: read) h.2, List.reverse_cons, List.append_assoc]
    rfl

theorem splitUnion_commaJoined {part : List Char} {rest : List (List Char)}
    (hpart : Closed [',', ']'] none part) (hrest : ∀ p ∈ rest, Closed [',', ']'] none p) :
    splitUnion none [] (commaJoined (part :: rest)) = part :: rest := by
  induction rest generalizing part with
  | nil =>
    have hread := splitUnion_closed [] hpart []
    rw [List.append_nil, List.append_nil] at hread
    rw [commaJoined, hread, splitUnion, List.reverse_reverse]
  | cons next rest ih =>
    obtain ⟨hnext, htail⟩ := List.forall_mem_cons.mp hrest
    rw [commaJoined_cons_ne_nil part (by simp), splitUnion_closed [] hpart, splitUnion, if_pos ⟨rfl, rfl⟩,
      ih hnext htail, List.append_nil, List.reverse_reverse]

/-- The parts of a text that ends before a closing bracket. -/
theorem exists_parts {quote : Option Char} (read : List Char) {cs : List Char} (h : Closed [']'] quote cs) :
    ∃ part rest, splitUnion quote read cs = (read.reverse ++ part) :: rest ∧ cs = commaJoined (part :: rest) ∧
      Closed [',', ']'] quote part ∧ ∀ p ∈ rest, Closed [',', ']'] none p := by
  induction cs generalizing quote read with
  | nil => exact ⟨[], [], by simp [splitUnion], rfl, h, List.forall_mem_nil _⟩
  | cons c cs ih =>
    rw [splitUnion]
    by_cases hcomma : quote = none ∧ c = ','
    · obtain ⟨rfl, rfl⟩ := hcomma
      obtain ⟨part, rest, hsplit, rfl, hpart, hrest⟩ := ih [] (show Closed [']'] none cs from h.2)
      rw [if_pos ⟨rfl, rfl⟩, hsplit]
      exact ⟨[], part :: rest, by simp, rfl, rfl, List.forall_mem_cons.mpr ⟨hpart, hrest⟩⟩
    · obtain ⟨part, rest, hsplit, rfl, hpart, hrest⟩ := ih (c :: read) h.2
      rw [if_neg hcomma, hsplit]
      refine ⟨c :: part, rest, by simp, (commaJoined_push c part rest).symm, ⟨?_, hpart⟩, hrest⟩
      intro hquote hmem
      rcases List.mem_cons.mp hmem with hc | hmem
      · exact hcomma ⟨hquote, hc⟩
      · exact h.1 hquote hmem

theorem splitUnion_eq_iff {cs : List Char} (h : Closed [']'] none cs) {parts : List (List Char)} :
    splitUnion none [] cs = parts ↔
      parts ≠ [] ∧ cs = commaJoined parts ∧ ∀ p ∈ parts, Closed [',', ']'] none p := by
  constructor
  · rintro rfl
    obtain ⟨part, rest, hsplit, hcs, hpart, hrest⟩ := exists_parts [] h
    rw [hsplit]
    exact ⟨by simp, hcs, List.forall_mem_cons.mpr ⟨hpart, hrest⟩⟩
  · rintro ⟨hne, rfl, hclosed⟩
    obtain ⟨part, rest, rfl⟩ := List.exists_cons_of_ne_nil hne
    obtain ⟨hpart, hrest⟩ := List.forall_mem_cons.mp hclosed
    exact splitUnion_commaJoined hpart hrest

/-! ## Blanks around parts -/

theorem splitUnion_blank {a : List Char} (ha : Text.Blank a) (quote : Option Char) (read : List Char) :
    splitUnion quote read a = [read.reverse ++ a] := by
  induction a generalizing quote read with
  | nil => simp [splitUnion]
  | cons c a ih =>
    obtain ⟨hc, hrest⟩ := List.forall_mem_cons.mp ha
    have hnot : ¬ (quote = none ∧ c = ',') := by
      rintro ⟨_, rfl⟩
      exact absurd hc (by decide)
    rw [splitUnion, if_neg hnot, ih hrest]
    simp

theorem map_trim_splitUnion_append {a : List Char} (ha : Text.Blank a) (quote : Option Char) (read cs : List Char) :
    (splitUnion quote read (cs ++ a)).map Text.trim = (splitUnion quote read cs).map Text.trim := by
  induction cs generalizing quote read with
  | nil => simp [splitUnion_blank ha, splitUnion, Text.trim_append_blank ha]
  | cons c cs ih =>
    rw [List.cons_append, splitUnion, splitUnion]
    split
    · rw [List.map_cons, List.map_cons, ih]
    · exact ih _ _

theorem map_trim_splitUnion_read {b : List Char} (hb : Text.Blank b) (quote : Option Char) (read cs : List Char) :
    (splitUnion quote (read ++ b.reverse) cs).map Text.trim = (splitUnion quote read cs).map Text.trim := by
  induction cs generalizing quote read with
  | nil => simp [splitUnion, Text.trim_blank_append hb]
  | cons c cs ih =>
    rw [splitUnion, splitUnion]
    split
    · rw [List.map_cons, List.map_cons, List.reverse_append, List.reverse_reverse, Text.trim_blank_append hb]
    · exact ih _ (c :: read)

/-- Blanks around the whole are blanks around the outer parts. -/
theorem map_trim_splitUnion_trim (inner : List Char) :
    (splitUnion none [] (Text.trim inner)).map Text.trim = (splitUnion none [] inner).map Text.trim := by
  obtain ⟨b, a, hb, ha, _, hinner⟩ := Text.exists_padded inner
  have hclosed : Closed [',', ']'] none b := closed_blank (by simp [Text.isSpace]) hb
  calc (splitUnion none [] (Text.trim inner)).map Text.trim
      = (splitUnion none (b.reverse ++ []) (Text.trim inner)).map Text.trim := by
        rw [List.append_nil, ← List.nil_append b.reverse, map_trim_splitUnion_read hb]
    _ = (splitUnion none [] (b ++ Text.trim inner ++ a)).map Text.trim := by
        rw [← splitUnion_closed [] hclosed, map_trim_splitUnion_append ha]
    _ = (splitUnion none [] inner).map Text.trim := by rw [← hinner]

end CatalogGate.Query
