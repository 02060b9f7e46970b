-- What the reader of lines makes of text in block style: the mark of every entry, and whatever it takes for
-- marks inside of scalars, which is always further in.
import CatalogGate.Proofs.Document.Layout

namespace CatalogGate.Block

open Document Outline

/-! ## Lines that hold entries -/

/-- A line that is not skipped has something on it. -/
theorem exists_ink_of_not_skipped {text : List Char} (h : isSkipped text = false) :
    ∃ c ∈ text, Text.isSpace c = false := by
  simp only [isSkipped, Bool.or_eq_false_iff, List.all_eq_false] at h
  obtain ⟨⟨⟨⟨⟨c, hc, hspace⟩, _⟩, _⟩, _⟩, _⟩ := h
  exact ⟨c, hc, by simpa using hspace⟩

theorem not_skipped_of_quote {text : List Char} {quote : Char} (h : quote = '"' ∨ quote = '\'') :
    isSkipped (quote :: text) = false := by
  rcases h with rfl | rfl
  · have hspace : Text.isSpace '"' = false := by decide
    simp [isSkipped, hspace, List.isPrefixOf]
  · have hspace : Text.isSpace '\'' = false := by decide
    simp [isSkipped, hspace, List.isPrefixOf]

theorem not_skipped_of_dash {rest : List Char} (h : IsBehind rest) : isSkipped ('-' :: rest) = false := by
  have hspace : Text.isSpace '-' = false := by decide
  rcases h with rfl | ⟨more, rfl⟩
  · decide
  · simp [isSkipped, hspace, List.isPrefixOf]

theorem not_dots_of_plain {name : List Char} (h : IsPlain name) (rest : List Char) :
    ¬ ['.', '.', '.'] <+: name ++ ':' :: rest := by
  rcases name with _ | ⟨a, _ | ⟨b, _ | ⟨c, name⟩⟩⟩
  · simp
  · simp
  · simp
  · simpa using h.noDots

theorem not_skipped_of_plain {name : List Char} (h : IsPlain name) (rest : List Char) :
    isSkipped (name ++ ':' :: rest) = false := by
  have hdots := not_dots_of_plain h rest
  obtain ⟨front, last, hstop, hlast⟩ := h.stop
  obtain ⟨c, tail, hname, hc⟩ := h.start
  simp only [List.mem_cons, List.not_mem_nil, or_false, not_or] at hc
  obtain ⟨_, _, _, _, _, hhash, hpercent, hdash⟩ := hc
  have hink : (name ++ ':' :: rest).all Text.isSpace = false := by
    rw [List.all_eq_false]
    exact ⟨last, by simp [hstop], by simp [hlast]⟩
  have hprefix : "...".toList.isPrefixOf (name ++ ':' :: rest) = false := by
    rw [← Bool.not_eq_true, List.isPrefixOf_iff_prefix]
    exact hdots
  subst hname
  simp only [isSkipped, hink, hprefix]
  simp [hhash, hpercent, Ne.symm hdash, List.isPrefixOf]

theorem not_skipped_of_key {k : Key} (h : k.Written) (rest : List Char) :
    isSkipped (k.text ++ ':' :: rest) = false := by
  unfold Key.text
  cases hstyle : k.style with
  | plain => exact not_skipped_of_plain (h.plain hstyle) rest
  | single => exact not_skipped_of_quote (Or.inr rfl)
  | double => exact not_skipped_of_quote (Or.inl rfl)

theorem isBehind_spaces {gap : Nat} (h : 0 < gap) (text : List Char) :
    IsBehind (List.replicate gap ' ' ++ text) := by
  cases gap with
  | zero => omega
  | succ gap => exact Or.inr ⟨_, rfl⟩

theorem label_text_append (label : Label) (rest : List Char) :
    label.text ++ rest = match label with
      | .key k => k.text ++ ':' :: rest
      | .dash => '-' :: rest := by
  cases label <;> simp [Label.text]

theorem Laid.not_skipped {column : Nat} {e : Entry} (h : Laid column e) : isSkipped e.opening = false := by
  cases h with
  | @scalar _ label rest _ written behind _ _ =>
    rw [Entry.opening, label_text_append]
    cases label with
    | key k => exact not_skipped_of_key written rest
    | dash => exact not_skipped_of_dash behind
  | keyed written _ _ _ _ _ _ => exact not_skipped_of_key written _
  | dashed space _ _ => exact not_skipped_of_dash (isBehind_spaces space _)

/-- No entry starts with a space, so that its column is where the spaces in front end. -/
theorem Laid.head_ne_space {column : Nat} {e : Entry} (h : Laid column e) :
    ∃ c rest, e.opening = c :: rest ∧ c ≠ ' ' := by
  have hkey {k : Key} (hk : k.Written) (rest : List Char) : ∃ c more, k.text ++ ':' :: rest = c :: more ∧ c ≠ ' ' := by
    unfold Key.text
    cases hstyle : k.style with
    | plain =>
      obtain ⟨c, tail, hname, hc⟩ := (hk.plain hstyle).start
      exact ⟨c, _, by rw [hname]; rfl, fun hspace => hc (by simp [hspace])⟩
    | single => exact ⟨_, _, rfl, by decide⟩
    | double => exact ⟨_, _, rfl, by decide⟩
  cases h with
  | @scalar _ label rest _ written _ _ _ =>
    rw [Entry.opening, label_text_append]
    cases label with
    | key k => exact hkey written rest
    | dash => exact ⟨_, _, rfl, by decide⟩
  | keyed written _ _ _ _ _ _ => exact hkey written _
  | dashed => exact ⟨_, _, rfl, by decide⟩

/-! ## The end of a line -/

theorem trimEnd_append {text : List Char} (h : ∃ c ∈ text, Text.isSpace c = false) (front : List Char) :
    Text.trimEnd (front ++ text) = front ++ Text.trimEnd text := by
  have hink : (text.reverse.dropWhile Text.isSpace).isEmpty = false := by
    obtain ⟨c, hc, hspace⟩ := h
    have hany := List.any_dropWhile (p := Text.isSpace) (l := text.reverse)
    rw [← Bool.not_eq_true, List.isEmpty_iff]
    intro hnil
    rw [hnil, List.any_nil, List.all_reverse, eq_comm, Bool.not_eq_false', List.all_eq_true] at hany
    simp [hany c hc] at hspace
  simp only [Text.trimEnd, Text.dropEndWhile, List.reverse_append, List.dropWhile_append, hink]
  simp

/-! ## Marks on one line -/

/-- The marks of a line stand where it is read or behind that, and so does an open block scalar. -/
theorem marksFrom_column (fuel column : Nat) (text : List Char) :
    (∀ m ∈ (marksFrom fuel column text).1, column ≤ m.2) ∧
      ∀ owner, (marksFrom fuel column text).2 = some owner → column ≤ owner := by
  induction fuel generalizing column text with
  | zero => simp [marksFrom]
  | succ fuel ih =>
    unfold marksFrom
    split
    · simp
    · rename_i rest
      simp only
      have hinner := ih (column + 2 + (rest.length - (rest.dropWhile (· = ' ')).length)) (rest.dropWhile (· = ' '))
      constructor
      · intro m hm
        rcases List.mem_cons.mp hm with rfl | hm
        · exact Nat.le_refl _
        · have := hinner.1 m hm
          omega
      · intro owner howner
        have := hinner.2 owner howner
        omega
    · split
      · constructor
        · simp
        · intro owner howner
          split at howner <;> simp at howner
          omega
      · simp

theorem marksFrom_dash {gap : Nat} (hgap : 0 < gap) (fuel column : Nat) {text : List Char}
    (h : ∀ c rest, text = c :: rest → c ≠ ' ') :
    marksFrom (fuel + 1) column ('-' :: (List.replicate gap ' ' ++ text)) =
      ((.item, column) :: (marksFrom fuel (column + 1 + gap) text).1,
        (marksFrom fuel (column + 1 + gap) text).2) := by
  obtain ⟨gap, rfl⟩ : ∃ n, gap = n + 1 := ⟨gap - 1, by omega⟩
  have hdrop : (List.replicate gap ' ' ++ text).dropWhile (· = ' ') = text := by
    rw [List.dropWhile_append_of_pos (by simp)]
    cases text with
    | nil => rfl
    | cons c rest => simp [h c rest rfl]
  have hcolumn : column + 2 + ((List.replicate gap ' ' ++ text).length - text.length) =
      column + 1 + (gap + 1) := by
    rw [List.length_append, List.length_replicate]
    omega
  rw [List.replicate_succ, List.cons_append, marksFrom]
  simp only [hdrop, hcolumn]

theorem marksFrom_key {k : Key} (hk : k.Written) {rest : List Char} (hrest : IsBehind rest)
    (fuel column : Nat) :
    marksFrom (fuel + 1) column (k.text ++ ':' :: rest) =
      ([(.key k.name, column)], if opensBlock rest then some column else none) := by
  have hdash (more : List Char) : k.text ++ ':' :: rest ≠ '-' :: more := by
    intro heq
    unfold Key.text at heq
    cases hstyle : k.style with
    | plain =>
      rw [hstyle] at heq
      obtain ⟨c, tail, hname, hc⟩ := (hk.plain hstyle).start
      simp only [hname, List.cons_append] at heq
      exact hc (by simp [(List.cons.inj heq).1])
    | single => simp [hstyle] at heq
    | double => simp [hstyle] at heq
  unfold marksFrom
  split
  · rename_i heq
    exact absurd heq (hdash [])
  · rename_i heq
    exact absurd heq (hdash _)
  · rw [splitKey_text hk hrest]

/-- What stands behind a dash may look like marks, but these are further in. -/
theorem marksFrom_dash_behind {rest : List Char} (hrest : IsBehind rest) (fuel column : Nat) :
    ∃ inside block, marksFrom (fuel + 1) column ('-' :: rest) = ((.item, column) :: inside, block) ∧
      (∀ m ∈ inside, column < m.2) ∧ ∀ owner, block = some owner → column < owner := by
  rcases hrest with rfl | ⟨more, rfl⟩
  · exact ⟨[], none, rfl, by simp, by simp⟩
  · have hinner := marksFrom_column fuel (column + 2 + (more.length - (more.dropWhile (· = ' ')).length))
      (more.dropWhile (· = ' '))
    refine ⟨_, _, by rw [marksFrom], ?_, ?_⟩
    · intro m hm
      have := hinner.1 m hm
      omega
    · intro owner howner
      have := hinner.2 owner howner
      omega

/-! ## Tokens -/

/-- A mark in the text, where it stands and where its line ends. -/
abbrev Token := Outline.Entry

def Entry.token (line column : Nat) (e : Entry) : Token :=
  ⟨e.mark, line, column, column + (Text.trimEnd e.opening).length⟩

def tokensOf (line lineEnd : Nat) (marks : List (Mark × Nat)) : List Token :=
  marks.map fun (mark, column) => ⟨mark, line, column, lineEnd⟩

/-- Where the line of an entry ends. -/
def Entry.lineEnd (column : Nat) (e : Entry) : Nat := column + (Text.trimEnd e.opening).length

theorem tokensOf_cons (line column : Nat) (e : Entry) (marks : List (Mark × Nat)) :
    tokensOf line (e.lineEnd column) ((e.mark, column) :: marks) =
      e.token line column :: tokensOf line (e.lineEnd column) marks := rfl

mutual

/-- The tokens of an entry: its own and those of its entries. Whatever was taken for marks in a scalar is
further in. -/
inductive Marked : Nat → Nat → Entry → List Token → Prop
  | scalar {line column : Nat} {label : Label} {rest : List Char} {more : List (List Char)}
      {inside : List Token} (further : ∀ t ∈ inside, column < t.column) :
      Marked line column (.scalar label rest more)
        ((Entry.scalar label rest more).token line column :: inside)
  | keyed {line column inner : Nat} {key : Key} {rest : List Char} {first : Entry} {others : List Entry}
      {groups : List (List Token)} (inside : MarkedAll (line + 1) inner (first :: others) groups) :
      Marked line column (.keyed key rest inner first others)
        ((Entry.keyed key rest inner first others).token line column :: groups.flatten)
  | dashed {line column gap : Nat} {first : Entry} {others : List Entry} {groups : List (List Token)}
      (inside : MarkedAll line (column + 1 + gap) (first :: others) groups) :
      Marked line column (.dashed gap first others)
        ((Entry.dashed gap first others).token line column :: groups.flatten)

/-- The tokens of entries at a column, those of each by themselves. -/
inductive MarkedAll : Nat → Nat → List Entry → List (List Token) → Prop
  | nil {line column : Nat} : MarkedAll line column [] []
  | cons {line column : Nat} {e : Entry} {entries : List Entry} {group : List Token}
      {groups : List (List Token)} (first : Marked line column e group)
      (rest : MarkedAll (line + e.height column) column entries groups) :
      MarkedAll line column (e :: entries) (group :: groups)

end

/-! ## Reading lines -/

/-- An open block scalar that does not reach to entries at a column. -/
def Harmless (column : Nat) (block : Option Nat) : Prop := ∀ owner, block = some owner → column ≤ owner

theorem harmless_none (column : Nat) : Harmless column none := by simp [Harmless]

theorem Harmless.mono {column inner : Nat} {block : Option Nat} (h : Harmless inner block)
    (hle : column ≤ inner) : Harmless column block := by
  intro owner howner
  exact Nat.le_trans hle (h owner howner)

theorem readLines_cons (block : Option Nat) (line : Nat) (text : List Char) (rest : List (List Char)) :
    readLines block line (text :: rest) =
      (readLine block line text).1 ++ readLines (readLine block line text).2 (line + 1) rest := rfl

theorem length_opening_indented (column : Nat) (e : Entry) :
    (indented column e.opening).length = column + e.opening.length := by
  simp [indented]

/-- The line of an entry is read as the marks on it. -/
theorem readLine_opening {column : Nat} {e : Entry} (h : Laid column e) {block : Option Nat}
    (hblock : Harmless column block) (line : Nat) :
    readLine block line (indented column e.opening) =
      (tokensOf line (e.lineEnd column) (marksFrom (e.opening.length + 1) column e.opening).1,
        (marksFrom (e.opening.length + 1) column e.opening).2) := by
  obtain ⟨c, rest, hopening, hc⟩ := h.head_ne_space
  have hink := exists_ink_of_not_skipped h.not_skipped
  have hcontent : (indented column e.opening).dropWhile (· = ' ') = e.opening := by
    rw [indented, List.dropWhile_append_of_pos (by simp), hopening]
    simp [hc]
  have hindent : (indented column e.opening).length - e.opening.length = column := by
    rw [length_opening_indented]
    omega
  have hend : (Text.trimEnd (indented column e.opening)).length = e.lineEnd column := by
    rw [indented, trimEnd_append hink]
    simp [Entry.lineEnd]
  have hall : e.opening.all Text.isSpace = false := by
    obtain ⟨d, hd, hspace⟩ := hink
    rw [List.all_eq_false]
    exact ⟨d, hd, by simp [hspace]⟩
  have hinside (owner : Nat) (howner : block = some owner) : ¬ owner < column := by
    have := hblock owner howner
    omega
  unfold readLine
  simp only [hcontent, hindent, hend, h.not_skipped, hall]
  cases block with
  | none => simp [tokensOf]
  | some owner => simp [hinside owner rfl, tokensOf]

theorem readLine_continues {column : Nat} {text : List Char} (h : Continues column text)
    {block : Option Nat} (hblock : Harmless column block) (line : Nat) :
    (∀ t ∈ (readLine block line text).1, column < t.column) ∧
      Harmless column (readLine block line text).2 := by
  rcases readLine_cases block line text with hread | hread | ⟨hskip, fuel, hread⟩
  · rw [hread]
    exact ⟨by simp, hblock⟩
  · rw [hread]
    exact ⟨by simp, harmless_none column⟩
  · rcases h with hskipped | hfurther
    · simp [hskip] at hskipped
    · have hmarks := marksFrom_column fuel (text.length - (text.dropWhile (· = ' ')).length)
        (text.dropWhile (· = ' '))
      rw [hread]
      constructor
      · intro t ht
        obtain ⟨m, hm, rfl⟩ := List.mem_map.mp ht
        have := hmarks.1 m hm
        show column < m.2
        omega
      · intro owner howner
        have := hmarks.2 owner howner
        omega

/-- The lines on which a scalar goes on hold nothing that is not further in. -/
theorem readLines_more {column : Nat} {more : List (List Char)} (h : ∀ text ∈ more, Continues column text)
    {block : Option Nat} (hblock : Harmless column block) (line : Nat) (lines : List (List Char)) :
    ∃ inside block', readLines block line (more ++ lines) =
        inside ++ readLines block' (line + more.length) lines ∧
      (∀ t ∈ inside, column < t.column) ∧ Harmless column block' := by
  induction more generalizing block line with
  | nil => exact ⟨[], block, rfl, by simp, hblock⟩
  | cons text more ih =>
    have hstep := readLine_continues (h text List.mem_cons_self) hblock line
    obtain ⟨inside, block', hread, hfurther, hharmless⟩ :=
      ih (fun t ht => h t (List.mem_cons_of_mem _ ht)) hstep.2 (line + 1)
    refine ⟨(readLine block line text).1 ++ inside, block', ?_, ?_, hharmless⟩
    · rw [List.cons_append, readLines_cons, hread, List.append_assoc, List.length_cons]
      congr 3
      omega
    · intro t ht
      rcases List.mem_append.mp ht with ht | ht
      · exact hstep.1 t ht
      · exact hfurther t ht

/-- What is said of one entry: behind its line, with the block scalar that may be open there, its lines are
read as its tokens, and no block scalar is left open that reaches to the next entry. -/
def IsRead (column : Nat) (e : Entry) : Prop :=
  ∀ (fuel line : Nat) (lines : List (List Char)), e.opening.length < fuel →
    ∃ group block, tokensOf line (e.lineEnd column) (marksFrom fuel column e.opening).1 ++
        readLines (marksFrom fuel column e.opening).2 (line + 1) (e.under column ++ lines) =
      group ++ readLines block (line + e.height column) lines ∧
    Marked line column e group ∧ Harmless column block

/-- If each entry is read, they are read one after the other. -/
theorem readLines_linesOf {column : Nat} {entries : List Entry}
    (h : ∀ e ∈ entries, Laid column e ∧ IsRead column e) {block : Option Nat} (hblock : Harmless column block)
    (line : Nat) (lines : List (List Char)) :
    ∃ groups block', readLines block line (linesOf column entries ++ lines) =
        groups.flatten ++ readLines block' (line + (linesOf column entries).length) lines ∧
      MarkedAll line column entries groups ∧ Harmless column block' := by
  induction entries generalizing block line with
  | nil => exact ⟨[], block, rfl, .nil, hblock⟩
  | cons e entries ih =>
    obtain ⟨hlaid, hread⟩ := h e List.mem_cons_self
    obtain ⟨group, block₁, hgroup, hmarked, hblock₁⟩ := hread (e.opening.length + 1) line
      (linesOf column entries ++ lines) (Nat.lt_succ_self _)
    obtain ⟨groups, block₂, hgroups, hall, hblock₂⟩ :=
      ih (fun e' he' => h e' (List.mem_cons_of_mem _ he')) hblock₁ (line + e.height column)
    refine ⟨group :: groups, block₂, ?_, .cons hmarked hall, hblock₂⟩
    rw [linesOf, List.cons_append, List.append_assoc, readLines_cons, readLine_opening hlaid hblock, hgroup,
      hgroups, List.flatten_cons, List.append_assoc, ← linesOf, length_linesOf_cons, Nat.add_assoc]

theorem isRead_scalar {column : Nat} {label : Label} {rest : List Char} {more : List (List Char)}
    (written : label.Written) (behind : IsBehind rest) (continues : ∀ text ∈ more, Continues column text) :
    IsRead column (.scalar label rest more) := by
  intro fuel line lines hfuel
  obtain ⟨fuel, rfl⟩ : ∃ n, fuel = n + 1 := ⟨fuel - 1, by omega⟩
  -- The first mark is that of the entry, and all others on its line are further in.
  have hmarks : ∃ inside block, marksFrom (fuel + 1) column (Entry.scalar label rest more).opening =
      ((label.mark, column) :: inside, block) ∧ (∀ m ∈ inside, column < m.2) ∧ Harmless column block := by
    rw [Entry.opening, label_text_append]
    cases label with
    | key k =>
      refine ⟨[], _, marksFrom_key written behind fuel column, by simp, ?_⟩
      intro owner howner
      split at howner <;> simp at howner
      omega
    | dash =>
      obtain ⟨inside, block, hread, hinside, hblock⟩ := marksFrom_dash_behind behind fuel column
      exact ⟨inside, block, hread, hinside, fun owner howner => Nat.le_of_lt (hblock owner howner)⟩
  obtain ⟨inside, block, hread, hinside, hblock⟩ := hmarks
  obtain ⟨later, block', hlater, hfurther, hblock'⟩ := readLines_more continues hblock (line + 1) lines
  have hall : ∀ t ∈ tokensOf line ((Entry.scalar label rest more).lineEnd column) inside ++ later,
      column < t.column := by
    intro t ht
    rcases List.mem_append.mp ht with ht | ht
    · obtain ⟨m, hm, rfl⟩ := List.mem_map.mp ht
      exact hinside m hm
    · exact hfurther t ht
  refine ⟨_, block', ?_, .scalar hall, hblock'⟩
  have hmark : label.mark = (Entry.scalar label rest more).mark := rfl
  rw [hread, hmark, tokensOf_cons, Entry.under, hlater, Entry.height, Entry.under, List.cons_append,
    List.cons_append, List.append_assoc, Nat.add_assoc line 1, Nat.add_comm 1]

theorem isRead_keyed {column inner : Nat} {key : Key} {rest : List Char} {first : Entry} {others : List Entry}
    (written : key.Written) (behind : IsBehind rest) (noBlock : opensBlock rest = false)
    (hle : column ≤ inner) (inside : ∀ e ∈ first :: others, Laid inner e ∧ IsRead inner e) :
    IsRead column (.keyed key rest inner first others) := by
  intro fuel line lines hfuel
  obtain ⟨fuel, rfl⟩ : ∃ n, fuel = n + 1 := ⟨fuel - 1, by omega⟩
  obtain ⟨groups, block, hread, hall, hblock⟩ :=
    readLines_linesOf inside (harmless_none inner) (line + 1) lines
  refine ⟨_, block, ?_, .keyed hall, hblock.mono hle⟩
  have hmarks : marksFrom (fuel + 1) column (Entry.keyed key rest inner first others).opening =
      ([((Entry.keyed key rest inner first others).mark, column)], none) := by
    rw [Entry.opening, marksFrom_key written behind, noBlock]
    rfl
  rw [hmarks, tokensOf_cons, Entry.height, under_keyed, hread, Nat.add_assoc line 1, Nat.add_comm 1]
  rfl

/-- The line of a dash ends where the line of the first entry does, as it is the same one. -/
theorem lineEnd_dashed {column gap : Nat} {first : Entry} (others : List Entry)
    (h : Laid (column + 1 + gap) first) :
    (Entry.dashed gap first others).lineEnd column = first.lineEnd (column + 1 + gap) := by
  have hink := exists_ink_of_not_skipped h.not_skipped
  rw [Entry.lineEnd, Entry.lineEnd, Entry.opening, ← List.cons_append, trimEnd_append hink]
  simp
  omega

theorem isRead_dashed {column gap : Nat} {first : Entry} {others : List Entry} (space : 0 < gap)
    (inside : ∀ e ∈ first :: others, Laid (column + 1 + gap) e ∧ IsRead (column + 1 + gap) e) :
    IsRead column (.dashed gap first others) := by
  intro fuel line lines hfuel
  obtain ⟨fuel, rfl⟩ : ∃ n, fuel = n + 1 := ⟨fuel - 1, by omega⟩
  obtain ⟨hlaid, hfirst⟩ := inside first List.mem_cons_self
  have hspace : ∀ c rest, first.opening = c :: rest → c ≠ ' ' := by
    obtain ⟨c, rest, hopening, hc⟩ := hlaid.head_ne_space
    intro c' rest' hopening'
    rw [hopening] at hopening'
    exact (List.cons.inj hopening').1 ▸ hc
  have hlength : first.opening.length < fuel := by
    simp only [Entry.opening, List.length_cons, List.length_append] at hfuel
    omega
  -- The first entry is read from the line of the dash, and the others from the lines below.
  obtain ⟨group, block₁, hgroup, hmarked, hblock₁⟩ :=
    hfirst fuel line (linesOf (column + 1 + gap) others ++ lines) hlength
  obtain ⟨groups, block₂, hgroups, hall, hblock₂⟩ := readLines_linesOf
    (fun e he => inside e (List.mem_cons_of_mem _ he)) hblock₁ (line + first.height (column + 1 + gap)) lines
  refine ⟨_, block₂, ?_, .dashed (.cons hmarked hall), hblock₂.mono (by omega)⟩
  have hmarks : marksFrom (fuel + 1) column (Entry.dashed gap first others).opening =
      (((Entry.dashed gap first others).mark, column) ::
        (marksFrom fuel (column + 1 + gap) first.opening).1,
        (marksFrom fuel (column + 1 + gap) first.opening).2) := by
    rw [Entry.opening, marksFrom_dash space fuel column hspace]
    rfl
  have hheight : line + (Entry.dashed gap first others).height column =
      line + first.height (column + 1 + gap) + (linesOf (column + 1 + gap) others).length := by
    rw [Entry.height, Entry.height, Entry.under, List.length_append]
    omega
  rw [hmarks, tokensOf_cons, lineEnd_dashed others hlaid, Entry.under, List.append_assoc, List.cons_append,
    hgroup, hgroups, hheight, List.flatten_cons, List.cons_append, List.append_assoc]

theorem isRead_of_laid {column : Nat} {e : Entry} (h : Laid column e) : IsRead column e := by
  induction h with
  | scalar written behind _ continues =>
    exact isRead_scalar written behind fun text ht => (continues text ht).2
  | keyed written behind _ noBlock _ further entries ih =>
    have hle := further.elim Nat.le_of_lt fun hsame => Nat.le_of_eq hsame.1
    exact isRead_keyed written behind noBlock hle fun e he => ⟨entries e he, ih e he⟩
  | dashed space _ entries ih =>
    exact isRead_dashed space fun e he => ⟨entries e he, ih e he⟩

/-- The outline of a document whose lines are those of well laid entries. -/
theorem exists_marked {d : Document} {column : Nat} {entries : List Entry}
    (hlines : d.lines = linesOf column entries) (hlaid : ∀ e ∈ entries, Laid column e) :
    ∃ groups, (Outline.ofDocument d).entries = groups.flatten.toArray ∧ MarkedAll 0 column entries groups := by
  obtain ⟨groups, block, hread, hall, _⟩ := readLines_linesOf
    (fun e he => ⟨hlaid e he, isRead_of_laid (hlaid e he)⟩) (harmless_none column) 0 []
  refine ⟨groups, ?_, hall⟩
  rw [List.append_nil, readLines, List.append_nil, ← hlines] at hread
  rw [Outline.ofDocument, hread]

end CatalogGate.Block
