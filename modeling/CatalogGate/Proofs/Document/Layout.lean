-- Text in block style: how the entries of mappings and sequences are laid out in lines and columns, and where
-- each of them stands.
import CatalogGate.Proofs.Document.Keys
import CatalogGate.Proofs.Document.Places

namespace CatalogGate.Block

open Document

/-! ## Entries -/

/-- What an entry starts with. -/
inductive Label where
  | key (key : Key)
  | dash

namespace Label

def text : Label → List Char
  | key k => k.text ++ [':']
  | dash => ['-']

def mark : Label → Mark
  | key k => .key k.name
  | dash => .item

def Written : Label → Prop
  | key k => k.Written
  | dash => True

end Label

/-- An entry of a mapping, which has a key, or of a sequence, which has a dash. In it is a scalar, or a
mapping or sequence, which is never empty. -/
inductive Entry where
  /-- A scalar starts behind the mark, and may go on over more lines. -/
  | scalar (label : Label) (rest : List Char) (more : List (List Char))
  /-- Entries at a column on the lines below a key. -/
  | keyed (key : Key) (rest : List Char) (inner : Nat) (first : Entry) (others : List Entry)
  /-- Entries of which the first is on the line of a dash, behind some spaces. -/
  | dashed (gap : Nat) (first : Entry) (others : List Entry)

namespace Entry

def label : Entry → Label
  | scalar label _ _ => label
  | keyed key _ _ _ _ => .key key
  | dashed _ _ _ => .dash

def mark (e : Entry) : Mark := e.label.mark

/-- The step of a path to an entry among others. -/
def step (e : Entry) (position : Nat) : Json.Step :=
  match e.mark with
  | .key name => .key (String.ofList name)
  | .item => .index position

/-! ## Text -/

/-- The text of an entry from its mark to the end of the line. -/
def opening : Entry → List Char
  | scalar label rest _ => label.text ++ rest
  | keyed key rest _ _ _ => key.text ++ ':' :: rest
  | dashed gap first _ => '-' :: (List.replicate gap ' ' ++ first.opening)

end Entry

def indented (column : Nat) (text : List Char) : List Char := List.replicate column ' ' ++ text

mutual

/-- The lines of an entry at a column below the one of its mark. -/
def Entry.under (column : Nat) : Entry → List (List Char)
  | .scalar _ _ more => more
  | .keyed _ _ inner first others =>
    indented inner first.opening :: (first.under inner ++ linesOf inner others)
  | .dashed gap first others => first.under (column + 1 + gap) ++ linesOf (column + 1 + gap) others

/-- The lines of entries at a column. -/
def linesOf (column : Nat) : List Entry → List (List Char)
  | [] => []
  | e :: rest => indented column e.opening :: (e.under column ++ linesOf column rest)

end

/-- How many lines an entry at a column takes. -/
def Entry.height (column : Nat) (e : Entry) : Nat := (e.under column).length + 1

theorem under_keyed (column : Nat) (key : Key) (rest : List Char) (inner : Nat) (first : Entry)
    (others : List Entry) :
    (Entry.keyed key rest inner first others).under column = linesOf inner (first :: others) := by
  rw [Entry.under, linesOf]

theorem length_linesOf_cons (column : Nat) (e : Entry) (entries : List Entry) :
    (linesOf column (e :: entries)).length = e.height column + (linesOf column entries).length := by
  rw [linesOf, List.length_cons, List.length_append, Entry.height]
  omega

/-- Lines with breaks between them. A break may have carriage returns. -/
def textOf (returns : Nat) : List (List Char) → List Char
  | [] => []
  | [line] => line
  | line :: rest => line ++ (List.replicate returns '\r' ++ '\n' :: textOf returns rest)

/-! ## Well laid entries -/

/-- Text without line breaks, and without a carriage return that would belong to one. -/
structure OneLine (text : List Char) : Prop where
  noFeed : '\n' ∉ text
  noReturn : text.getLast? ≠ some '\r'

/-- Whether a line belongs to the scalar of an entry at a column: it is further in, or there is nothing on it
that could be an entry. -/
def Continues (column : Nat) (line : List Char) : Prop :=
  isSkipped (line.dropWhile (· = ' ')) = true ∨
    column < line.length - (line.dropWhile (· = ' ')).length

/-- The entries of one sequence, or those of one mapping, in which no key stands twice. -/
def Orderly (entries : List Entry) : Prop :=
  (∀ e ∈ entries, e.mark = .item) ∨ ((∀ e ∈ entries, e.mark ≠ .item) ∧ (entries.map Entry.mark).Nodup)

/-- What an entry at a column has to be like. Entries below a key are further in, or they are a sequence at
the column of the key. -/
inductive Laid : Nat → Entry → Prop
  | scalar {column : Nat} {label : Label} {rest : List Char} {more : List (List Char)}
      (written : label.Written) (behind : IsBehind rest) (oneLine : OneLine rest)
      (continues : ∀ line ∈ more, OneLine line ∧ Continues column line) :
      Laid column (.scalar label rest more)
  | keyed {column inner : Nat} {key : Key} {rest : List Char} {first : Entry} {others : List Entry}
      (written : key.Written) (behind : IsBehind rest) (oneLine : OneLine rest)
      (noBlock : opensBlock rest = false) (orderly : Orderly (first :: others))
      (further : column < inner ∨ column = inner ∧ first.mark = .item)
      (entries : ∀ e ∈ first :: others, Laid inner e) : Laid column (.keyed key rest inner first others)
  | dashed {column gap : Nat} {first : Entry} {others : List Entry} (space : 0 < gap)
      (orderly : Orderly (first :: others))
      (entries : ∀ e ∈ first :: others, Laid (column + 1 + gap) e) :
      Laid column (.dashed gap first others)

/-! ## Places -/

/-- From the mark of an entry to the end of its line, without the blanks there. -/
def Entry.range (e : Entry) (line column : Nat) : Range :=
  ⟨⟨line, column⟩, ⟨line, column + (Text.trimEnd e.opening).length⟩⟩

/-- The line on which an entry starts, where the first of them is on a certain line. -/
def lineOf (line column : Nat) (entries : List Entry) (position : Nat) : Nat :=
  line + (linesOf column (entries.take position)).length

/-- A path leads to an entry that stands at a range. The entries are at a column, the first of them on a
certain line. -/
inductive Stands : Nat → Nat → List Entry → Json.Path → Range → Prop
  | here {line column position : Nat} {entries : List Entry} {e : Entry}
      (entry : entries[position]? = some e) :
      Stands line column entries [e.step position] (e.range (lineOf line column entries position) column)
  | under {line column inner position : Nat} {entries others : List Entry} {key : Key} {rest : List Char}
      {first : Entry} {path : Json.Path} {range : Range}
      (entry : entries[position]? = some (.keyed key rest inner first others))
      (inside : Stands (lineOf line column entries position + 1) inner (first :: others) path range) :
      Stands line column entries (.key (String.ofList key.name) :: path) range
  | beside {line column gap position : Nat} {entries others : List Entry} {first : Entry} {path : Json.Path}
      {range : Range} (entry : entries[position]? = some (.dashed gap first others))
      (inside : Stands (lineOf line column entries position) (column + 1 + gap) (first :: others) path range) :
      Stands line column entries (.index position :: path) range

/-! ## Documents -/

theorem pieces_of_noFeed {l : List Char} (h : '\n' ∉ l) : pieces l = [l] := by
  induction l with
  | nil => rfl
  | cons c l ih =>
    simp only [List.mem_cons, not_or] at h
    exact pieces_cons_of_ne (Ne.symm h.1) (ih h.2)

theorem pieces_append_feed {l : List Char} (h : '\n' ∉ l) (rest : List Char) :
    pieces (l ++ '\n' :: rest) = l :: pieces rest := by
  induction l with
  | nil => rfl
  | cons c l ih =>
    simp only [List.mem_cons, not_or] at h
    exact pieces_cons_of_ne (Ne.symm h.1) (ih h.2)

theorem trimLine_append_returns {l : List Char} (h : OneLine l) (n : Nat) :
    trimLine (l ++ List.replicate n '\r') = l := by
  have hstop : l.reverse.dropWhile (· = '\r') = l.reverse := by
    have hhead := h.noReturn
    rw [List.getLast?_eq_head?_reverse] at hhead
    cases hreverse : l.reverse with
    | nil => rfl
    | cons c rest =>
      rw [hreverse] at hhead
      have hc : c ≠ '\r' := by simpa using hhead
      simp [hc]
  rw [trimLine, Text.dropEndWhile, List.reverse_append, List.reverse_replicate,
    List.dropWhile_append_of_pos (by simp), hstop, List.reverse_reverse]

theorem trimLine_of_oneLine {l : List Char} (h : OneLine l) : trimLine l = l := by
  simpa using trimLine_append_returns h 0

/-- A text made of lines has these lines. -/
theorem lines_textOf (name : String) (returns : Nat) {lines : List (List Char)} (hne : lines ≠ [])
    (h : ∀ line ∈ lines, OneLine line) : (Document.mk name (textOf returns lines)).lines = lines := by
  rw [lines_eq]
  show (pieces (textOf returns lines)).map trimLine = lines
  induction lines with
  | nil => exact absurd rfl hne
  | cons line lines ih =>
    have hline := h line List.mem_cons_self
    cases lines with
    | nil => rw [textOf, pieces_of_noFeed hline.noFeed, List.map_singleton, trimLine_of_oneLine hline]
    | cons next lines =>
      have hfeed : '\n' ∉ line ++ List.replicate returns '\r' := by simp [hline.noFeed]
      rw [textOf, ← List.append_assoc, pieces_append_feed hfeed, List.map_cons, trimLine_append_returns hline,
        ih (by simp) fun l hl => h l (List.mem_cons_of_mem _ hl)]
      simp

theorem OneLine.cons {text : List Char} (h : OneLine text) {c : Char} (hfeed : c ≠ '\n') (hreturn : c ≠ '\r') :
    OneLine (c :: text) := by
  refine ⟨by simp [hfeed.symm, h.noFeed], ?_⟩
  rw [List.getLast?_cons]
  cases hlast : text.getLast? with
  | none => simpa using hreturn
  | some d =>
    have := h.noReturn
    simpa [hlast] using this

theorem OneLine.append {text : List Char} (h : OneLine text) (hne : text ≠ []) {front : List Char}
    (hfront : '\n' ∉ front) : OneLine (front ++ text) := by
  refine ⟨by simp [hfront, h.noFeed], ?_⟩
  rw [List.getLast?_append]
  cases hlast : text.getLast? with
  | none => exact absurd (List.getLast?_eq_none_iff.mp hlast) hne
  | some d =>
    have := h.noReturn
    simpa [hlast] using this

theorem noFeed_text {k : Key} (h : k.Written) : '\n' ∉ k.text := by
  have hname (escape : Char → List Char) (hescape : ∀ c, '\n' ∈ escape c → c = '\n') :
      '\n' ∉ k.name.flatMap escape := by
    intro hmem
    obtain ⟨c, hc, hin⟩ := List.mem_flatMap.mp hmem
    exact h.oneLine (hescape c hin ▸ hc)
  unfold Key.text
  cases k.style with
  | plain => exact h.oneLine
  | single =>
    have hsingle := hname escapeSingle fun c hc => by
      unfold escapeSingle at hc
      split at hc <;> simp at hc
      exact hc.symm
    simp [hsingle]
  | double =>
    have hdouble := hname escapeDouble fun c hc => by
      unfold escapeDouble at hc
      split at hc
      · simp at hc
      · split at hc <;> simp at hc
        exact hc.symm
    simp [hdouble]

theorem oneLine_key {k : Key} (h : k.Written) {rest : List Char} (hrest : OneLine rest) :
    OneLine (k.text ++ ':' :: rest) :=
  (hrest.cons (by decide) (by decide)).append (by simp) (noFeed_text h)

/-- All lines of an entry are lines. -/
structure Entry.IsOnLines (column : Nat) (e : Entry) : Prop where
  opens : e.opening ≠ []
  opening : OneLine e.opening
  under : ∀ line ∈ e.under column, OneLine line

theorem oneLine_linesOf {column : Nat} {entries : List Entry} (h : ∀ e ∈ entries, e.IsOnLines column) :
    ∀ line ∈ linesOf column entries, OneLine line := by
  induction entries with
  | nil => simp [linesOf]
  | cons e entries ih =>
    have he := h e List.mem_cons_self
    intro line hline
    rw [linesOf] at hline
    rcases List.mem_cons.mp hline with rfl | hline
    · exact he.opening.append he.opens (by simp)
    · rcases List.mem_append.mp hline with hline | hline
      · exact he.under line hline
      · exact ih (fun e' he' => h e' (List.mem_cons_of_mem _ he')) line hline

theorem isOnLines_of_laid {column : Nat} {e : Entry} (h : Laid column e) : e.IsOnLines column := by
  induction h with
  | @scalar column label rest more written _ oneLine continues =>
    refine ⟨?_, ?_, fun line hline => (continues line hline).1⟩
    · cases label <;> simp [Entry.opening, Label.text]
    · cases label with
      | key k =>
        rw [Entry.opening, Label.text, List.append_assoc]
        exact oneLine_key written oneLine
      | dash => exact oneLine.cons (by decide) (by decide)
  | @keyed column inner key rest first others written _ oneLine _ _ _ _ ih =>
    refine ⟨by simp [Entry.opening], oneLine_key written oneLine, ?_⟩
    rw [under_keyed]
    exact oneLine_linesOf ih
  | @dashed column gap first others space _ _ ih =>
    have hfirst := ih first List.mem_cons_self
    refine ⟨by simp [Entry.opening], ?_, ?_⟩
    · exact (hfirst.opening.append hfirst.opens (by simp)).cons (by decide) (by decide)
    · intro line hline
      rw [Entry.under] at hline
      rcases List.mem_append.mp hline with hline | hline
      · exact hfirst.under line hline
      · exact oneLine_linesOf (fun e he => ih e (List.mem_cons_of_mem _ he)) line hline

end CatalogGate.Block
