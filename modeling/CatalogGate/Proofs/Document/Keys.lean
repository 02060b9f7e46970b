-- The keys of block-style text as they are written, plain or in quotes. Where a colon follows one, the
-- reader of lines finds exactly that key.
import CatalogGate.Document.Line

namespace CatalogGate.Block

open Document

/-! ## Writing -/

inductive Style where
  | plain
  | single
  | double
deriving DecidableEq

structure Key where
  name : List Char
  style : Style

/-- Single quotes are doubled between single quotes. -/
def escapeSingle (c : Char) : List Char := if c = '\'' then ['\'', '\''] else [c]

/-- Between double quotes a backslash protects double quotes and backslashes. -/
def escapeDouble (c : Char) : List Char :=
  if c = '"' then ['\\', '"'] else if c = '\\' then ['\\', '\\'] else [c]

def Key.text (k : Key) : List Char :=
  match k.style with
  | .plain => k.name
  | .single => '\'' :: (k.name.flatMap escapeSingle ++ ['\''])
  | .double => '"' :: (k.name.flatMap escapeDouble ++ ['"'])

/-- What can be written without quotes. -/
structure IsPlain (name : List Char) : Prop where
  /-- It starts with no blank and none of the characters that have a meaning there. -/
  start : ∃ c rest, name = c :: rest ∧ c ∉ [' ', '"', '\'', '[', '{', '#', '%', '-']
  /-- It ends with no blank. -/
  stop : ∃ rest c, name = rest ++ [c] ∧ Text.isSpace c = false
  noQuestion : ¬ ['?', ' '] <+: name
  noDots : ¬ ['.', '.', '.'] <+: name
  noColon : ¬ [':', ' '] <:+: name
  noComment : ¬ [' ', '#'] <:+: name

/-- A key on one line, without quotes only if it can be. -/
structure Key.Written (k : Key) : Prop where
  oneLine : '\n' ∉ k.name
  plain : k.style = .plain → IsPlain k.name

/-- What may stand behind a mark: nothing, or text behind a space. -/
def IsBehind (rest : List Char) : Prop := rest = [] ∨ ∃ more, rest = ' ' :: more

/-! ## Quoted keys -/

theorem splitAtClosing_cons {quote c : Char} {l : List Char} (read : List Char) (hl : l ≠ [])
    (hquote : c ≠ quote) (hescape : ¬ (quote = '"' ∧ c = '\\')) :
    splitAtClosing quote read (c :: l) = splitAtClosing quote (c :: read) l := by
  cases l with
  | nil => exact absurd rfl hl
  | cons d l => rw [splitAtClosing, if_neg hescape, if_neg hquote]

/-- The scan stops at the quote behind a text if it passes over what each character is written as. -/
theorem splitAtClosing_flatMap {quote : Char} {escape : Char → List Char}
    (hpass : ∀ c read l, l ≠ [] →
      splitAtClosing quote read (escape c ++ l) = splitAtClosing quote ((escape c).reverse ++ read) l)
    (name read rest : List Char) :
    splitAtClosing quote read (name.flatMap escape ++ quote :: ':' :: rest) =
      some (read.reverse ++ name.flatMap escape, ':' :: rest) := by
  induction name generalizing read with
  | nil =>
    have hopen : ¬ (quote = '"' ∧ quote = '\\') := by
      rintro ⟨rfl, hslash⟩
      exact absurd hslash (by decide)
    simp [splitAtClosing, hopen]
  | cons c name ih =>
    rw [List.flatMap_cons, List.append_assoc, hpass c read _ (by simp), ih]
    simp

theorem splitAtClosing_escapeSingle (c : Char) (read l : List Char) (hl : l ≠ []) :
    splitAtClosing '\'' read (escapeSingle c ++ l) =
      splitAtClosing '\'' ((escapeSingle c).reverse ++ read) l := by
  by_cases hc : c = '\''
  · subst hc
    simp [escapeSingle, splitAtClosing]
  · have hescape : escapeSingle c = [c] := by simp [escapeSingle, hc]
    rw [hescape]
    exact splitAtClosing_cons read hl hc (by simp)

theorem splitAtClosing_escapeDouble (c : Char) (read l : List Char) (hl : l ≠ []) :
    splitAtClosing '"' read (escapeDouble c ++ l) =
      splitAtClosing '"' ((escapeDouble c).reverse ++ read) l := by
  by_cases hquote : c = '"'
  · subst hquote
    simp [escapeDouble, splitAtClosing]
  · by_cases hslash : c = '\\'
    · subst hslash
      simp [escapeDouble, splitAtClosing]
    · have hescape : escapeDouble c = [c] := by simp [escapeDouble, hquote, hslash]
      rw [hescape]
      exact splitAtClosing_cons read hl hquote (by simp [hslash])

theorem replacePair_cons {a b replacement c : Char} {l : List Char} (h : ¬ (c = a ∧ l.head? = some b)) :
    replacePair a b replacement (c :: l) = c :: replacePair a b replacement l := by
  cases l with
  | nil => rfl
  | cons d l =>
    rw [replacePair, if_neg]
    simpa using h

/-- Doubling a character is undone by putting one for two, as its runs have become even. -/
theorem replacePair_doubled (mark : Char) (name : List Char) :
    replacePair mark mark mark (name.flatMap fun c => if c = mark then [mark, mark] else [c]) = name := by
  induction name with
  | nil => rfl
  | cons c name ih =>
    by_cases hc : c = mark
    · subst hc
      simp [replacePair, ih]
    · rw [List.flatMap_cons, if_neg hc, List.singleton_append, replacePair_cons (by simp [hc]), ih]

/-- A backslash alone is doubled where double quotes are not protected any more. -/
def escapeSlash (c : Char) : List Char := if c = '\\' then ['\\', '\\'] else [c]

/-- A protected text never starts with a double quote. -/
theorem head?_escapeDouble_ne (name : List Char) : (name.flatMap escapeDouble).head? ≠ some '"' := by
  cases name with
  | nil => simp
  | cons c name =>
    by_cases hquote : c = '"'
    · simp [escapeDouble, hquote]
    · by_cases hslash : c = '\\' <;> simp [escapeDouble, hquote, hslash]

theorem replacePair_quote (name : List Char) :
    replacePair '\\' '"' '"' (name.flatMap escapeDouble) = name.flatMap escapeSlash := by
  induction name with
  | nil => rfl
  | cons c name ih =>
    have hhead := head?_escapeDouble_ne name
    by_cases hquote : c = '"'
    · subst hquote
      simp [escapeDouble, escapeSlash, replacePair, ih]
    · by_cases hslash : c = '\\'
      · subst hslash
        have hpair : escapeDouble '\\' = ['\\', '\\'] := by decide
        -- The second backslash protects nothing here: a quote behind it has a backslash of its own.
        rw [List.flatMap_cons, hpair, List.cons_append, List.singleton_append, replacePair_cons (by simp),
          replacePair_cons (by simp [hhead]), ih]
        rfl
      · have hescape : escapeDouble c = [c] := by simp [escapeDouble, hquote, hslash]
        have hkeep : escapeSlash c = [c] := by simp [escapeSlash, hslash]
        rw [List.flatMap_cons, hescape, List.singleton_append, replacePair_cons (by simp [hslash]), ih,
          List.flatMap_cons, hkeep, List.singleton_append]

theorem unquote_single (name : List Char) : unquote '\'' (name.flatMap escapeSingle) = name := by
  rw [unquote, if_pos rfl]
  exact replacePair_doubled '\'' name

theorem unquote_double (name : List Char) : unquote '"' (name.flatMap escapeDouble) = name := by
  rw [unquote, if_neg (by decide), replacePair_quote]
  exact replacePair_doubled '\\' name

theorem isBehind_iff {rest : List Char} : IsBehind rest ↔ rest.isEmpty ∨ rest.head? = some ' ' := by
  rw [IsBehind, List.isEmpty_iff, List.head?_eq_some_iff]

/-- The text between quotes is a key if nothing or text behind a blank follows the colon, and only then. -/
theorem splitQuotedKey_eq_some_iff {quote : Char} {body inner rest : List Char} {found : List Char × List Char}
    (hclosing : splitAtClosing quote [] body = some (inner, ':' :: rest)) :
    splitQuotedKey quote body = some found ↔ IsBehind rest ∧ found = (unquote quote inner, rest) := by
  have hcolon : Text.trimStart (':' :: rest) = ':' :: rest := rfl
  rw [splitQuotedKey, hclosing, isBehind_iff]
  simp only [hcolon]
  split
  case isTrue hbehind =>
    rw [Option.some_inj, eq_comm]
    exact ⟨fun hfound => ⟨hbehind, hfound⟩, And.right⟩
  case isFalse hbehind => exact ⟨nofun, fun h => absurd h.1 hbehind⟩

theorem splitKey_single_iff {name rest : List Char} {found : List Char × List Char} :
    splitKey ('\'' :: (name.flatMap escapeSingle ++ '\'' :: ':' :: rest)) = some found ↔
      IsBehind rest ∧ found = (name, rest) := by
  have hclosing := splitAtClosing_flatMap splitAtClosing_escapeSingle name [] rest
  simpa [splitKey, unquote_single] using splitQuotedKey_eq_some_iff hclosing

theorem splitKey_double_iff {name rest : List Char} {found : List Char × List Char} :
    splitKey ('"' :: (name.flatMap escapeDouble ++ '"' :: ':' :: rest)) = some found ↔
      IsBehind rest ∧ found = (name, rest) := by
  have hclosing := splitAtClosing_flatMap splitAtClosing_escapeDouble name [] rest
  simpa [splitKey, unquote_double] using splitQuotedKey_eq_some_iff hclosing

/-- A key in quotes of either kind is read back exactly, whatever characters it holds, if nothing or text
behind a blank follows its colon; if anything else follows, no key is read. -/
theorem splitKey_quoted (name value : List Char) (found : List Char × List Char) :
    (splitKey ('"' :: (name.flatMap escapeDouble ++ '"' :: ':' :: value)) = some found ↔
      IsBehind value ∧ found = (name, value)) ∧
    (splitKey ('\'' :: (name.flatMap escapeSingle ++ '\'' :: ':' :: value)) = some found ↔
      IsBehind value ∧ found = (name, value)) :=
  ⟨splitKey_double_iff, splitKey_single_iff⟩

-- A backslash and a quote side by side, a colon with its blank, and a backslash at the end.
example : splitKey r#""\\\": \\": 1"#.toList = some (r#"\": \"#.toList, " 1".toList) := by decide

/-! ## Plain keys -/

theorem splitAtColon_plain (name read : List Char) {rest : List Char} (hname : ¬ [':', ' '] <:+: name)
    (hrest : IsBehind rest) :
    splitAtColon read (name ++ ':' :: rest) = some (read.reverse ++ name, rest) := by
  induction name generalizing read with
  | nil => rcases hrest with rfl | ⟨more, rfl⟩ <;> simp [splitAtColon]
  | cons c name ih =>
    have htail : ¬ [':', ' '] <:+: name := fun h => hname (h.trans (List.suffix_cons c name).isInfix)
    have hnext : splitAtColon read (c :: (name ++ ':' :: rest)) =
        splitAtColon (c :: read) (name ++ ':' :: rest) := by
      cases name with
      | nil => simp [splitAtColon]
      | cons d name =>
        have hpair : ¬ (c = ':' ∧ d = ' ') := by
          rintro ⟨rfl, rfl⟩
          exact hname ⟨[], name, rfl⟩
        rw [List.cons_append, splitAtColon, if_neg hpair]
    rw [List.cons_append, hnext, ih (c :: read) htail]
    simp

theorem beforeComment_eq_self {cs : List Char} (h : ¬ [' ', '#'] <:+: cs) : beforeComment cs = cs := by
  induction cs with
  | nil => rfl
  | cons c cs ih =>
    have htail : ¬ [' ', '#'] <:+: cs := fun hin => h (hin.trans (List.suffix_cons c cs).isInfix)
    cases cs with
    | nil => rfl
    | cons d cs =>
      have hpair : ¬ (c = ' ' ∧ d = '#') := by
        rintro ⟨rfl, rfl⟩
        exact h ⟨[], cs, rfl⟩
      rw [beforeComment, if_neg hpair, ih htail]

theorem trimEnd_of_stop {cs : List Char} (h : ∃ rest c, cs = rest ++ [c] ∧ Text.isSpace c = false) :
    Text.trimEnd cs = cs := by
  obtain ⟨rest, c, rfl, hc⟩ := h
  simp [Text.trimEnd, Text.dropEndWhile, hc]

theorem splitPlainKey_of_plain {name rest : List Char} (h : IsPlain name) (hrest : IsBehind rest) :
    splitPlainKey (name ++ ':' :: rest) = some (name, rest) := by
  have hcomment : holdsComment name = false := by simp [holdsComment, beforeComment_eq_self h.noComment]
  obtain ⟨c, tail, hname, _⟩ := h.start
  have hempty : name.isEmpty = false := by simp [hname]
  simp [splitPlainKey, splitAtColon_plain name [] h.noColon hrest, trimEnd_of_stop h.stop, hcomment, hempty]

/-! ## All keys -/

/-- Nothing that a plain key starts with is taken for something else. -/
theorem splitKey_of_plain {name rest : List Char} (h : IsPlain name) (hrest : IsBehind rest) :
    splitKey (name ++ ':' :: rest) = some (name, rest) := by
  have hplain := splitPlainKey_of_plain h hrest
  obtain ⟨c, tail, rfl, hc⟩ := h.start
  simp only [List.mem_cons, List.not_mem_nil, or_false, not_or] at hc
  obtain ⟨_, hdouble, hsingle, hbracket, hbrace, _, _, _⟩ := hc
  rw [List.cons_append] at hplain ⊢
  unfold splitKey
  split
  · rename_i heq
    exact absurd (List.cons.inj heq).1 hbrace
  · rename_i heq
    exact absurd (List.cons.inj heq).1 hbracket
  · rename_i heq
    exfalso
    obtain ⟨rfl, htail⟩ := List.cons.inj heq
    -- The blank would belong to the key, as a colon follows the key.
    cases tail with
    | nil => simp at htail
    | cons d tail =>
      obtain ⟨rfl, _⟩ := List.cons.inj htail
      exact h.noQuestion ⟨tail, rfl⟩
  · rename_i heq
    exact absurd (List.cons.inj heq).1 hdouble
  · rename_i heq
    exact absurd (List.cons.inj heq).1 hsingle
  · exact hplain

/-- A key that is well written is read from its text, together with what stands behind its colon. -/
theorem splitKey_text {k : Key} (h : k.Written) {rest : List Char} (hrest : IsBehind rest) :
    splitKey (k.text ++ ':' :: rest) = some (k.name, rest) := by
  unfold Key.text
  cases hstyle : k.style with
  | plain => exact splitKey_of_plain (h.plain hstyle) hrest
  | single => simp [splitKey_single_iff, hrest]
  | double => simp [splitKey_double_iff, hrest]

end CatalogGate.Block
