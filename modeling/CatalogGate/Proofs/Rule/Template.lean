-- The laws of message templates: the template alone says which characters are copied and where a text is put in, and
-- a placeholder is passed over exactly if an odd number of opening braces stands in front of it.
import CatalogGate.Rule.Evaluation
import Mathlib.Logic.ExistsUnique

namespace CatalogGate.Rule

/-! ## Placeholders -/

/-- What a template can ask for. -/
inductive Placeholder where
  | description
  | error
  | property
  | path
  | value
deriving DecidableEq

namespace Placeholder

def all : List Placeholder := [description, error, property, path, value]

def name : Placeholder → String
  | description => "description"
  | error => "error"
  | property => "property"
  | path => "path"
  | value => "value"

/-- A placeholder as templates write it. -/
def written (p : Placeholder) : List Char := '{' :: '{' :: (p.name.toList ++ ['}', '}'])

def ofName? (name : String) : Option Placeholder := all.find? (·.name = name)

/-- The placeholder that a text starts with. -/
def atFront? (cs : List Char) : Option Placeholder := all.find? (·.written.isPrefixOf cs)

theorem mem_all (p : Placeholder) : p ∈ all := by
  cases p <;> decide

theorem brace_not_mem_name (p : Placeholder) : '{' ∉ p.name.toList ∧ '}' ∉ p.name.toList := by
  cases p <;> decide

theorem getLast?_written (p : Placeholder) : p.written.getLast? = some '}' := by
  cases p <;> decide

theorem ofName?_eq_some_iff {name : String} {p : Placeholder} : ofName? name = some p ↔ p.name = name := by
  constructor
  · intro h
    simpa using List.find?_some h
  · rintro rfl
    cases p <;> decide

theorem written_append_inj {p q : Placeholder} {a b : List Char} (h : p.written ++ a = q.written ++ b) :
    p = q ∧ a = b := by
  have hpq : p = q := by
    cases p <;> cases q <;> first | rfl | simp [written, name] at h
  subst hpq
  exact ⟨rfl, List.append_cancel_left h⟩

theorem atFront?_eq_some_iff {cs : List Char} {p : Placeholder} :
    atFront? cs = some p ↔ ∃ rest, cs = p.written ++ rest := by
  have hfound {q : Placeholder} (h : atFront? cs = some q) : ∃ rest, cs = q.written ++ rest := by
    unfold atFront? at h
    have hprefix := List.find?_some h
    obtain ⟨rest, hrest⟩ := List.isPrefixOf_iff_prefix.mp hprefix
    exact ⟨rest, hrest.symm⟩
  constructor
  · exact hfound
  · rintro ⟨rest, hcs⟩
    rcases hfront : atFront? cs with _ | q
    · have hnone := List.find?_eq_none.mp hfront p (mem_all p)
      exact absurd (List.isPrefixOf_iff_prefix.mpr ⟨rest, hcs.symm⟩) hnone
    · obtain ⟨other, hother⟩ := hfound hfront
      rw [(written_append_inj (hother.symm.trans hcs)).1]

theorem atFront?_eq_none_iff {cs : List Char} :
    atFront? cs = none ↔ ∀ (p : Placeholder) rest, cs ≠ p.written ++ rest := by
  rw [Option.eq_none_iff_forall_ne_some]
  simp only [ne_eq, atFront?_eq_some_iff, not_exists]

/-- Two opening braces stand only at the start of a placeholder. -/
theorem eq_nil_of_written_eq {p : Placeholder} {before after : List Char}
    (h : p.written = before ++ '{' :: '{' :: after) : before = [] := by
  have hinside : '{' ∉ p.name.toList ++ ['}', '}'] := by simp [(brace_not_mem_name p).1]
  have hname : p.name.toList ++ ['}', '}'] ≠ '{' :: after := by
    intro heq
    rw [heq] at hinside
    exact hinside List.mem_cons_self
  rcases before with _ | ⟨c, _ | ⟨d, before⟩⟩
  · rfl
  · simp only [written, List.cons_append, List.nil_append, List.cons.injEq] at h
    exact absurd h.2.2 hname
  · simp only [written, List.cons_append, List.cons.injEq] at h
    rw [h.2.2] at hinside
    simp at hinside

/-- A placeholder that stands further behind stands behind the whole first one. -/
theorem exists_of_written_append_eq {p q : Placeholder} {before after rest : List Char} (hne : before ≠ [])
    (h : p.written ++ rest = before ++ (q.written ++ after)) :
    ∃ between, before = p.written ++ between ∧ rest = between ++ (q.written ++ after) := by
  rcases List.append_eq_append_iff.mp h with ⟨between, hbefore, hrest⟩ | ⟨tail, hp, hq⟩
  · exact ⟨between, hbefore, hrest⟩
  · rcases tail with _ | ⟨c, _ | ⟨d, tail⟩⟩
    · rw [List.append_nil] at hp
      exact ⟨[], by rw [hp, List.append_nil], hq.symm⟩
    · have hlast := getLast?_written p
      rw [hp, List.getLast?_concat] at hlast
      simp only [written, List.cons_append, List.nil_append, List.cons.injEq] at hq
      simp [← hq.1] at hlast
    · simp only [written, List.cons_append, List.cons.injEq] at hq
      obtain ⟨rfl, rfl, _⟩ := hq
      exact absurd (eq_nil_of_written_eq hp) hne

end Placeholder

/-! ## Pieces -/

/-- A piece of a template: a character that is copied, or a placeholder that a text takes the place of. -/
inductive Piece where
  | literal (c : Char)
  | placeholder (p : Placeholder)

def Piece.written : Piece → List Char
  | literal c => [c]
  | placeholder p => p.written

def Piece.text (texts : Placeholder → String) : Piece → List Char
  | literal c => [c]
  | placeholder p => (texts p).toList

/-- How many opening braces stand right in front, after one more character. -/
def bracesAfter (braces : Nat) (c : Char) : Nat := if c = '{' then braces + 1 else 0

/-- How many opening braces stand at the end of a text. -/
def openBraces (before : List Char) : Nat := before.foldl bracesAfter 0

def isEven (braces : Nat) : Bool := braces % 2 = 0

/-- The placeholder that a text starts with, if the number of opening braces in front of it is allowed. -/
def counted? (allows : Nat → Bool) (braces : Nat) (cs : List Char) : Option Placeholder :=
  if allows braces then Placeholder.atFront? cs else none

/-- The pieces of a template in which a placeholder counts only behind an allowed number of opening braces. -/
def piecesFrom (allows : Nat → Bool) (braces : Nat) : List Char → List Piece
  | [] => []
  | c :: rest =>
    match counted? allows braces (c :: rest) with
    | some p => .placeholder p :: piecesFrom allows 0 (rest.drop (p.written.length - 1))
    | none => .literal c :: piecesFrom allows (bracesAfter braces c) rest
termination_by cs => cs.length

/-- A template with texts in the place of the placeholders that count. -/
def replaceWhere (allows : Nat → Bool) (texts : Placeholder → String) (template : String) : String :=
  String.ofList ((piecesFrom allows 0 template.toList).flatMap (Piece.text texts))

variable {allows : Nat → Bool} {braces : Nat}

theorem counted?_eq_some_iff {cs : List Char} {p : Placeholder} :
    counted? allows braces cs = some p ↔ allows braces = true ∧ ∃ rest, cs = p.written ++ rest := by
  rw [← Placeholder.atFront?_eq_some_iff]
  by_cases hallows : allows braces = true <;> simp [counted?, hallows]

theorem counted?_eq_none_iff {cs : List Char} :
    counted? allows braces cs = none ↔ (allows braces = true → Placeholder.atFront? cs = none) := by
  by_cases hallows : allows braces = true <;> simp [counted?, hallows]

theorem piecesFrom_written (hallows : allows braces = true) (p : Placeholder) (rest : List Char) :
    piecesFrom allows braces (p.written ++ rest) = .placeholder p :: piecesFrom allows 0 rest := by
  have hcounted : counted? allows braces (p.written ++ rest) = some p :=
    counted?_eq_some_iff.mpr ⟨hallows, rest, rfl⟩
  obtain ⟨tail, htail⟩ : ∃ tail, p.written = '{' :: tail := ⟨_, rfl⟩
  rw [htail, List.cons_append] at hcounted ⊢
  rw [piecesFrom, hcounted]
  simp only [htail, List.length_cons, Nat.add_sub_cancel, List.drop_left]

theorem piecesFrom_literal {c : Char} {rest : List Char}
    (h : allows braces = true → Placeholder.atFront? (c :: rest) = none) :
    piecesFrom allows braces (c :: rest) = .literal c :: piecesFrom allows (bracesAfter braces c) rest := by
  rw [piecesFrom, counted?_eq_none_iff.mpr h]

theorem eq_of_counted {c : Char} {rest : List Char} {p : Placeholder}
    (h : counted? allows braces (c :: rest) = some p) :
    c :: rest = p.written ++ rest.drop (p.written.length - 1) := by
  obtain ⟨_, after, hcs⟩ := counted?_eq_some_iff.mp h
  have hafter : rest.drop (p.written.length - 1) = after := by
    have hdrop := congrArg (List.drop p.written.length) hcs
    rwa [List.drop_left] at hdrop
  rw [hafter, hcs]

/-- The pieces written one after the other are the template. -/
theorem flatMap_written_piecesFrom (allows : Nat → Bool) (braces : Nat) (cs : List Char) :
    (piecesFrom allows braces cs).flatMap Piece.written = cs := by
  fun_induction piecesFrom allows braces cs with
  | case1 => rfl
  | case2 braces c rest p hcounted ih =>
    rw [List.flatMap_cons, ih, Piece.written]
    exact (eq_of_counted hcounted).symm
  | case3 braces c rest hcounted ih => rw [List.flatMap_cons, ih, Piece.written, List.singleton_append]

/-! ## Which placeholders count -/

/-- A placeholder is a piece, with a text before it and one behind it. -/
def Stands (pieces : List Piece) (before : List Char) (p : Placeholder) (after : List Char) : Prop :=
  ∃ front back, pieces = front ++ .placeholder p :: back ∧ front.flatMap Piece.written = before ∧
    back.flatMap Piece.written = after

theorem written_ne_nil (piece : Piece) : piece.written ≠ [] := by
  cases piece with
  | literal c => exact List.cons_ne_nil c []
  | placeholder p => exact List.cons_ne_nil _ _

/-- Behind a first piece the same placeholders stand as without it. -/
theorem stands_cons_iff (piece : Piece) {pieces : List Piece} {before after : List Char} {p : Placeholder} :
    Stands (piece :: pieces) (piece.written ++ before) p after ↔ Stands pieces before p after := by
  constructor
  · rintro ⟨front, back, hpieces, hfront, hback⟩
    rcases front with _ | ⟨first, front⟩
    · exact absurd (List.append_eq_nil_iff.mp hfront.symm).1 (written_ne_nil piece)
    · obtain ⟨rfl, htail⟩ := List.cons.inj hpieces
      exact ⟨front, back, htail, List.append_cancel_left hfront, hback⟩
  · rintro ⟨front, back, rfl, rfl, hback⟩
    exact ⟨piece :: front, back, rfl, rfl, hback⟩

theorem stands_nil_iff {piece : Piece} {pieces : List Piece} {after : List Char} {p : Placeholder} :
    Stands (piece :: pieces) [] p after ↔ piece = .placeholder p ∧ pieces.flatMap Piece.written = after := by
  constructor
  · rintro ⟨front, back, hpieces, hfront, hback⟩
    rcases front with _ | ⟨first, front⟩
    · obtain ⟨rfl, rfl⟩ := List.cons.inj hpieces
      exact ⟨rfl, hback⟩
    · exact absurd (List.append_eq_nil_iff.mp hfront).1 (written_ne_nil first)
  · rintro ⟨rfl, hafter⟩
    exact ⟨[], pieces, rfl, rfl, hafter⟩

theorem foldl_bracesAfter_written (braces : Nat) (p : Placeholder) :
    p.written.foldl bracesAfter braces = 0 := by
  cases p <;> rfl

/-- A placeholder of the template is a piece exactly if the number of opening braces in front of it is allowed. -/
theorem stands_piecesFrom_iff {cs before after : List Char} {p : Placeholder}
    (h : cs = before ++ (p.written ++ after)) :
    Stands (piecesFrom allows braces cs) before p after ↔ allows (before.foldl bracesAfter braces) = true := by
  fun_induction piecesFrom allows braces cs generalizing before with
  | case1 => simp [Placeholder.written] at h
  | case2 braces c rest q hcounted ih =>
    have hallows := (counted?_eq_some_iff.mp hcounted).1
    have hcs := eq_of_counted hcounted
    rcases before with _ | ⟨d, before⟩
    · obtain ⟨rfl, hafter⟩ := Placeholder.written_append_inj (hcs.symm.trans h)
      simp [stands_nil_iff, hallows, flatMap_written_piecesFrom, hafter]
    -- Placeholders do not overlap, so the one in question stands behind the whole first piece.
    · obtain ⟨between, hbefore, hrest⟩ :=
        Placeholder.exists_of_written_append_eq (List.cons_ne_nil d before) (hcs.symm.trans h)
      rw [hbefore, List.foldl_append, foldl_bracesAfter_written, ← ih hrest]
      exact stands_cons_iff (.placeholder q)
  | case3 braces c rest hcounted ih =>
    rcases before with _ | ⟨d, before⟩
    · have hnot : allows braces ≠ true := by
        intro hallows
        rw [counted?_eq_some_iff.mpr ⟨hallows, after, h⟩] at hcounted
        exact nomatch hcounted
      simp [stands_nil_iff, hnot]
    · obtain ⟨rfl, hrest⟩ := List.cons.inj h
      rw [List.foldl_cons, ← ih hrest]
      exact stands_cons_iff (.literal c)

/-! ## The scan -/

namespace Template

theorem upToClose?_eq_some {cs name : List Char} (h : upToClose? cs = some name) :
    ∃ rest, cs = name ++ '}' :: '}' :: rest := by
  fun_induction upToClose? cs generalizing name with
  | case1 => exact nomatch h
  | case2 rest =>
    obtain rfl := Option.some.inj h
    exact ⟨rest, rfl⟩
  | case3 c cs _ ih =>
    obtain ⟨inner, hinner, rfl⟩ := Option.map_eq_some_iff.mp h
    obtain ⟨rest, rfl⟩ := ih hinner
    exact ⟨rest, rfl⟩

theorem upToClose?_append {name : List Char} (h : '}' ∉ name) (rest : List Char) :
    upToClose? (name ++ '}' :: '}' :: rest) = some name := by
  induction name with
  | nil => rfl
  | cons c name ih =>
    simp only [List.mem_cons, not_or] at h
    rw [List.cons_append, upToClose?, ih h.2]
    · rfl
    · rintro _ rfl
      exact absurd rfl h.1

theorem upToClose?_of_cons {c : Char} {cs : List Char} (h : upToClose? (c :: cs) = none) :
    upToClose? cs = none := by
  unfold upToClose? at h
  split at h
  · rename_i heq
    exact nomatch heq
  · exact nomatch h
  · rename_i heq
    obtain ⟨rfl, rfl⟩ := List.cons.inj heq
    simpa using h

theorem upToClose?_written (p : Placeholder) (rest : List Char) :
    upToClose? (p.name.toList ++ ['}', '}'] ++ rest) = some p.name.toList := by
  rw [List.append_assoc]
  exact upToClose?_append (p.brace_not_mem_name).2 rest

theorem atFront?_of_not_open {c : Char} {rest : List Char} (h : c = '{' → rest.head? ≠ some '{') :
    Placeholder.atFront? (c :: rest) = none := by
  rw [Placeholder.atFront?_eq_none_iff]
  intro p after heq
  obtain ⟨rfl, rfl⟩ := List.cons.inj heq
  exact h rfl rfl

/-- Where no pair of opening braces stands, the braces in front do not count any more. -/
theorem piecesFrom_of_not_open {c : Char} {rest : List Char} (h : c = '{' → rest.head? ≠ some '{') :
    piecesFrom allows braces (c :: rest) = .literal c :: piecesFrom allows 0 rest := by
  rw [piecesFrom_literal fun _ => atFront?_of_not_open h]
  by_cases hc : c = '{'
  · rcases rest with _ | ⟨d, rest⟩
    · simp [piecesFrom]
    · have hd : d ≠ '{' := by simpa using h hc
      have hfront : Placeholder.atFront? (d :: rest) = none := atFront?_of_not_open fun heq => absurd heq hd
      rw [piecesFrom_literal fun _ => hfront, piecesFrom_literal fun _ => hfront]
      simp [bracesAfter, hd]
  · simp [bracesAfter, hc]

/-- A pair of opening braces that starts no placeholder. -/
theorem piecesFrom_of_open {rest : List Char} (heven : isEven braces = true)
    (h : Placeholder.atFront? ('{' :: '{' :: rest) = none) :
    piecesFrom isEven braces ('{' :: '{' :: rest) =
      .literal '{' :: .literal '{' :: piecesFrom isEven (braces + 2) rest := by
  have hodd : isEven (bracesAfter braces '{') ≠ true := by
    simp [isEven, bracesAfter] at heven ⊢
    omega
  rw [piecesFrom_literal fun _ => h, piecesFrom_literal fun hallows => absurd hallows hodd]
  rfl

section Scan

variable {meaning : String → Option String} {texts : Placeholder → String}
  (hmeaning : ∀ name, meaning name = (Placeholder.ofName? name).map texts)

theorem fillFrom_of_no_close {cs : List Char} (h : upToClose? cs = none) : fillFrom meaning 0 cs = cs := by
  induction cs with
  | nil => rfl
  | cons c rest ih =>
    have hrest := upToClose?_of_cons h
    by_cases hopen : ∃ tail, c :: rest = '{' :: '{' :: tail
    · obtain ⟨tail, heq⟩ := hopen
      obtain ⟨rfl, rfl⟩ := List.cons.inj heq
      rw [fillFrom, upToClose?_of_cons hrest]
    · rw [fillFrom, ih hrest]
      rintro tail rfl rfl
      exact hopen ⟨tail, rfl⟩

include hmeaning

theorem fillFrom_written (p : Placeholder) (rest : List Char) :
    fillFrom meaning 0 (p.written ++ rest) = (texts p).toList ++ fillFrom meaning 0 rest := by
  have hknown : meaning (String.ofList p.name.toList) = some (texts p) := by
    rw [hmeaning, String.ofList_toList, Placeholder.ofName?_eq_some_iff.mpr rfl, Option.map_some]
  have hdrop : ('{' :: (p.name.toList ++ ['}', '}'] ++ rest)).drop (p.name.toList.length + 3) = rest := by simp
  rw [Placeholder.written, List.cons_append, List.cons_append, fillFrom]
  simp only [upToClose?_written, hknown]
  rw [fillFrom_skip, hdrop]

theorem fillFrom_of_open {rest : List Char} (h : Placeholder.atFront? ('{' :: '{' :: rest) = none) :
    fillFrom meaning 0 ('{' :: '{' :: rest) = '{' :: '{' :: fillFrom meaning 0 rest := by
  rw [fillFrom]
  rcases hclose : upToClose? rest with _ | name
  · rw [fillFrom_of_no_close hclose]
  -- A known name up to the closing braces would make a placeholder of the text.
  · have hunknown : Placeholder.ofName? (String.ofList name) = none := by
      rw [Option.eq_none_iff_forall_ne_some]
      intro p hp
      obtain ⟨after, rfl⟩ := upToClose?_eq_some hclose
      refine Placeholder.atFront?_eq_none_iff.mp h p after ?_
      simp [Placeholder.written, Placeholder.ofName?_eq_some_iff.mp hp]
    simp only [hmeaning, hunknown, Option.map_none, fillFrom]

/-- The scan puts texts in for the placeholders behind an even number of opening braces: wherever it looks, the number
of opening braces in front is even. -/
theorem fillFrom_eq (cs : List Char) (braces : Nat) (heven : isEven braces = true) :
    fillFrom meaning 0 cs = (piecesFrom isEven braces cs).flatMap (Piece.text texts) := by
  by_cases hopen : ∃ rest, cs = '{' :: '{' :: rest
  · obtain ⟨rest, rfl⟩ := hopen
    rcases hfront : Placeholder.atFront? ('{' :: '{' :: rest) with _ | p
    · have hagain : isEven (braces + 2) = true := by
        simp [isEven] at heven ⊢
        omega
      rw [fillFrom_of_open hmeaning hfront, piecesFrom_of_open heven hfront, fillFrom_eq rest (braces + 2) hagain]
      rfl
    · obtain ⟨after, hcs⟩ := Placeholder.atFront?_eq_some_iff.mp hfront
      have hshorter : after.length < ('{' :: '{' :: rest).length := by
        rw [hcs, List.length_append]
        simp [Placeholder.written]
      rw [hcs, fillFrom_written hmeaning, piecesFrom_written heven, fillFrom_eq after 0 rfl]
      rfl
  · rcases cs with _ | ⟨c, rest⟩
    · simp [fillFrom, piecesFrom]
    · have hnot : c = '{' → rest.head? ≠ some '{' := by
        rintro rfl hhead
        obtain ⟨tail, rfl⟩ := List.head?_eq_some_iff.mp hhead
        exact hopen ⟨tail, rfl⟩
      rw [fillFrom, piecesFrom_of_not_open hnot, fillFrom_eq rest 0 rfl]
      · rfl
      · rintro tail rfl rfl
        exact hnot rfl rfl
termination_by cs.length

end Scan

end Template

/-! ## The laws -/

/-- The texts that placeholders stand for in a message of a rule. -/
def texts (r : Rule) (error : String) (t : Target) (property : String) : Placeholder → String
  | .description => r.description.getD ""
  | .error => error
  | .property => property
  | .path => t.path.text
  | .value => (t.value.map Json.display).getD ""

theorem meaning_eq (r : Rule) (error : String) (t : Target) (property name : String) :
    r.meaning error t property name = (Placeholder.ofName? name).map (r.texts error t property) := by
  rcases h : Placeholder.ofName? name with _ | p
  · have hunknown (p : Placeholder) : name ≠ p.name := by
      rintro rfl
      rw [Placeholder.ofName?_eq_some_iff.mpr rfl] at h
      exact nomatch h
    unfold meaning
    split
    · exact absurd rfl (hunknown .description)
    · exact absurd rfl (hunknown .error)
    · exact absurd rfl (hunknown .property)
    · exact absurd rfl (hunknown .path)
    · exact absurd rfl (hunknown .value)
    · rfl
  · obtain rfl := Placeholder.ofName?_eq_some_iff.mp h
    cases p <;> rfl

theorem interpolate_eq (r : Rule) (template error : String) (t : Target) (property : String) :
    r.interpolate template error t property =
      replaceWhere isEven (r.texts error t property) template := by
  unfold interpolate Template.fill replaceWhere
  rw [Template.fillFrom_eq (r.meaning_eq error t property) template.toList 0 rfl]

/-- Placeholders can stand for any texts. -/
theorem exists_texts (f : Placeholder → String) :
    ∃ (r : Rule) (error : String) (t : Target) (property : String), r.texts error t property = f := by
  refine ⟨⟨"", some (f .description), none, .error, [], [], []⟩, f .error,
    ⟨[.key (f .path)], some (.string (f .value))⟩, f .property, ?_⟩
  funext p
  cases p with
  | path => simp [texts, Json.Path.text, Json.Step.text]
  | _ => rfl

theorem text_ne_nil (piece : Piece) : piece.text (fun _ => "a") ≠ [] := by
  cases piece <;> simp [Piece.text]

theorem exists_char_ne (c : Char) : ∃ d : Char, c ≠ d := by
  by_cases hc : c = 'a'
  · exact ⟨'b', by simp [hc]⟩
  · exact ⟨'a', hc⟩

theorem piece_eq_of_text {piece other : Piece} {a b : (Placeholder → String) → List Char}
    (h : ∀ f, piece.text f ++ a f = other.text f ++ b f) : piece = other := by
  -- The texts can be chosen to start with another character than the one that is copied.
  have hcopied (c : Char) (p : Placeholder) {a b : (Placeholder → String) → List Char} :
      ¬ ∀ f, c :: a f = (f p).toList ++ b f := by
    intro hsame
    obtain ⟨d, hd⟩ := exists_char_ne c
    have hfirst := hsame fun _ => String.ofList [d]
    rw [String.toList_ofList] at hfirst
    exact hd (List.cons.inj hfirst).1
  cases piece with
  | literal c =>
    cases other with
    | literal d => rw [(List.cons.inj (h fun _ => "")).1]
    | placeholder q => exact absurd h (hcopied c q)
  | placeholder p =>
    cases other with
    | literal d => exact absurd (fun f => (h f).symm) (hcopied d p)
    | placeholder q =>
      by_cases hpq : p = q
      · rw [hpq]
      · have hfirst := h fun x => if x = p then "a" else "b"
        simp [Piece.text, Ne.symm hpq] at hfirst

/-- Pieces can be told apart by the texts that they give. -/
theorem pieces_inj {pieces others : List Piece}
    (h : ∀ f, pieces.flatMap (Piece.text f) = others.flatMap (Piece.text f)) : pieces = others := by
  induction pieces generalizing others with
  | nil =>
    cases others with
    | nil => rfl
    | cons other others =>
      exact absurd (List.append_eq_nil_iff.mp (h fun _ => "a").symm).1 (text_ne_nil other)
  | cons piece pieces ih =>
    cases others with
    | nil => exact absurd (List.append_eq_nil_iff.mp (h fun _ => "a")).1 (text_ne_nil piece)
    | cons other others =>
      obtain rfl : piece = other := piece_eq_of_text h
      rw [ih fun f => List.append_cancel_left (h f)]

/-- A template can be cut in exactly one way into characters that are always copied and placeholders that a text is
always put in for. -/
theorem interpolate_segmented (template : String) :
    ∃! pieces : List Piece, pieces.flatMap Piece.written = template.toList ∧
      ∀ (r : Rule) (error : String) (t : Target) (property : String),
        (r.interpolate template error t property).toList =
          pieces.flatMap (Piece.text (r.texts error t property)) := by
  refine ⟨piecesFrom isEven 0 template.toList, ⟨flatMap_written_piecesFrom _ _ _, ?_⟩, ?_⟩
  · intro r error t property
    rw [interpolate_eq, replaceWhere, String.toList_ofList]
  · rintro others ⟨_, hothers⟩
    apply pieces_inj
    intro f
    obtain ⟨r, error, t, property, rfl⟩ := exists_texts f
    rw [← hothers, interpolate_eq, replaceWhere, String.toList_ofList]

/-- A template with all its placeholders replaced at once. -/
def replaceAll (texts : Placeholder → String) (template : String) : String :=
  replaceWhere (fun _ => true) texts template

/-- A placeholder stands somewhere in a template. -/
def Occurs (template : String) (before : List Char) (p : Placeholder) (after : List Char) : Prop :=
  template.toList = before ++ (p.written ++ after)

/-- If the same placeholders are allowed, the pieces are the same. -/
theorem piecesFrom_congr {other : Nat → Bool} {cs : List Char}
    (h : ∀ before (p : Placeholder) after, cs = before ++ (p.written ++ after) →
      allows (before.foldl bracesAfter braces) = other (before.foldl bracesAfter braces)) :
    piecesFrom allows braces cs = piecesFrom other braces cs := by
  fun_induction piecesFrom allows braces cs with
  | case1 => simp [piecesFrom]
  | case2 braces c rest p hcounted ih =>
    have hcs := eq_of_counted hcounted
    have hother : other braces = true := (h [] p _ hcs).symm.trans (counted?_eq_some_iff.mp hcounted).1
    rw [hcs, piecesFrom_written hother, ih]
    intro before q after hrest
    have hwhole := h (p.written ++ before) q after (by rw [List.append_assoc, ← hrest]; exact hcs)
    rwa [List.foldl_append, foldl_bracesAfter_written] at hwhole
  | case3 braces c rest hcounted ih =>
    rw [piecesFrom_literal, ih]
    · intro before p after hrest
      exact h (c :: before) p after (congrArg (List.cons c) hrest)
    · intro hother
      rw [Placeholder.atFront?_eq_none_iff]
      intro p after hcs
      have hallows : allows braces = true := (h [] p after hcs).trans hother
      rw [counted?_eq_some_iff.mpr ⟨hallows, after, hcs⟩] at hcounted
      exact nomatch hcounted

/-- A placeholder is replaced exactly if an even number of opening braces stands in front of it; all of them are exactly
if this holds of each. -/
theorem interpolate_replaces_iff (template : String) :
    (∀ (r : Rule) (error : String) (t : Target) (property : String),
      r.interpolate template error t property =
        replaceWhere isEven (r.texts error t property) template) ∧
    (∀ allows before p after, Occurs template before p after →
      (Stands (piecesFrom allows 0 template.toList) before p after ↔ allows (openBraces before) = true)) ∧
    ((∀ (r : Rule) (error : String) (t : Target) (property : String),
      r.interpolate template error t property = replaceAll (r.texts error t property) template) ↔
        ∀ before p after, Occurs template before p after → isEven (openBraces before) = true) := by
  refine ⟨fun r error t property => r.interpolate_eq template error t property,
    fun allows before p after hoccurs => stands_piecesFrom_iff hoccurs, ?_, ?_⟩
  -- Equal messages whatever the texts are come from equal pieces, and all placeholders are pieces of the second.
  · intro hall before p after hoccurs
    have hpieces : piecesFrom isEven 0 template.toList = piecesFrom (fun _ => true) 0 template.toList := by
      apply pieces_inj
      intro f
      obtain ⟨r, error, t, property, rfl⟩ := exists_texts f
      have hsame := (r.interpolate_eq template error t property).symm.trans (hall r error t property)
      exact String.ofList_injective hsame
    have hstands : Stands (piecesFrom (fun _ => true) 0 template.toList) before p after :=
      (stands_piecesFrom_iff hoccurs).mpr rfl
    rwa [← hpieces, stands_piecesFrom_iff hoccurs] at hstands
  · intro heven r error t property
    have hpieces : piecesFrom isEven 0 template.toList = piecesFrom (fun _ => true) 0 template.toList :=
      piecesFrom_congr heven
    rw [interpolate_eq, replaceAll, replaceWhere, replaceWhere, hpieces]

/-! A placeholder in one more pair of braces. -/

def wrappedTemplate : String := "\x7b\x7b\x7berror\x7d\x7d\x7d"

def plainRule : Rule := ⟨"plain", none, none, .warn, [], [], []⟩

theorem replaceAll_wrapped (texts : Placeholder → String) :
    (replaceAll texts wrappedTemplate).toList = '{' :: ((texts .error).toList ++ ['}']) := by
  have htemplate : wrappedTemplate.toList = '{' :: (Placeholder.error.written ++ ['}']) := by decide
  have hfront : Placeholder.atFront? ('{' :: (Placeholder.error.written ++ ['}'])) = none := by decide
  rw [replaceAll, replaceWhere, String.toList_ofList, htemplate, piecesFrom_literal fun _ => hfront,
    piecesFrom_written rfl, piecesFrom_literal fun _ => (by decide : Placeholder.atFront? ['}'] = none)]
  simp [piecesFrom, Piece.text]

/-- The placeholder is copied. -/
theorem interpolate_misses_wrapped :
    Occurs wrappedTemplate ['{'] .error ['}'] ∧
      plainRule.interpolate wrappedTemplate "missing" ⟨[], none⟩ "" = wrappedTemplate ∧
      replaceAll (plainRule.texts "missing" ⟨[], none⟩ "") wrappedTemplate = "\x7bmissing\x7d" := by
  refine ⟨(by decide : wrappedTemplate.toList = _), by decide, ?_⟩
  apply String.toList_injective
  rw [replaceAll_wrapped]
  decide

end CatalogGate.Rule
