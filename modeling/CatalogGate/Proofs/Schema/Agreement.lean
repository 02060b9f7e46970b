-- Schemas that say the same about every value. A schema that is put together from parts keeps what it says when its
-- parts are replaced by others that say the same.
import CatalogGate.Schema.Check
import Mathlib.Data.List.Forall2

namespace CatalogGate.Schema

variable {f g : Follow}

/-- A schema says to some followers what another one says to others. -/
def Agree (f g : Follow) (s t : Schema) : Prop := ∀ v path, violations f s v path = violations g t v path

/-- As before, for keywords. -/
def KeywordsAgree (f g : Follow) (ks ls : List Keyword) : Prop :=
  ∀ v path, keywordViolations f ks v path = keywordViolations g ls v path

/-- As before, for what says something about a member: names or patterns with schemas. -/
def MembersAgree {α : Type} (f g : Follow) : List (α × Schema) → List (α × Schema) → Prop :=
  List.Forall₂ fun m n => m.1 = n.1 ∧ Agree f g m.2 n.2

theorem Agree.trans {h : Follow} {s t u : Schema} (hst : Agree f g s t) (htu : Agree g h t u) : Agree f h s u :=
  fun v path => (hst v path).trans (htu v path)

/-! ## Lists of schemas -/

theorem nameViolations_congr {ms ns : List (String × Schema)} (h : MembersAgree f g ms ns) (name : String) (v : Json)
    (path : Json.Path) : nameViolations f ms name v path = nameViolations g ns name v path := by
  induction h with
  | nil => rfl
  | @cons m n _ _ hmn _ ih =>
    obtain ⟨k, s⟩ := m
    obtain ⟨_, t⟩ := n
    obtain ⟨rfl, hst⟩ := hmn
    rw [nameViolations, nameViolations, ih, hst v path]

theorem matchViolations_congr {ms ns : List (Pattern.Search × Schema)} (h : MembersAgree f g ms ns) (name : String)
    (v : Json) (path : Json.Path) : matchViolations f ms name v path = matchViolations g ns name v path := by
  induction h with
  | nil => rfl
  | @cons m n _ _ hmn _ ih =>
    obtain ⟨p, s⟩ := m
    obtain ⟨_, t⟩ := n
    obtain ⟨rfl, hst⟩ := hmn
    rw [matchViolations, matchViolations, ih, hst v path]

theorem namedViolations_congr {ms ns : List (String × Schema)} (h : MembersAgree f g ms ns)
    (members : List (String × Json)) (path : Json.Path) :
    namedViolations f ms members path = namedViolations g ns members path := by
  induction h with
  | nil => rfl
  | @cons m n _ _ hmn _ ih =>
    obtain ⟨k, s⟩ := m
    obtain ⟨_, t⟩ := n
    obtain ⟨rfl, hst⟩ := hmn
    rw [namedViolations, namedViolations, ih]
    cases Json.lookup k members with
    | none => rfl
    | some w => exact congrArg (· ++ _) (hst w _)

theorem map_fst_eq {α : Type} {ms ns : List (α × Schema)} (h : MembersAgree f g ms ns) :
    ms.map Prod.fst = ns.map Prod.fst := by
  induction h with
  | nil => rfl
  | cons hmn _ ih => rw [List.map_cons, List.map_cons, hmn.1, ih]

theorem covers_congr {ms ns : List (String × Schema)} {ps qs : List (Pattern.Search × Schema)}
    (hnamed : MembersAgree f g ms ns) (hmatching : MembersAgree f g ps qs) (name : String) :
    covers ms ps name = covers ns qs name := by
  have h (ms : List (String × Schema)) (ps : List (Pattern.Search × Schema)) :
      covers ms ps name = ((ms.map Prod.fst).any (· == name) || (ps.map Prod.fst).any (·.finds name)) := by
    rw [List.any_map, List.any_map]
    rfl
  rw [h, h, map_fst_eq hnamed, map_fst_eq hmatching]

theorem countValid_congr {ss ts : List Schema} (h : List.Forall₂ (Agree f g) ss ts) (v : Json) :
    countValid f ss v = countValid g ts v := by
  induction h with
  | nil => rfl
  | cons hst _ ih => rw [countValid, countValid, ih, hst v []]

/-! ## Keywords -/

theorem KeywordsAgree.nil : KeywordsAgree f g [] [] := fun _ _ => rfl

theorem keywordViolations_append (ks ls : List Keyword) (v : Json) (path : Json.Path) :
    keywordViolations f (ks ++ ls) v path = keywordViolations f ks v path ++ keywordViolations f ls v path := by
  induction ks with
  | nil => rfl
  | cons k ks ih => rw [List.cons_append, keywordViolations, keywordViolations, ih, List.append_assoc]

theorem KeywordsAgree.append {ks ls ks' ls' : List Keyword} (h : KeywordsAgree f g ks ls)
    (h' : KeywordsAgree f g ks' ls') : KeywordsAgree f g (ks ++ ks') (ls ++ ls') := by
  intro v path
  rw [keywordViolations_append, keywordViolations_append, h v path, h' v path]

theorem KeywordsAgree.singleton {k l : Keyword}
    (h : ∀ v path, keywordViolation f k v path = keywordViolation g l v path) : KeywordsAgree f g [k] [l] := by
  intro v path
  simp only [keywordViolations, List.append_nil, h v path]

theorem KeywordsAgree.all {ks ls : List Keyword} (h : KeywordsAgree f g ks ls) : Agree f g (.all ks) (.all ls) := by
  intro v path
  rw [violations, violations, h v path]

theorem keywordsAgree_named {ms ns : List (String × Schema)} (h : MembersAgree f g ms ns) :
    KeywordsAgree f g [.named ms] [.named ns] := by
  refine .singleton fun v path => ?_
  rw [keywordViolation, keywordViolation, namedViolations_congr h]

theorem keywordsAgree_closed {ms ns : List (String × Schema)} {ps qs : List (Pattern.Search × Schema)}
    (hnamed : MembersAgree f g ms ns) (hmatching : MembersAgree f g ps qs) :
    KeywordsAgree f g [.closed ms ps] [.closed ns qs] := by
  refine .singleton fun v path => ?_
  simp only [keywordViolation, nameViolations_congr hnamed, matchViolations_congr hmatching,
    covers_congr hnamed hmatching]

theorem keywordsAgree_members {ms ns : List (String × Schema)} {ps qs : List (Pattern.Search × Schema)} {s t : Schema}
    (hnamed : MembersAgree f g ms ns) (hmatching : MembersAgree f g ps qs) (h : Agree f g s t) :
    KeywordsAgree f g [.members ms ps s] [.members ns qs t] := by
  refine .singleton fun v path => ?_
  simp only [keywordViolation, nameViolations_congr hnamed, matchViolations_congr hmatching,
    covers_congr hnamed hmatching, h _ _]

theorem keywordsAgree_itemsFrom {s t : Schema} (position : Nat) (h : Agree f g s t) :
    KeywordsAgree f g [.itemsFrom position s] [.itemsFrom position t] := by
  refine .singleton fun v path => ?_
  simp only [keywordViolation, h _ _]

theorem keywordsAgree_anyOf {ss ts : List Schema} (h : List.Forall₂ (Agree f g) ss ts) :
    KeywordsAgree f g [.anyOf ss] [.anyOf ts] := by
  refine .singleton fun v path => ?_
  rw [keywordViolation, keywordViolation, countValid_congr h]

theorem keywordsAgree_conditional {test yes no test' yes' no' : Schema} (htest : Agree f g test test')
    (hyes : Agree f g yes yes') (hno : Agree f g no no') :
    KeywordsAgree f g [.conditional test yes no] [.conditional test' yes' no'] := by
  refine .singleton fun v path => ?_
  rw [keywordViolation, keywordViolation, htest v [], hyes v path, hno v path]

theorem keywordsAgree_reference {s t : Schema} (h : Agree f g s t) :
    KeywordsAgree f g [.reference s] [.reference t] := by
  refine .singleton fun v path => ?_
  rw [keywordViolation, keywordViolation, h v path]

/-- Of a pattern only counts in which texts it is found. -/
theorem keywordsAgree_pattern {p q : Pattern} (source : String)
    (h : ∀ text : List Char, p.isFoundIn text = q.isFoundIn text) :
    KeywordsAgree f g [.pattern source (.plain p)] [.pattern source (.plain q)] := by
  refine .singleton fun v path => ?_
  cases v <;> simp only [keywordViolation, simpleViolations, Pattern.Search.run, h]

end CatalogGate.Schema
