-- The laws of reading schemas. A text means a schema without references if everything that may be read from it says
-- what that schema says, whichever references have been followed before and for as many as may still be followed.
import CatalogGate.Proofs.Schema.Agreement
import CatalogGate.Schema.Reader

namespace CatalogGate.Schema

/-! ## Readings that succeed -/

/-- A reading succeeds with an answer of which something holds, whatever has been followed before. -/
def Gives {α : Type} (r : Reading α) (P : α → Prop) : Prop :=
  ∀ known, ∃ a known', r.run known = .ok (a, known') ∧ P a

namespace Gives

variable {α β : Type} {P Q : α → Prop} {R : β → Prop}

theorem pure {a : α} (h : P a) : Gives (pure a) P := fun known => ⟨a, known, rfl, h⟩

theorem lift {x : Except Problem α} {a : α} (hx : x = .ok a) (h : P a) : Gives (liftM x) P := by
  subst hx
  exact fun known => ⟨a, known, rfl, h⟩

theorem bind {r : Reading α} {k : α → Reading β} (hr : Gives r P) (hk : ∀ a, P a → Gives (k a) R) :
    Gives (r >>= k) R := by
  intro known
  obtain ⟨a, known', hrun, ha⟩ := hr known
  obtain ⟨b, known'', hrun', hb⟩ := hk a ha known'
  refine ⟨b, known'', ?_, hb⟩
  rw [StateT.run_bind, hrun]
  exact hrun'

theorem mono {r : Reading α} (hr : Gives r P) (h : ∀ a, P a → Q a) : Gives r Q := by
  intro known
  obtain ⟨a, known', hrun, ha⟩ := hr known
  exact ⟨a, known', hrun, h a ha⟩

/-- A traversal, by what each of its steps gives for an element and its counterpart. -/
theorem mapM {γ : Type} {read : α → Reading β} {S : α → γ → Prop} {T : β → γ → Prop} {as : List α} {cs : List γ}
    (hall : List.Forall₂ S as cs) (hread : ∀ a c, S a c → Gives (read a) (T · c)) :
    Gives (as.mapM read) (List.Forall₂ T · cs) := by
  induction hall with
  | nil =>
    rw [List.mapM_nil]
    exact pure .nil
  | cons hac _ ih =>
    rw [List.mapM_cons]
    exact (hread _ _ hac).bind fun b hb => ih.bind fun bs hbs => pure (.cons hb hbs)

end Gives

/-! ## Meanings -/

/-- A site in a document that stands at home. -/
structure Site.IsHome (s : Site) : Prop where
  base : s.base = Registry.home
  edition : s.edition = .draft7
  limited : s.limited = true

/-- A schema that names neither another edition nor an identifier. -/
structure IsPlain (v : Json) : Prop where
  edition : ((Layout.editionName? v).bind Edition.ofIdentifier?).getD .draft7 = .draft7
  identifier : Layout.identifier? .draft7 v = none

/-- A schema says what one without references says, if so many references may be followed one after the other. -/
def AgreesAt (o : Origin) (level : Nat) (s t : Schema) : Prop :=
  ∀ steps, level ≤ steps → Agree (o.follow steps) .nowhere s t

/-- A text means a schema without references. The level bounds how far down references and parts go. -/
structure Means (o : Origin) (level : Nat) (v : Json) (t : Schema) : Prop where
  isObject : ∃ members, v = .object members
  isPlain : IsPlain v
  reads : ∀ s : Site, s.IsHome → s.contents = v → ∀ fuel, level ≤ fuel →
    Gives (Reader.readSite o fuel s) (AgreesAt o level · t)

/-- A keyword, among its siblings, means keywords without references. -/
def KeywordMeans (o : Origin) (level : Nat) (siblings : List (String × Json)) (key : String) (v : Json)
    (ks : List Keyword) : Prop :=
  ∀ s : Site, s.IsHome → ∀ fuel, level ≤ fuel →
    Gives (Reader.readKeyword o s (Reader.readSite o fuel) siblings key v) fun k =>
      ∀ steps, level ≤ steps → KeywordsAgree (o.follow steps) .nowhere k.toList ks

/-- As before, for several keywords. -/
def KeywordsMean (o : Origin) (level : Nat) (siblings members : List (String × Json)) (ks : List Keyword) : Prop :=
  ∀ s : Site, s.IsHome → ∀ fuel, level ≤ fuel →
    Gives (members.mapM fun (key, v) => Reader.readKeyword o s (Reader.readSite o fuel) siblings key v) fun read =>
      ∀ steps, level ≤ steps → KeywordsAgree (o.follow steps) .nowhere (read.filterMap id) ks

/-- As before, for schemas that have names. -/
def MembersMean (o : Origin) (level : Nat) : List (String × Json) → List (String × Schema) → Prop :=
  List.Forall₂ fun m n => m.1 = n.1 ∧ Means o level m.2 n.2

/-- As before, for schemas that have expressions for names. -/
def PatternsMean (o : Origin) (level : Nat) : List (String × Json) → List (Pattern.Search × Schema) → Prop :=
  List.Forall₂ fun m n => Pattern.Search.read? m.1.toList = some n.1 ∧ Means o level m.2 n.2

variable {o : Origin} {level : Nat} {siblings members : List (String × Json)}

@[simp] theorem membersMean_nil : MembersMean o level [] [] := .nil

@[simp] theorem membersMean_cons {m : String × Json} {n : String × Schema} {named : List (String × Schema)} :
    MembersMean o level (m :: members) (n :: named) ↔
      (m.1 = n.1 ∧ Means o level m.2 n.2) ∧ MembersMean o level members named :=
  List.forall₂_cons

namespace Site

theorem IsHome.withContents {s : Site} (hs : s.IsHome) (v : Json) : { s with contents := v }.IsHome :=
  ⟨hs.base, hs.edition, hs.limited⟩

theorem enter_eq {s : Site} {v : Json} (hs : s.IsHome) (hv : IsPlain v) :
    s.enter v = .ok { s with contents := v } := by
  have hedition : ((Layout.editionName? v).bind Edition.ofIdentifier?).getD s.edition = s.edition := by
    rw [hs.edition, hv.edition]
  have hidentifier : Layout.identifier? s.edition v = none := by rw [hs.edition, hv.identifier]
  simp only [enter, hedition, hidentifier]
  rfl

theorem arrived_eq {s : Site} (hs : s.IsHome) (hv : IsPlain s.contents) : s.arrived = s := by
  have hedition : ((Layout.editionName? s.contents).bind Edition.ofIdentifier?).getD s.edition = s.edition := by
    rw [hs.edition, hv.edition]
  have hlimited : (!s.edition.isSince .of2019) = s.limited := by
    rw [hs.edition, hs.limited]
    rfl
  simp only [arrived, hedition, hlimited]

end Site

theorem Means.mono {m n : Nat} {v : Json} {t : Schema} (h : Means o m v t) (hmn : m ≤ n) : Means o n v t where
  isObject := h.isObject
  isPlain := h.isPlain
  reads s hs hv fuel hfuel :=
    (h.reads s hs hv fuel (Nat.le_trans hmn hfuel)).mono fun _ ha steps hsteps => ha steps (Nat.le_trans hmn hsteps)

theorem Means.trans {v : Json} {s t : Schema} (h : Means o level v s) (hst : Agree .nowhere .nowhere s t) :
    Means o level v t where
  isObject := h.isObject
  isPlain := h.isPlain
  reads s hs hv fuel hfuel :=
    (h.reads s hs hv fuel hfuel).mono fun _ ha steps hsteps => (ha steps hsteps).trans hst

/-- How the schemas inside of the schema at a site are read. -/
def partsAt (o : Origin) (fuel : Nat) (s : Site) : ReadPart := fun v => do Reader.readSite o fuel (← s.enter v)

theorem Means.part {v : Json} {t : Schema} (h : Means o level v t) {s : Site} (hs : s.IsHome) {fuel : Nat}
    (hfuel : level ≤ fuel) : Gives (partsAt o fuel s v) (AgreesAt o level · t) :=
  (Gives.lift (Site.enter_eq hs h.isPlain) rfl).bind fun _ ha => by
    subst ha
    exact h.reads _ (hs.withContents v) rfl fuel hfuel

/-! ## Keywords -/

theorem KeywordsMean.nil : KeywordsMean o level siblings [] [] := by
  intro s hs fuel hfuel
  rw [List.mapM_nil]
  exact Gives.pure fun _ _ => .nil

theorem KeywordsMean.cons {key : String} {v : Json} {ks ls : List Keyword} (h : KeywordMeans o level siblings key v ks)
    (hrest : KeywordsMean o level siblings members ls) :
    KeywordsMean o level siblings ((key, v) :: members) (ks ++ ls) := by
  intro s hs fuel hfuel
  rw [List.mapM_cons]
  refine (h s hs fuel hfuel).bind fun k hk => (hrest s hs fuel hfuel).bind fun read hread => Gives.pure ?_
  intro steps hsteps
  have hsplit : (k :: read).filterMap id = k.toList ++ read.filterMap id := by cases k <;> rfl
  rw [hsplit]
  exact (hk steps hsteps).append (hread steps hsteps)

theorem Means.object {ks : List Keyword} (hplain : IsPlain (.object members))
    (hreference : Json.lookup "$ref" members = none) (h : KeywordsMean o level members members ks) :
    Means o (level + 1) (.object members) (.all ks) where
  isObject := ⟨members, rfl⟩
  isPlain := hplain
  reads := by
    intro s hs hv fuel hfuel
    obtain ⟨fuel, rfl⟩ : ∃ n, fuel = n + 1 := ⟨fuel - 1, by omega⟩
    rw [Reader.readSite, hv]
    simp only [Reader.keywordsOf, hreference]
    refine (h s hs fuel (by omega)).bind fun read hread => Gives.pure fun steps hsteps => ?_
    exact (hread steps (by omega)).all

/-- Keys that are dealt with without reading schemas. -/
def simpleKeys : List String :=
  ["$schema", "title", "definitions", "type", "enum", "required", "minProperties", "pattern", "then", "else"]

theorem readKeyword_simple {s : Site} (hs : s.IsHome) (readSite : Site → Reading Schema) {key : String} (v : Json)
    (hkey : key ∈ simpleKeys) :
    Reader.readKeyword o s readSite siblings key v = liftM (Reader.simpleKeyword o .draft7 siblings key v) := by
  obtain ⟨contents, base, scopes, edition, limited⟩ := s
  obtain ⟨rfl, rfl, rfl⟩ := hs
  simp only [simpleKeys, List.mem_cons, List.not_mem_nil, or_false] at hkey
  rcases hkey with rfl | rfl | rfl | rfl | rfl | rfl | rfl | rfl | rfl | rfl <;> rfl

theorem KeywordMeans.simple {key : String} {v : Json} {k : Option Keyword} {ks : List Keyword}
    (hkey : key ∈ simpleKeys) (hk : Reader.simpleKeyword o .draft7 siblings key v = .ok k)
    (hks : ∀ f, KeywordsAgree f .nowhere k.toList ks) :
    KeywordMeans o level siblings key v ks := by
  intro s hs fuel _
  rw [readKeyword_simple hs _ _ hkey]
  exact Gives.lift hk fun steps _ => hks _

namespace KeywordMeans

/-- Keywords that say nothing about a value. -/
theorem silent {key : String} {v : Json} (hkey : key ∈ ["$schema", "title", "definitions", "then", "else"]) :
    KeywordMeans o level siblings key v [] := by
  simp only [List.mem_cons, List.not_mem_nil, or_false] at hkey
  rcases hkey with rfl | rfl | rfl | rfl | rfl <;> exact .simple (by decide) rfl fun _ => .nil

theorem type (kind : Kind) : KeywordMeans o level siblings "type" (.string kind.name) [.kinds [kind]] := by
  refine .simple (k := some (.kinds [kind])) (by decide) ?_ fun _ => .singleton fun _ _ => rfl
  cases kind <;> rfl

theorem enum (options : List Json) : KeywordMeans o level siblings "enum" (.array options) [.listed options] :=
  .simple (k := some (.listed options)) (by decide) rfl fun _ => .singleton fun _ _ => rfl

theorem names_texts (names : List String) : Operand.names (.array (names.map Json.string)) = .ok names := by
  show (names.map Json.string).mapM Operand.text = .ok names
  induction names with
  | nil => rfl
  | cons name names ih =>
    rw [List.map_cons, List.mapM_cons, ih]
    rfl

theorem required (names : List String) :
    KeywordMeans o level siblings "required" (.array (names.map Json.string)) [.required names] := by
  refine .simple (k := some (.required names)) (by decide) ?_ fun _ => .singleton fun _ _ => rfl
  show ((Operand.names _).map Keyword.required).map some = _
  rw [names_texts]
  rfl

theorem minProperties (least : Nat) :
    KeywordMeans o level siblings "minProperties" (.ofNat least) [.minMembers least] :=
  .simple (k := some (.minMembers least)) (by decide) rfl fun _ => .singleton fun _ _ => rfl

theorem pattern {source : String} {p q : Pattern} (hread : Pattern.Search.read? source.toList = some (.plain p))
    (hsame : ∀ text : List Char, p.isFoundIn text = q.isFoundIn text) :
    KeywordMeans o level siblings "pattern" (.string source) [.pattern source (.plain q)] := by
  refine .simple (k := some (.pattern source (.plain p))) (by decide) ?_ fun _ => keywordsAgree_pattern source hsame
  show (do return some (Keyword.pattern source (← Reader.readPattern (.string source) source)) : Except _ _) = _
  rw [Reader.readPattern, hread]
  rfl

/-- Where other members are restricted, the keywords for members are dealt with there. -/
theorem restricted {key : String} {v : Json} (hkey : key = "properties" ∨ key = "patternProperties")
    (hothers : Reader.restrictsOthers siblings = true) : KeywordMeans o level siblings key v [] := by
  intro s hs fuel _
  have hread : Reader.readKeyword o s (Reader.readSite o fuel) siblings key v = Pure.pure none := by
    obtain ⟨contents, base, scopes, edition, limited⟩ := s
    obtain ⟨rfl, rfl, rfl⟩ := hs
    rcases hkey with rfl | rfl
    · show (if Reader.restrictsOthers siblings then Pure.pure none else _) = _
      rw [if_pos hothers]
    · show (if Reader.restrictsOthers siblings then Pure.pure none else _) = _
      rw [if_pos hothers]
  rw [hread]
  exact Gives.pure fun _ _ => .nil

end KeywordMeans

/-! ## Keywords with schemas in them -/

theorem gives_readMembers {named : List (String × Schema)} (h : MembersMean o level members named) {s : Site}
    (hs : s.IsHome) {fuel : Nat} (hfuel : level ≤ fuel) :
    Gives (Reader.readMembers (partsAt o fuel s) (.object members))
      (List.Forall₂ (fun m n => m.1 = n.1 ∧ AgreesAt o level m.2 n.2) · named) := by
  refine (Gives.lift rfl rfl).bind fun _ ha => ?_
  subst ha
  refine Gives.mapM h fun m n hmn => ?_
  exact (hmn.2.part hs hfuel).bind fun a ha => Gives.pure ⟨hmn.1, ha⟩

theorem gives_readPatterns {matching : List (Pattern.Search × Schema)} (h : PatternsMean o level members matching)
    {s : Site} (hs : s.IsHome) {fuel : Nat} (hfuel : level ≤ fuel) :
    Gives (Reader.readPatterns (partsAt o fuel s) (.object members))
      (List.Forall₂ (fun m n => m.1 = n.1 ∧ AgreesAt o level m.2 n.2) · matching) := by
  refine (Gives.lift rfl rfl).bind fun _ ha => ?_
  subst ha
  refine Gives.mapM h fun m n hmn => ?_
  have hpattern : Reader.readPattern m.2 m.1 = .ok n.1 := by rw [Reader.readPattern, hmn.1]
  refine (Gives.lift hpattern rfl).bind fun _ hp => ?_
  subst hp
  exact (hmn.2.part hs hfuel).bind fun a ha => Gives.pure ⟨rfl, ha⟩

/-- What agrees for many steps agrees for each number of them. -/
theorem membersAgree_of_forall₂ {α : Type} {ms ns : List (α × Schema)} {steps : Nat} (hsteps : level ≤ steps)
    (h : List.Forall₂ (fun m n => m.1 = n.1 ∧ AgreesAt o level m.2 n.2) ms ns) :
    MembersAgree (o.follow steps) .nowhere ms ns :=
  h.imp fun _ _ hmn => ⟨hmn.1, hmn.2 steps hsteps⟩

/-- The sibling with a key, if there is one, is an object with certain members. -/
def SiblingIs (siblings : List (String × Json)) (key : String) (members : List (String × Json)) : Prop :=
  Json.lookup key siblings = some (.object members) ∨ Json.lookup key siblings = none ∧ members = []

theorem gives_readMemberSibling {α : Type} {read : Json → Reading (List α)} {key : String} {P : List α → Prop}
    (hsibling : SiblingIs siblings key members) (hread : Gives (read (.object members)) P)
    (hempty : members = [] → P []) : Gives (Reader.readMemberSibling read siblings key) P := by
  rcases hsibling with hsome | ⟨hnone, hmembers⟩
  · rw [Reader.readMemberSibling, hsome]
    exact hread
  · rw [Reader.readMemberSibling, hnone]
    exact Gives.pure (hempty hmembers)

namespace KeywordMeans

theorem properties {named : List (String × Schema)} (hothers : Reader.restrictsOthers siblings = false)
    (h : MembersMean o level members named) :
    KeywordMeans o level siblings "properties" (.object members) [.named named] := by
  intro s hs fuel hfuel
  have hread : Reader.readKeyword o s (Reader.readSite o fuel) siblings "properties" (.object members) = (do
      return some (.named (← Reader.readMembers (partsAt o fuel s)
        (.object members)))) := by
    obtain ⟨contents, base, scopes, edition, limited⟩ := s
    obtain ⟨rfl, rfl, rfl⟩ := hs
    show (if Reader.restrictsOthers siblings then Pure.pure none else _) = _
    rw [hothers]
    rfl
  rw [hread]
  refine (gives_readMembers h hs hfuel).bind fun ms hms => Gives.pure fun steps hsteps => ?_
  exact keywordsAgree_named (membersAgree_of_forall₂ hsteps hms)

theorem readKeyword_additionalProperties {s : Site} (hs : s.IsHome) (readSite : Site → Reading Schema) (v : Json) :
    Reader.readKeyword o s readSite siblings "additionalProperties" v =
      Reader.readOthers (fun v => do readSite (← s.enter v)) siblings v := by
  obtain ⟨contents, base, scopes, edition, limited⟩ := s
  obtain ⟨rfl, rfl, rfl⟩ := hs
  rfl

/-- No other members. -/
theorem closed {patterns : List (String × Json)} {named : List (String × Schema)}
    {matching : List (Pattern.Search × Schema)} (hnamed : SiblingIs siblings "properties" members)
    (hpatterns : Json.lookup "patternProperties" siblings = some (.object patterns))
    (hmembers : MembersMean o level members named) (hmatching : PatternsMean o level patterns matching) :
    KeywordMeans o level siblings "additionalProperties" (.bool false) [.closed named matching] := by
  intro s hs fuel hfuel
  rw [readKeyword_additionalProperties hs]
  refine (gives_readMemberSibling (.inl hpatterns) (gives_readPatterns hmatching hs hfuel) ?_).bind fun ps hps => ?_
  · rintro rfl
    cases hmatching
    exact .nil
  refine (gives_readMemberSibling hnamed (gives_readMembers hmembers hs hfuel) ?_).bind fun ms hms => ?_
  · rintro rfl
    cases hmembers
    exact .nil
  rw [hpatterns]
  simp only [Option.isNone_some, Bool.and_false]
  exact Gives.pure fun steps hsteps =>
    keywordsAgree_closed (membersAgree_of_forall₂ hsteps hms) (membersAgree_of_forall₂ hsteps hps)

/-- A schema for all members. -/
theorem others {v : Json} {t : Schema} (hnamed : Json.lookup "properties" siblings = none)
    (hpatterns : Json.lookup "patternProperties" siblings = none) (h : Means o level v t) :
    KeywordMeans o level siblings "additionalProperties" v [.members [] [] t] := by
  intro s hs fuel hfuel
  obtain ⟨parts, rfl⟩ := h.isObject
  rw [readKeyword_additionalProperties hs]
  have hread (read : ReadPart) : Reader.readOthers read siblings (.object parts) = (do
      return some (.members [] [] (← read (.object parts)))) := by
    rw [Reader.readOthers, Reader.readMemberSibling, Reader.readMemberSibling, hnamed, hpatterns]
    rfl
  rw [hread]
  refine (h.part hs hfuel).bind fun s' hs' => Gives.pure fun steps hsteps => ?_
  exact keywordsAgree_members .nil .nil (hs' steps hsteps)

theorem items {v : Json} {t : Schema} (hfirst : Json.lookup "prefixItems" siblings = none) (h : Means o level v t) :
    KeywordMeans o level siblings "items" v [.itemsFrom 0 t] := by
  intro s hs fuel hfuel
  obtain ⟨parts, rfl⟩ := h.isObject
  have hread : Reader.readKeyword o s (Reader.readSite o fuel) siblings "items" (.object parts) =
      Reader.readElements (partsAt o fuel s) siblings (.object parts) := by
    obtain ⟨contents, base, scopes, edition, limited⟩ := s
    obtain ⟨rfl, rfl, rfl⟩ := hs
    rfl
  rw [hread, Reader.readElements, Reader.firstCount, hfirst]
  exact (h.part hs hfuel).bind fun s' hs' => Gives.pure fun steps hsteps => keywordsAgree_itemsFrom 0 (hs' steps hsteps)

theorem anyOf {vs : List Json} {ts : List Schema} (h : List.Forall₂ (Means o level) vs ts) :
    KeywordMeans o level siblings "anyOf" (.array vs) [.anyOf ts] := by
  intro s hs fuel hfuel
  have hread : Reader.readKeyword o s (Reader.readSite o fuel) siblings "anyOf" (.array vs) = (do
      return some (.anyOf (← vs.mapM (partsAt o fuel s)))) := by
    obtain ⟨contents, base, scopes, edition, limited⟩ := s
    obtain ⟨rfl, rfl, rfl⟩ := hs
    rfl
  rw [hread]
  refine (Gives.mapM h fun v t hvt => hvt.part hs hfuel).bind fun ss hss => Gives.pure fun steps hsteps => ?_
  exact keywordsAgree_anyOf (hss.imp fun _ _ hst => hst steps hsteps)

/-- One schema or another one, as a test goes. -/
theorem conditional {test yes no : Json} {test' yes' no' : Schema} (hyes : Json.lookup "then" siblings = some yes)
    (hno : Json.lookup "else" siblings = some no) (htest : Means o level test test') (hyes' : Means o level yes yes')
    (hno' : Means o level no no') :
    KeywordMeans o level siblings "if" test [.conditional test' yes' no'] := by
  intro s hs fuel hfuel
  have hread : Reader.readKeyword o s (Reader.readSite o fuel) siblings "if" test = (do
      let test ← partsAt o fuel s test
      let yes ← partsAt o fuel s yes
      return some (.conditional test yes (← partsAt o fuel s no))) := by
    have hused : (!((Json.lookup "then" siblings).isSome || (Json.lookup "else" siblings).isSome)) = false := by
      rw [hyes]
      rfl
    obtain ⟨contents, base, scopes, edition, limited⟩ := s
    obtain ⟨rfl, rfl, rfl⟩ := hs
    show (if !((Json.lookup "then" siblings).isSome || (Json.lookup "else" siblings).isSome) then _ else do
      let test ← partsAt o fuel _ test
      let yes ← Reader.readSibling (partsAt o fuel _) siblings "then"
      return some (Keyword.conditional test yes (← Reader.readSibling (partsAt o fuel _) siblings "else"))) = _
    rw [hused, Reader.readSibling, hyes, Reader.readSibling, hno]
    rfl
  rw [hread]
  refine (htest.part hs hfuel).bind fun a ha => (hyes'.part hs hfuel).bind fun b hb => (hno'.part hs hfuel).bind
    fun c hc => Gives.pure fun steps hsteps => ?_
  exact keywordsAgree_conditional (ha steps hsteps) (hb steps hsteps) (hc steps hsteps)

end KeywordMeans

end CatalogGate.Schema
