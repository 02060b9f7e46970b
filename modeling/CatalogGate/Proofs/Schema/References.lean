-- The laws of references to the definitions of a document. A reference means what the definition means, whether it is
-- followed while reading or, where it occurs again, only when a value comes there.
import CatalogGate.Proofs.Schema.Reading

namespace CatalogGate.Schema

variable {o : Origin} {level : Nat}

/-- A reference leads to a text from every site at home. -/
structure LeadsTo (o : Origin) (reference : String) (v : Json) : Prop where
  isIdentifier : ∃ identifier, Registry.beside Registry.home reference.toList = .ok identifier
  leads : ∀ s : Site, s.IsHome →
    ∃ target : Site, o.registry.lookup s reference.toList = .ok target ∧ target.IsHome ∧ target.contents = v

/-- A place that has a meaning may as well be followed one step later. -/
theorem Means.follow {v : Json} {t : Schema} (h : Means o level v t) (hlevel : level ≤ o.fuel) {target : Site}
    (htarget : target.IsHome) (hv : target.contents = v) {steps : Nat} (hsteps : level + 1 ≤ steps) :
    KeywordsAgree (o.follow steps) .nowhere [.follow target] [.reference t] := by
  obtain ⟨steps, rfl⟩ : ∃ n, steps = n + 1 := ⟨steps - 1, by omega⟩
  obtain ⟨s, known, hrun, hs⟩ := h.reads target htarget hv o.fuel hlevel []
  have hread : o.read target = .ok s := by
    rw [Origin.read, hrun]
    rfl
  refine .singleton fun w path => ?_
  rw [keywordViolation, keywordViolation, ← hs steps (by omega) w path]
  simp only [Origin.follow, hread]

theorem gives_readReference {v : Json} {t : Schema} {reference : String} (h : Means o level v t)
    (hlevel : level ≤ o.fuel) (hleads : LeadsTo o reference v)
    (hother : Layout.textMember? "$ref" v ≠ some reference.toList) {s target : Site} (hs : s.IsHome)
    (htarget : target.IsHome) (hv : target.contents = v) {fuel : Nat} (hfuel : level ≤ fuel) :
    Gives (Reader.readReference (Reader.readSite o fuel) s target reference.toList) fun k =>
      ∀ steps, level + 1 ≤ steps → KeywordsAgree (o.follow steps) .nowhere k.toList [.reference t] := by
  obtain ⟨identifier, hidentifier⟩ := hleads.isIdentifier
  rw [← hs.base] at hidentifier
  intro known
  rw [Reader.readReference, hidentifier]
  by_cases hknown : reference.toList = ['#'] ∨ identifier ∈ known
  · refine ⟨some (.follow target), known, ?_, fun steps hsteps => h.follow hlevel htarget hv hsteps⟩
    have htest : (reference.toList = ['#'] || known.contains identifier) = true := by simpa using hknown
    show StateT.run (if reference.toList = ['#'] || known.contains identifier then _ else _) known = _
    rw [if_pos htest]
    rfl
  · obtain ⟨a, known', hrun, ha⟩ := h.reads target htarget hv fuel hfuel (identifier :: known)
    refine ⟨some (.reference a), known', ?_, fun steps hsteps => keywordsAgree_reference (ha steps (by omega))⟩
    have htest : ¬ (reference.toList = ['#'] || known.contains identifier) = true := by simpa using hknown
    show StateT.run (if reference.toList = ['#'] || known.contains identifier then _ else _) known = _
    rw [if_neg htest]
    show StateT.run (if Layout.textMember? "$ref" target.contents = some reference.toList then _ else _)
      (identifier :: known) = _
    rw [if_neg (hv ▸ hother), StateT.run_bind, hrun]
    rfl

/-- A schema that is a reference is read as the one keyword. -/
theorem readSite_reference {reference : String} {s target : Site} (hs : s.IsHome)
    (hv : s.contents = .object [("$ref", .string reference)])
    (htarget : Reader.target o s "$ref" reference.toList = .ok target) (fuel : Nat) :
    Reader.readSite o (fuel + 1) s = (do
      let k ← Reader.readReference (Reader.readSite o fuel) s target reference.toList
      return .all ([k].filterMap id)) := by
  have hkeywords : Reader.keywordsOf s.edition [("$ref", Json.string reference)] = [("$ref", .string reference)] := by
    rw [hs.edition]
    rfl
  have hkeyword (siblings : List (String × Json)) :
      Reader.readKeyword o s (Reader.readSite o fuel) siblings "$ref" (.string reference) =
        Reader.readReference (Reader.readSite o fuel) s target reference.toList := by
    show (do
      let target ← liftM (Reader.target o s "$ref" reference.toList)
      Reader.readReference (Reader.readSite o fuel) s target reference.toList : Reading _) = _
    rw [htarget]
    rfl
  rw [Reader.readSite, hv]
  simp only [hkeywords, List.mapM_cons, List.mapM_nil, hkeyword, bind_assoc, pure_bind]

theorem LeadsTo.target {v : Json} {reference : String} (h : LeadsTo o reference v) {s : Site} (hs : s.IsHome) :
    ∃ target : Site, Reader.target o s "$ref" reference.toList = .ok target ∧ target.IsHome ∧ target.contents = v := by
  obtain ⟨identifier, hidentifier⟩ := h.isIdentifier
  obtain ⟨target, hlookup, htarget, hv⟩ := h.leads s hs
  refine ⟨target, ?_, htarget, hv⟩
  rw [Reader.target, hs.base, hidentifier]
  exact hlookup

theorem Means.reference {v : Json} {t : Schema} {reference : String} (h : Means o level v t) (hlevel : level ≤ o.fuel)
    (hleads : LeadsTo o reference v) (hother : Layout.textMember? "$ref" v ≠ some reference.toList) :
    Means o (level + 1) (.object [("$ref", .string reference)]) t where
  isObject := ⟨_, rfl⟩
  isPlain := ⟨rfl, rfl⟩
  reads := by
    intro s hs hv fuel hfuel
    obtain ⟨fuel, rfl⟩ : ∃ n, fuel = n + 1 := ⟨fuel - 1, by omega⟩
    obtain ⟨target, htarget, hhome, hcontents⟩ := hleads.target hs
    rw [readSite_reference hs hv htarget]
    refine (gives_readReference h hlevel hleads hother hs hhome hcontents (by omega)).bind fun k hk =>
      Gives.pure fun steps hsteps => ?_
    have hkeyword : [k].filterMap id = k.toList := by cases k <;> rfl
    rw [hkeyword]
    refine (hk steps hsteps).all.trans fun w path => ?_
    simp only [violations, keywordViolations, keywordViolation, List.append_nil]

/-! ## Definitions -/

/-- The document at home has certain definitions. -/
def Defines (o : Origin) (definitions : List (String × Json)) : Prop :=
  ∃ text, o.registry.resource? Registry.home = some ⟨text, .draft7⟩ ∧
    text.get? "definitions" = some (.object definitions)

/-- What a reference to a definition with a name needs: the name stands for itself. -/
structure IsDefinable (name : String) : Prop where
  isIdentifier : ∃ identifier, Registry.beside Registry.home ("#/definitions/" ++ name).toList = .ok identifier
  tokens : Registry.tokens ("/definitions/" ++ name).toList = .ok ["definitions".toList, name.toList]
  unescaped : Json.Pointer.unescape name.toList = name.toList

theorem step_of_get? {v w : Json} {key : String} {token pointer : List Char}
    (hkey : String.ofList (Json.Pointer.unescape token) = key) (hw : v.get? key = some w) :
    Registry.step pointer v token = .ok w := by
  cases v with
  | object members => simp only [Registry.step, hkey, hw]
  | array items => cases hw
  | _ => cases hw

/-- A step to a value that has no identifier. -/
theorem walk_cons {pointer token : List Char} {e : Edition} {s : Site} {v : Json} {keys : List String}
    {rest : List (List Char)} (hstep : Registry.step pointer s.contents token = .ok v)
    (hname : Layout.isSchemaPath e v (keys ++ [String.ofList (Json.Pointer.unescape token)]) = true →
      Layout.identifier? e v = none) :
    Registry.walk pointer e s keys (token :: rest) =
      Registry.walk pointer e { s with contents := v } (keys ++ [String.ofList (Json.Pointer.unescape token)])
        rest := by
  have hnone : (if Layout.isSchemaPath e v (keys ++ [String.ofList (Json.Pointer.unescape token)])
      then Layout.identifier? e v else none) = none := by
    split
    · next h => exact hname h
    · rfl
  rw [Registry.walk, hstep]
  simp only [bind, Except.bind, hnone]

theorem walk_definition {v : Json} {definitions : List (String × Json)} {name : String} {s : Site}
    (hdefinitions : s.contents.get? "definitions" = some (.object definitions))
    (hv : Json.lookup name definitions = some v) (hplain : IsPlain v)
    (hname : Json.Pointer.unescape name.toList = name.toList) (pointer : List Char) :
    Registry.walk pointer .draft7 s [] ["definitions".toList, name.toList] = .ok { s with contents := v } := by
  have hthere : Registry.step pointer s.contents "definitions".toList = .ok (.object definitions) :=
    step_of_get? (by decide) hdefinitions
  have hthere' : Registry.step pointer (.object definitions) name.toList = .ok v :=
    step_of_get? (by rw [hname, String.ofList_toList]) hv
  have houtside : Layout.isSchemaPath .draft7 (.object definitions)
      ([] ++ [String.ofList (Json.Pointer.unescape "definitions".toList)]) = false := rfl
  rw [walk_cons hthere fun h => absurd h (Bool.eq_false_iff.mp houtside),
    walk_cons hthere' fun _ => hplain.identifier, Registry.walk]

theorem lookup_pointer {text : Json} {pointer : List Char} {tokens : List (List Char)} {s target : Site}
    (hs : s.IsHome) (hhome : o.registry.resource? Registry.home = some ⟨text, .draft7⟩)
    (htokens : Registry.tokens ('/' :: pointer) = .ok tokens)
    (hwalk : Registry.walk ('/' :: pointer) .draft7 { s.moved Registry.home with contents := text, edition := .draft7 }
      [] tokens = .ok target) :
    o.registry.lookup s ('#' :: '/' :: pointer) = .ok target.arrived := by
  obtain ⟨contents, base, scopes, edition, limited⟩ := s
  obtain ⟨rfl, rfl, rfl⟩ := hs
  unfold Registry.lookup
  simp only [List.head?_cons, if_true, pure_bind]
  rw [hhome]
  show (Registry.tokens ('/' :: pointer) >>= fun tokens =>
    Registry.walk ('/' :: pointer) .draft7 _ [] tokens >>= fun target => Except.ok target.arrived) = _
  rw [htokens]
  show (Registry.walk ('/' :: pointer) .draft7 _ [] tokens >>= fun target => Except.ok target.arrived) = _
  rw [hwalk]
  rfl

theorem LeadsTo.definition {v : Json} {definitions : List (String × Json)} {name : String}
    (hdefines : Defines o definitions) (hv : Json.lookup name definitions = some v) (hplain : IsPlain v)
    (hname : IsDefinable name) :
    LeadsTo o ("#/definitions/" ++ name) v where
  isIdentifier := hname.isIdentifier
  leads := by
    intro s hs
    obtain ⟨text, hhome, hdefinitions⟩ := hdefines
    have hfragment : ("/definitions/" ++ name).toList = '/' :: ("definitions/" ++ name).toList := by
      simp [String.toList_append]
    have hreference : ("#/definitions/" ++ name).toList = '#' :: '/' :: ("definitions/" ++ name).toList := by
      simp [String.toList_append]
    have htokens := hname.tokens
    rw [hfragment] at htokens
    have htarget : Site.IsHome { s.moved Registry.home with contents := v, edition := .draft7 } :=
      ⟨rfl, rfl, hs.limited⟩
    refine ⟨_, ?_, htarget, rfl⟩
    rw [hreference, lookup_pointer hs hhome htokens (walk_definition hdefinitions hv hplain hname.unescaped _),
      Site.arrived_eq htarget hplain]

/-- A reference to a definition means what the definition means. -/
theorem Means.definition {v : Json} {t : Schema} {definitions : List (String × Json)} {name : String}
    (h : Means o level v t) (hlevel : level ≤ o.fuel) (hdefines : Defines o definitions) (hname : IsDefinable name)
    (hv : Json.lookup name definitions = some v) (hother : v.get? "$ref" = none) :
    Means o (level + 1) (.object [("$ref", .string ("#/definitions/" ++ name))]) t := by
  refine h.reference hlevel (.definition hdefines hv h.isPlain hname) ?_
  rw [Layout.textMember?, hother]
  exact nofun

end CatalogGate.Schema
