-- What holds of lists that are walked through: with a function that can fail, up to the first element of a kind, or
-- filtered first.
import Mathlib.Data.List.Forall2
import Mathlib.Data.List.TakeWhile

namespace CatalogGate

/-! ## Functions that can fail -/

theorem bind_eq_ok_iff {α β ε : Type} {x : Except ε α} {f : α → Except ε β} {r : β} :
    (x >>= f) = .ok r ↔ ∃ a, x = .ok a ∧ f a = .ok r := by
  constructor
  · intro h
    cases x with
    | error e => exact nomatch h
    | ok a => exact ⟨a, rfl, h⟩
  · rintro ⟨a, rfl, h⟩
    exact h

theorem exists_of_isOk {α ε : Type} {x : Except ε α} (h : x.isOk = true) : ∃ a, x = .ok a := by
  cases x with
  | error e => cases h
  | ok a => exact ⟨a, rfl⟩

theorem eq_ok_of_toOption {α ε : Type} {x : Except ε α} {a : α} (h : x.toOption = some a) : x = .ok a := by
  cases x with
  | error e => cases h
  | ok b => exact congrArg Except.ok (Option.some.inj h)

theorem map_eq_ok_iff {α β ε : Type} {x : Except ε α} {f : α → β} {r : β} :
    f <$> x = .ok r ↔ ∃ a, x = .ok a ∧ f a = r := by
  cases x <;> simp [Functor.map, Except.map]

theorem mapError_eq_ok_iff {α ε ε' : Type} {x : Except ε α} {f : ε → ε'} {a : α} :
    x.mapError f = .ok a ↔ x = .ok a := by
  cases x <;> simp [Except.mapError]

/-- A traversal succeeds exactly if every element does, and gives their results in order. -/
theorem mapM_eq_ok_iff {α β ε : Type} {f : α → Except ε β} {l : List α} {r : List β} :
    l.mapM f = .ok r ↔ List.Forall₂ (fun a b => f a = .ok b) l r := by
  induction l generalizing r with
  | nil =>
    rw [List.mapM_nil, List.forall₂_nil_left_iff]
    exact ⟨fun h => (Except.ok.inj h).symm, fun h => h ▸ rfl⟩
  | cons a l ih =>
    rw [List.mapM_cons, List.forall₂_cons_left_iff]
    simp only [bind_eq_ok_iff, ih]
    constructor
    · rintro ⟨b, ha, bs, hl, heq⟩
      exact ⟨b, bs, ha, hl, (Except.ok.inj heq).symm⟩
    · rintro ⟨b, bs, ha, hl, rfl⟩
      exact ⟨b, ha, bs, hl, rfl⟩

/-- What holds of each result holds of all that a traversal gives. -/
theorem forall_mem_of_mapM_eq_ok {α β ε : Type} {f : α → Except ε β} {property : β → Prop} {l : List α} {r : List β}
    (h : l.mapM f = .ok r) (hf : ∀ a ∈ l, ∀ b, f a = .ok b → property b) : ∀ b ∈ r, property b := by
  replace h := mapM_eq_ok_iff.mp h
  induction h with
  | nil => simp
  | @cons a b _ _ hab _ ih =>
    rw [List.forall_mem_cons] at hf ⊢
    exact ⟨hf.1 b hab, ih hf.2⟩

/-- A traversal fails with the first element that does. -/
theorem mapM_eq_error_iff {α β ε : Type} {f : α → Except ε β} {l : List α} {e : ε} :
    l.mapM f = .error e ↔
      ∃ before a after, l = before ++ a :: after ∧ (∀ x ∈ before, ∃ b, f x = .ok b) ∧ f a = .error e := by
  induction l with
  | nil =>
    rw [List.mapM_nil]
    constructor
    · intro h
      exact nomatch h
    · rintro ⟨before, a, after, heq, _⟩
      simp at heq
  | cons a l ih =>
    rw [List.mapM_cons]
    rcases ha : f a with e' | b
    · constructor
      · intro h
        obtain rfl : e' = e := Except.error.inj h
        exact ⟨[], a, l, rfl, by simp, ha⟩
      · rintro ⟨before, a', after, heq, hbefore, ha'⟩
        cases before with
        | nil =>
          obtain ⟨rfl, rfl⟩ := List.cons.inj heq
          obtain rfl : e' = e := Except.error.inj (ha.symm.trans ha')
          rfl
        | cons x before =>
          obtain ⟨rfl, rfl⟩ := List.cons.inj heq
          obtain ⟨b, hb⟩ := hbefore a List.mem_cons_self
          exact nomatch ha.symm.trans hb
    · have hrest : ((Except.ok b : Except ε β) >>= fun b => l.mapM f >>= fun bs => pure (b :: bs)) = .error e ↔
          l.mapM f = .error e := by
        rcases l.mapM f with e' | bs
        · exact Iff.rfl
        · exact ⟨nofun, nofun⟩
      rw [hrest, ih]
      constructor
      · rintro ⟨before, a', after, rfl, hbefore, ha'⟩
        exact ⟨a :: before, a', after, rfl, List.forall_mem_cons.mpr ⟨⟨b, ha⟩, hbefore⟩, ha'⟩
      · rintro ⟨before, a', after, heq, hbefore, ha'⟩
        cases before with
        | nil =>
          obtain ⟨rfl, rfl⟩ := List.cons.inj heq
          exact nomatch ha.symm.trans ha'
        | cons x before =>
          obtain ⟨rfl, rfl⟩ := List.cons.inj heq
          exact ⟨before, a', after, rfl, fun y hy => hbefore y (List.mem_cons_of_mem a hy), ha'⟩

/-- To take in each result as soon as it is there is to take them all in at the end. -/
theorem foldlM_map_eq {m : Type → Type} [Monad m] [LawfulMonad m] {α β γ : Type} (f : α → m β) (g : γ → β → γ)
    (l : List α) (start : γ) :
    l.foldlM (fun s a => g s <$> f a) start = (fun bs => bs.foldl g start) <$> l.mapM f := by
  induction l generalizing start with
  | nil => simp
  | cons a l ih => simp [ih]

/-! ## Elements of a kind -/

theorem takeWhile_append_of_head {α : Type} {p : α → Bool} {l rest : List α} (hl : ∀ a ∈ l, p a = true)
    (hrest : ∀ a, rest.head? = some a → p a = false) : (l ++ rest).takeWhile p = l := by
  rw [List.takeWhile_append_of_pos hl]
  cases rest with
  | nil => simp
  | cons a rest => simp [hrest a rfl]

theorem dropWhile_append_of_head {α : Type} {p : α → Bool} {l rest : List α} (hl : ∀ a ∈ l, p a = true)
    (hrest : ∀ a, rest.head? = some a → p a = false) : (l ++ rest).dropWhile p = rest := by
  rw [List.dropWhile_append_of_pos hl]
  cases rest with
  | nil => rfl
  | cons a rest => simp [hrest a rfl]

/-- A list of results is the list of the results of some list. -/
theorem forall_exists_eq_iff {α β : Type} {f : α → β} {property : α → Prop} {l : List β} :
    (∀ b ∈ l, ∃ a, b = f a ∧ property a) ↔ ∃ origins : List α, l = origins.map f ∧ ∀ a ∈ origins, property a := by
  constructor
  · intro h
    induction l with
    | nil => exact ⟨[], rfl, List.forall_mem_nil _⟩
    | cons b l ih =>
      obtain ⟨⟨a, rfl, ha⟩, hrest⟩ := List.forall_mem_cons.mp h
      obtain ⟨origins, rfl, horigins⟩ := ih hrest
      exact ⟨a :: origins, rfl, List.forall_mem_cons.mpr ⟨ha, horigins⟩⟩
  · rintro ⟨origins, rfl, horigins⟩
    exact List.forall_mem_map.mpr fun a ha => ⟨a, rfl, horigins a ha⟩

theorem exists_forall₂ {α β : Type} {r : α → β → Prop} {l : List α} (h : ∀ a ∈ l, ∃ b, r a b) :
    ∃ m, List.Forall₂ r l m := by
  induction l with
  | nil => exact ⟨[], .nil⟩
  | cons a l ih =>
    obtain ⟨⟨b, hb⟩, hrest⟩ := List.forall_mem_cons.mp h
    obtain ⟨m, hm⟩ := ih hrest
    exact ⟨b :: m, .cons hb hm⟩

/-- Two lists that go together element by element are two views of one list. -/
theorem exists_views {α β γ : Type} {f : γ → α} {g : γ → β} {property : γ → Prop} {l : List α} {m : List β}
    (h : List.Forall₂ (fun a b => ∃ c, property c ∧ f c = a ∧ g c = b) l m) :
    ∃ whole : List γ, (∀ c ∈ whole, property c) ∧ whole.map f = l ∧ whole.map g = m := by
  induction h with
  | nil => exact ⟨[], List.forall_mem_nil _, rfl, rfl⟩
  | cons hfirst _ ih =>
    obtain ⟨c, hc, rfl, rfl⟩ := hfirst
    obtain ⟨whole, hwhole, rfl, rfl⟩ := ih
    exact ⟨c :: whole, List.forall_mem_cons.mpr ⟨hc, hwhole⟩, rfl, rfl⟩

theorem flatMap_filter {α β : Type} (l : List α) (p : α → Bool) (f : α → List β) :
    (l.filter p).flatMap f = l.flatMap fun a => if p a then f a else [] := by
  induction l with
  | nil => rfl
  | cons a l ih => by_cases h : p a = true <;> simp [h, ih]

end CatalogGate
