-- The law of walking an outline, whatever text it was read from. What is nested under an entry is one stretch behind it,
-- and the walk along a path goes from each stretch into one that lies in it.
import CatalogGate.Proofs.Document.Addresses
import CatalogGate.Proofs.Document.Descent
import CatalogGate.Proofs.Document.Reading

namespace CatalogGate

theorem Position.zero_le (p : Position) : zero ≤ p := by
  rw [le_iff]
  show 0 < p.line ∨ (0 = p.line ∧ 0 ≤ p.character)
  omega

namespace Outline

open Document

variable {o : Outline}

/-! ## Subtrees -/

theorem isNested_trans {a b c : Entry} (hab : isNested a b = true) (hbc : isNested b c = true) :
    isNested a c = true := by
  have hle := column_le_of_isNested hbc
  rw [isNested_iff] at *
  rcases hab with hlt | ⟨_, hcolumn, hitem⟩
  · exact Or.inl (Nat.lt_of_lt_of_le hlt hle)
  · -- An item at the column of its key has nothing at that column nested under it.
    rcases hbc with hlt | ⟨hkey, _⟩
    · exact Or.inl (hcolumn ▸ hlt)
    · exact absurd hitem hkey

/-- Entry `k` is nested under entry `i`, wherever they stand. -/
def Nests (o : Outline) (i k : Nat) : Prop :=
  ∃ owner e, o.entries[i]? = some owner ∧ o.entries[k]? = some e ∧ isNested owner e = true

theorem Nests.trans {i j k : Nat} (hij : o.Nests i j) (hjk : o.Nests j k) : o.Nests i k := by
  obtain ⟨a, b, ha, hb, hab⟩ := hij
  obtain ⟨b', c, hb', hc, hbc⟩ := hjk
  obtain rfl : b = b' := Option.some.inj (hb.symm.trans hb')
  exact ⟨a, c, ha, hc, isNested_trans hab hbc⟩

/-- Entry `j` stands behind entry `i`, and all that comes behind `i` up to it is nested under `i`. -/
structure IsUnder (o : Outline) (i j : Nat) : Prop where
  behind : i < j
  nested : ∀ k, i < k → k ≤ j → o.Nests i k

theorem IsUnder.trans {i j k : Nat} (hij : o.IsUnder i j) (hjk : o.IsUnder j k) : o.IsUnder i k := by
  refine ⟨Nat.lt_trans hij.behind hjk.behind, fun l hil hlk => ?_⟩
  rcases Nat.lt_or_ge j l with hjl | hlj
  · exact (hij.nested j hij.behind (Nat.le_refl j)).trans (hjk.nested l hjl hlk)
  · exact hij.nested l hil hlj

theorem IsUnder.lt_size {i j : Nat} (h : o.IsUnder i j) : j < o.entries.size := by
  obtain ⟨_, e, _, he, _⟩ := h.nested j h.behind (Nat.le_refl j)
  exact (Array.getElem?_eq_some_iff.mp he).1

theorem IsUnder.column_le {i j : Nat} (h : o.IsUnder i j) {e f : Entry} (he : o.entries[i]? = some e)
    (hf : o.entries[j]? = some f) : e.column ≤ f.column := by
  obtain ⟨e', f', he', hf', hnested⟩ := h.nested j h.behind (Nat.le_refl j)
  obtain rfl : e' = e := Option.some.inj (he'.symm.trans he)
  obtain rfl : f' = f := Option.some.inj (hf'.symm.trans hf)
  exact column_le_of_isNested hnested

/-- The entries from `j` to before `stop` are nested under an entry, and the one at `stop`, if there is one, is not. -/
structure IsStretch (o : Outline) (owner : Entry) (j stop : Nat) : Prop where
  start_le : j ≤ stop
  stop_le : stop ≤ o.entries.size
  nested : ∀ k, j ≤ k → k < stop → ∃ e, o.entries[k]? = some e ∧ isNested owner e = true
  ends : ∀ e, o.entries[stop]? = some e → isNested owner e = false

theorem isStretch_empty {owner : Entry} {j : Nat} (hj : j ≤ o.entries.size)
    (h : ∀ e, o.entries[j]? = some e → isNested owner e = false) : o.IsStretch owner j j :=
  ⟨Nat.le_refl j, hj, fun _ hjk hkj => absurd hkj (Nat.not_lt_of_le hjk), h⟩

theorem IsStretch.extend {owner e : Entry} {j stop : Nat} (h : o.IsStretch owner (j + 1) stop)
    (he : o.entries[j]? = some e) (hnested : isNested owner e = true) : o.IsStretch owner j stop := by
  refine ⟨Nat.le_of_succ_le h.start_le, h.stop_le, fun k hjk hk => ?_, h.ends⟩
  rcases Nat.eq_or_lt_of_le hjk with rfl | hjk
  · exact ⟨e, he, hnested⟩
  · exact h.nested k hjk hk

theorem isStretch_endFrom (owner : Entry) {fuel j : Nat} (hj : j ≤ o.entries.size)
    (hfuel : o.entries.size ≤ j + fuel) : o.IsStretch owner j (o.endFrom owner fuel j) := by
  induction fuel generalizing j with
  | zero =>
    have hnone : o.entries[j]? = none := Array.getElem?_eq_none hfuel
    exact isStretch_empty hj fun e he => nomatch hnone.symm.trans he
  | succ fuel ih =>
    rcases he : o.entries[j]? with _ | e
    · simp only [endFrom, he]
      exact isStretch_empty hj fun e' he' => nomatch he.symm.trans he'
    · cases hnested : isNested owner e with
      | false =>
        simp only [endFrom, he, hnested]
        refine isStretch_empty hj fun e' he' => ?_
        rwa [← Option.some.inj (he.symm.trans he')]
      | true =>
        have hlt := (Array.getElem?_eq_some_iff.mp he).1
        simp only [endFrom, he, hnested, if_true]
        exact (ih hlt (by omega)).extend he hnested

theorem isStretch_subtreeEnd {i : Nat} {owner : Entry} (h : o.entries[i]? = some owner) :
    o.IsStretch owner (i + 1) (o.subtreeEnd i) := by
  have hi := (Array.getElem?_eq_some_iff.mp h).1
  simp only [subtreeEnd, h]
  exact isStretch_endFrom owner hi (by omega)

/-- The subtree of an entry ends where something stands for the first time that is not under it. -/
theorem lt_subtreeEnd_iff {i j : Nat} (hi : i < o.entries.size) : i < j ∧ j < o.subtreeEnd i ↔ o.IsUnder i j := by
  have howner : o.entries[i]? = some o.entries[i] := Array.getElem?_eq_getElem hi
  obtain ⟨_, _, hnested, hends⟩ := isStretch_subtreeEnd howner
  constructor
  · rintro ⟨hij, hj⟩
    refine ⟨hij, fun k hik hkj => ?_⟩
    obtain ⟨e, he, hnest⟩ := hnested k hik (Nat.lt_of_le_of_lt hkj hj)
    exact ⟨_, e, howner, he, hnest⟩
  · rintro ⟨hij, hall⟩
    refine ⟨hij, Nat.lt_of_not_le fun hle => ?_⟩
    obtain ⟨owner, e, howner', he, hnest⟩ := hall (o.subtreeEnd i) (by omega) hle
    obtain rfl := Option.some.inj (howner.symm.trans howner')
    rw [hends e he] at hnest
    exact nomatch hnest

theorem subtreeEnd_bounds {i : Nat} (hi : i < o.entries.size) :
    i + 1 ≤ o.subtreeEnd i ∧ o.subtreeEnd i ≤ o.entries.size := by
  have hstretch := isStretch_subtreeEnd (Array.getElem?_eq_getElem hi)
  exact ⟨hstretch.start_le, hstretch.stop_le⟩

/-- The subtree of an entry that is under another one does not go on behind the subtree of that. -/
theorem IsUnder.subtreeEnd_le {i j : Nat} (h : o.IsUnder i j) : o.subtreeEnd j ≤ o.subtreeEnd i := by
  have hj := h.lt_size
  have hi := Nat.lt_trans h.behind hj
  obtain ⟨_, hlt⟩ := (lt_subtreeEnd_iff hi).mpr h
  apply Nat.le_of_not_lt
  intro hover
  have hunder : o.IsUnder i (o.subtreeEnd i) := h.trans ((lt_subtreeEnd_iff hj).mp ⟨hlt, hover⟩)
  exact absurd ((lt_subtreeEnd_iff hi).mpr hunder).2 (Nat.lt_irrefl _)

/-! ## Children -/

theorem foldl_lesser_some (least : Nat) (columns : List Nat) :
    columns.foldl lesser (some least) = some (columns.foldl min least) := by
  induction columns generalizing least with
  | nil => rfl
  | cons c columns ih => exact ih (min least c)

theorem leastColumn_eq_min? (low high : Nat) :
    o.leastColumn low high = (((o.entries.toList.take high).drop low).map Entry.column).min? := by
  have hfold (columns : List Nat) : columns.foldl lesser none = columns.min? := by
    cases columns with
    | nil => rfl
    | cons c columns => exact foldl_lesser_some c columns
  rw [← hfold, leastColumn, ← Array.foldl_toList, Array.toList_map, Array.toList_extract,
    List.extract_eq_drop_take']
  rfl

theorem mem_columns_iff {low high c : Nat} :
    c ∈ ((o.entries.toList.take high).drop low).map Entry.column ↔
      ∃ k e, low ≤ k ∧ k < high ∧ o.entries[k]? = some e ∧ e.column = c := by
  rw [List.mem_map]
  simp only [List.mem_iff_getElem?, List.getElem?_drop, List.getElem?_take, Array.getElem?_toList]
  constructor
  · rintro ⟨e, ⟨n, hn⟩, hc⟩
    split at hn
    · exact ⟨low + n, e, Nat.le_add_right .., ‹_›, hn, hc⟩
    · exact nomatch hn
  · rintro ⟨k, e, hlow, hhigh, he, hc⟩
    refine ⟨e, ⟨k - low, ?_⟩, hc⟩
    rw [Nat.add_sub_cancel' hlow, if_pos hhigh, he]

theorem leastColumn_eq_some_iff {low high c : Nat} :
    o.leastColumn low high = some c ↔
      (∃ k e, low ≤ k ∧ k < high ∧ o.entries[k]? = some e ∧ e.column = c) ∧
        ∀ k e, low ≤ k → k < high → o.entries[k]? = some e → c ≤ e.column := by
  rw [leastColumn_eq_min?, List.min?_eq_some_iff, mem_columns_iff]
  refine and_congr_right fun _ => ?_
  constructor
  · intro h k e hlow hhigh he
    exact h _ (mem_columns_iff.mpr ⟨k, e, hlow, hhigh, he, rfl⟩)
  · intro h c' hc'
    obtain ⟨k, e, hlow, hhigh, he, rfl⟩ := mem_columns_iff.mp hc'
    exact h k e hlow hhigh he

theorem le_of_mem_childrenFrom {column high fuel i k : Nat} (h : k ∈ o.childrenFrom column high fuel i) : i ≤ k := by
  induction fuel generalizing i with
  | zero => exact nomatch h
  | succ fuel ih =>
    unfold childrenFrom at h
    split at h
    · split at h
      · split at h
        · rcases List.mem_cons.mp h with rfl | h
          · exact Nat.le_refl _
          · have := ih h
            omega
        · exact Nat.le_of_succ_le (ih h)
      · exact nomatch h
    · exact nomatch h

theorem pairwise_childrenFrom (o : Outline) (column high fuel i : Nat) :
    (o.childrenFrom column high fuel i).Pairwise (· < ·) := by
  induction fuel generalizing i with
  | zero => exact .nil
  | succ fuel ih =>
    unfold childrenFrom
    split
    · split
      · split
        · refine .cons (fun k hk => ?_) (ih _)
          have := le_of_mem_childrenFrom hk
          omega
        · exact ih _
      · exact .nil
    · exact .nil

/-- Behind an entry, being under no entry from there on is to be behind its subtree and under no entry from the end of
that on. -/
theorem not_under_iff {i k : Nat} (hi : i < o.entries.size) (hik : i < k) :
    (∀ l, i ≤ l → ¬ o.IsUnder l k) ↔ o.subtreeEnd i ≤ k ∧ ∀ l, o.subtreeEnd i ≤ l → ¬ o.IsUnder l k := by
  have hbounds := subtreeEnd_bounds hi
  constructor
  · intro h
    refine ⟨Nat.le_of_not_lt fun hlt => ?_, fun l hl => h l (by omega)⟩
    exact h i (Nat.le_refl i) ((lt_subtreeEnd_iff hi).mp ⟨hik, hlt⟩)
  · rintro ⟨hend, hbehind⟩ l hl hunder
    have hout : ¬ o.IsUnder i k := fun h => absurd ((lt_subtreeEnd_iff hi).mpr h).2 (Nat.not_lt_of_le hend)
    rcases Nat.lt_or_ge l (o.subtreeEnd i) with hlt | hge
    · rcases Nat.eq_or_lt_of_le hl with rfl | hil
      · exact hout hunder
      · exact hout (((lt_subtreeEnd_iff hi).mp ⟨hil, hlt⟩).trans hunder)
    · exact hbehind l hge hunder

/-- Among entries none of which stands further out than a column, the walk meets those at the column that are under no
other one. -/
theorem mem_childrenFrom_iff {column high fuel i : Nat} (hhigh : high ≤ o.entries.size) (hfuel : high ≤ i + fuel)
    (hleast : ∀ k e, i ≤ k → k < high → o.entries[k]? = some e → column ≤ e.column) (k : Nat) :
    k ∈ o.childrenFrom column high fuel i ↔
      i ≤ k ∧ k < high ∧ (∃ e, o.entries[k]? = some e ∧ e.column = column) ∧ ∀ l, i ≤ l → ¬ o.IsUnder l k := by
  induction fuel generalizing i with
  | zero =>
    constructor
    · intro h
      cases h
    · rintro ⟨hik, hk, _⟩
      omega
  | succ fuel ih =>
    rcases Nat.lt_or_ge i high with hi | hi
    · have hsize := Nat.lt_of_lt_of_le hi hhigh
      have he : o.entries[i]? = some o.entries[i] := Array.getElem?_eq_getElem hsize
      generalize o.entries[i] = e at he
      by_cases hcolumn : e.column = column
      · obtain ⟨hnext, _⟩ := subtreeEnd_bounds hsize
        have hmax : max (o.subtreeEnd i) (i + 1) = o.subtreeEnd i := Nat.max_eq_left hnext
        have hrest := ih (i := o.subtreeEnd i) (by omega) fun k e hk => hleast k e (by omega)
        simp only [childrenFrom, hi, he, hcolumn, if_true, hmax, List.mem_cons, hrest]
        constructor
        · rintro (rfl | ⟨hend, hk, hat, hown⟩)
          · exact ⟨Nat.le_refl k, hi, ⟨e, he, hcolumn⟩, fun l hl h => absurd h.behind (Nat.not_lt_of_le hl)⟩
          · exact ⟨by omega, hk, hat, (not_under_iff hsize (by omega)).mpr ⟨hend, hown⟩⟩
        · rintro ⟨hik, hk, hat, hown⟩
          rcases Nat.eq_or_lt_of_le hik with rfl | hik
          · exact Or.inl rfl
          · obtain ⟨hend, hbehind⟩ := (not_under_iff hsize hik).mp hown
            exact Or.inr ⟨hend, hk, hat, hbehind⟩
      · have hrest := ih (i := i + 1) (by omega) fun k e hk => hleast k e (by omega)
        simp only [childrenFrom, hi, he, hcolumn, if_true, if_false, hrest]
        constructor
        · rintro ⟨hik, hk, ⟨f, hf, hat⟩, hown⟩
          refine ⟨by omega, hk, ⟨f, hf, hat⟩, fun l hl hunder => ?_⟩
          rcases Nat.eq_or_lt_of_le hl with rfl | hl
          · -- What is under an entry further in than the column is no less far in.
            have hle := hleast i e (Nat.le_refl i) hi he
            have hcolumns := hunder.column_le he hf
            omega
          · exact hown l hl hunder
        · rintro ⟨hik, hk, ⟨f, hf, hat⟩, hown⟩
          rcases Nat.eq_or_lt_of_le hik with rfl | hik
          · obtain rfl : e = f := Option.some.inj (he.symm.trans hf)
            exact absurd hat hcolumn
          · exact ⟨hik, hk, ⟨f, hf, hat⟩, fun l hl => hown l (by omega)⟩
    · simp only [childrenFrom, Nat.not_lt_of_le hi, if_false]
      constructor
      · intro h
        cases h
      · rintro ⟨hik, hk, _⟩
        omega

/-- An entry among those from `low` to before `high` that is under none of them, while none of them stands further out. -/
structure IsChild (o : Outline) (low high k : Nat) : Prop where
  low_le : low ≤ k
  lt_high : k < high
  outermost : ∀ e l f, o.entries[k]? = some e → low ≤ l → l < high → o.entries[l]? = some f → e.column ≤ f.column
  onItsOwn : ∀ l, low ≤ l → ¬ o.IsUnder l k

theorem mem_children_iff {low high : Nat} (hhigh : high ≤ o.entries.size) (k : Nat) :
    k ∈ o.children low high ↔ o.IsChild low high k := by
  have hget (hk : k < high) : ∃ e, o.entries[k]? = some e :=
    ⟨_, Array.getElem?_eq_getElem (Nat.lt_of_lt_of_le hk hhigh)⟩
  rcases hleast : o.leastColumn low high with _ | column
  · have hempty : k ∉ o.children low high := by simp [children, hleast]
    constructor
    · intro h
      exact absurd h hempty
    · rintro ⟨hlow, hk, _, _⟩
      obtain ⟨e, he⟩ := hget hk
      rw [leastColumn_eq_min?, List.min?_eq_none_iff] at hleast
      have hmem := mem_columns_iff.mpr ⟨k, e, hlow, hk, he, rfl⟩
      rw [hleast] at hmem
      cases hmem
  · obtain ⟨⟨m, g, hm, hmhigh, hg, hgcolumn⟩, hall⟩ := leastColumn_eq_some_iff.mp hleast
    have hfuel : high ≤ low + (high - low) := by omega
    have hwalk := mem_childrenFrom_iff hhigh hfuel hall k
    simp only [children, hleast, hwalk]
    constructor
    · rintro ⟨hlow, hk, ⟨e, he, hcolumn⟩, hown⟩
      refine ⟨hlow, hk, fun e' l f he' hl hlhigh hf => ?_, hown⟩
      obtain rfl : e = e' := Option.some.inj (he.symm.trans he')
      exact hcolumn ▸ hall l f hl hlhigh hf
    · rintro ⟨hlow, hk, houtermost, hown⟩
      obtain ⟨e, he⟩ := hget hk
      have hle := houtermost e m g he hm hmhigh hg
      have hge := hall k e hlow hk he
      exact ⟨hlow, hk, ⟨e, he, by omega⟩, hown⟩

theorem pairwise_children (o : Outline) (low high : Nat) : (o.children low high).Pairwise (· < ·) := by
  unfold children
  split
  · exact pairwise_childrenFrom ..
  · exact .nil

/-! ## The walk -/

/-- The entries that a path leads through, from the whole outline on. -/
def trail (o : Outline) (path : Json.Path) : List Nat := o.descend 0 o.entries.size path

theorem mem_children_of_child? {low high i : Nat} {step : Json.Step} (h : o.child? low high step = some i) :
    i ∈ o.children low high := by
  cases step with
  | key name => exact List.mem_of_find?_eq_some h
  | index position => exact (List.mem_filter.mp (List.mem_of_getElem? h)).1

theorem child?_bounds {low high i : Nat} {step : Json.Step} (hhigh : high ≤ o.entries.size)
    (h : o.child? low high step = some i) : low ≤ i ∧ i < high := by
  obtain ⟨hlow, hlt, _, _⟩ := (mem_children_iff hhigh i).mp (mem_children_of_child? h)
  exact ⟨hlow, hlt⟩

theorem descend_cons_of_child? {low high i : Nat} {step : Json.Step} (h : o.child? low high step = some i)
    (rest : Json.Path) : o.descend low high (step :: rest) = i :: o.descend (i + 1) (o.subtreeEnd i) rest := by
  simp only [descend, h]

theorem descend_cons_of_none {low high : Nat} {step : Json.Step} (h : o.child? low high step = none)
    (rest : Json.Path) : o.descend low high (step :: rest) = [] := by
  simp only [descend, h]

/-- From an entry on, each entry that is met is under the one before. -/
theorem isChain_descend {i : Nat} (hi : i < o.entries.size) (path : Json.Path) :
    (i :: o.descend (i + 1) (o.subtreeEnd i) path).IsChain o.IsUnder := by
  induction path generalizing i with
  | nil => exact .singleton i
  | cons step rest ih =>
    rcases hchild : o.child? (i + 1) (o.subtreeEnd i) step with _ | j
    · rw [descend_cons_of_none hchild]
      exact .singleton i
    · rw [descend_cons_of_child? hchild]
      obtain ⟨hij, hj⟩ := child?_bounds (subtreeEnd_bounds hi).2 hchild
      have hunder := (lt_subtreeEnd_iff hi).mp ⟨hij, hj⟩
      exact .cons_cons hunder (ih hunder.lt_size)

theorem isChain_trail (o : Outline) (path : Json.Path) : (o.trail path).IsChain o.IsUnder := by
  unfold trail
  cases path with
  | nil => exact .nil
  | cons step rest =>
    rcases hchild : o.child? 0 o.entries.size step with _ | i
    · rw [descend_cons_of_none hchild]
      exact .nil
    · rw [descend_cons_of_child? hchild]
      exact isChain_descend (child?_bounds (Nat.le_refl _) hchild).2 rest

theorem pairwise_trail (o : Outline) (path : Json.Path) : (o.trail path).Pairwise o.IsUnder := by
  have : IsTrans Nat o.IsUnder := ⟨fun _ _ _ => IsUnder.trans⟩
  exact (isChain_trail o path).pairwise

theorem lt_size_of_mem_trail {path : Json.Path} {i : Nat} (h : i ∈ o.trail path) : i < o.entries.size := by
  have hpairwise := pairwise_trail o path
  unfold trail at *
  cases path with
  | nil => exact nomatch h
  | cons step rest =>
    rcases hchild : o.child? 0 o.entries.size step with _ | j
    · rw [descend_cons_of_none hchild] at h
      exact nomatch h
    · rw [descend_cons_of_child? hchild] at h hpairwise
      rcases List.mem_cons.mp h with rfl | h
      · exact (child?_bounds (Nat.le_refl _) hchild).2
      · exact ((List.pairwise_cons.mp hpairwise).1 i h).lt_size

/-! ## Parts of a path -/

theorem length_descend_le (low high : Nat) (path : Json.Path) : (o.descend low high path).length ≤ path.length := by
  induction path generalizing low high with
  | nil => exact Nat.le_refl 0
  | cons step rest ih =>
    rcases hchild : o.child? low high step with _ | i
    · rw [descend_cons_of_none hchild]
      exact Nat.zero_le _
    · rw [descend_cons_of_child? hchild]
      exact Nat.succ_le_succ (ih ..)

/-- A part at the start of a path leads through the first of the entries. -/
theorem descend_take (low high n : Nat) (path : Json.Path) :
    o.descend low high (path.take n) = (o.descend low high path).take n := by
  induction path generalizing low high n with
  | nil => simp [descend]
  | cons step rest ih =>
    cases n with
    | zero => rfl
    | succ n =>
      rw [List.take_succ_cons]
      rcases hchild : o.child? low high step with _ | i
      · rw [descend_cons_of_none hchild, descend_cons_of_none hchild, List.take_nil]
      · rw [descend_cons_of_child? hchild, descend_cons_of_child? hchild, List.take_succ_cons, ih]

/-- Every step of the path leads to an entry. -/
def Follows (o : Outline) (path : Json.Path) : Prop := (o.trail path).length = path.length

/-- The longest part at the start of a path that can be followed. -/
structure IsFollowedTo (o : Outline) (path front : Json.Path) : Prop where
  isPart : front <+: path
  follows : o.Follows front
  longest : ∀ part, part <+: path → o.Follows part → part <+: front

theorem isFollowedTo_take (o : Outline) (path : Json.Path) :
    o.IsFollowedTo path (path.take (o.trail path).length) := by
  have hle : (o.trail path).length ≤ path.length := length_descend_le ..
  refine ⟨List.take_prefix .., ?_, fun part hpart hfollows => ?_⟩
  · rw [Follows, trail, descend_take, List.length_take, List.length_take]
    unfold trail at *
    omega
  · rw [List.prefix_iff_eq_take.mp hpart, Follows, trail, descend_take, List.length_take, List.length_take] at hfollows
    rw [List.prefix_iff_eq_take.mp hpart]
    have hpartle := hpart.length_le
    apply List.take_prefix_take_left
    unfold trail at *
    omega

theorem rangeOf_eq_of_trail_eq {path path' : Json.Path} (h : o.trail path = o.trail path') :
    o.rangeOf path = o.rangeOf path' := by
  unfold trail at h
  rw [rangeOf, rangeOf, h]

theorem rangeOf_of_trail_nil {path : Json.Path} (h : o.trail path = []) : o.rangeOf path = .zero := by
  unfold trail at h
  rw [rangeOf, h]
  rfl

theorem rangeOf_of_trail_concat {path : Json.Path} {front : List Nat} {i : Nat} {e : Entry}
    (h : o.trail path = front ++ [i]) (he : o.entries[i]? = some e) : o.rangeOf path = e.range := by
  unfold trail at h
  simp only [rangeOf, h, List.getLast?_concat, Option.bind_some, he]

/-! ## Order in the document -/

theorem pairwise_marksFrom (fuel column : Nat) (text : List Char) :
    (marksFrom fuel column text).1.Pairwise fun m n => m.2 < n.2 := by
  induction fuel generalizing column text with
  | zero => exact .nil
  | succ fuel ih =>
    unfold marksFrom
    split
    · exact .cons nofun .nil
    · rename_i rest
      refine .cons (fun m hm => ?_) (ih ..)
      have hcolumn := (Block.marksFrom_column fuel _ _).1 m hm
      show column < m.2
      omega
    · split
      · exact .cons nofun .nil
      · exact .nil

theorem pairwise_readLine (block : Option Nat) (line : Nat) (text : List Char) :
    (readLine block line text).1.Pairwise fun e f => e.range.start < f.range.start := by
  rcases readLine_cases block line text with hread | hread | ⟨_, fuel, hread⟩
  · rw [hread]
    exact .nil
  · rw [hread]
    exact .nil
  · rw [hread, List.pairwise_map]
    exact (pairwise_marksFrom ..).imp fun hlt => Or.inr ⟨rfl, hlt⟩

theorem pairwise_readLines (block : Option Nat) (line : Nat) (texts : List (List Char)) :
    (readLines block line texts).Pairwise fun e f => e.range.start < f.range.start := by
  induction texts generalizing block line with
  | nil => exact .nil
  | cons text texts ih =>
    rw [readLines]
    refine List.pairwise_append.mpr ⟨pairwise_readLine .., ih .., fun e he f hf => Or.inl ?_⟩
    obtain ⟨hline, _⟩ := mem_readLine he
    obtain ⟨below, _, hbelow, _⟩ := mem_readLines hf
    show e.line < f.line
    omega

/-- Entries of a document that come later stand further behind. -/
theorem start_lt_start {d : Document} {i j : Nat} {e f : Entry} (hij : i < j)
    (he : (ofDocument d).entries[i]? = some e) (hf : (ofDocument d).entries[j]? = some f) :
    e.range.start < f.range.start := by
  simp only [ofDocument, List.getElem?_toArray] at he hf
  obtain ⟨hi, rfl⟩ := List.getElem?_eq_some_iff.mp he
  obtain ⟨hj, rfl⟩ := List.getElem?_eq_some_iff.mp hf
  exact List.pairwise_iff_getElem.mp (pairwise_readLines none 0 d.lines) i j hi hj hij

theorem start_le_start_append (d : Document) (path more : Json.Path) :
    ((ofDocument d).rangeOf path).start ≤ ((ofDocument d).rangeOf (path ++ more)).start := by
  generalize ho : ofDocument d = o
  have hpart : o.trail path = (o.trail (path ++ more)).take path.length := by
    rw [trail, trail, ← descend_take, List.take_left]
  have hsplit := List.take_append_drop path.length (o.trail (path ++ more))
  rw [← hpart] at hsplit
  generalize hbehind : (o.trail (path ++ more)).drop path.length = behind at hsplit
  rcases List.eq_nil_or_concat (o.trail path) with hnil | ⟨front, i, hfront⟩
  · rw [rangeOf_of_trail_nil hnil]
    exact Position.zero_le _
  · rcases List.eq_nil_or_concat behind with hnone | ⟨others, j, hothers⟩
    · rw [hnone, List.append_nil] at hsplit
      rw [rangeOf_eq_of_trail_eq hsplit]
      exact Position.le_rfl _
    · have hlater : o.trail (path ++ more) = front ++ i :: others ++ [j] := by
        rw [← hsplit, hfront, hothers]
        simp
      have hmemi : i ∈ o.trail path := by simp [hfront]
      have hmemj : j ∈ o.trail (path ++ more) := by simp [hlater]
      have hunder : o.IsUnder i j := by
        have hpairwise := pairwise_trail o (path ++ more)
        rw [hlater, List.append_assoc] at hpairwise
        have hrest := (List.pairwise_append.mp hpairwise).2.1
        exact (List.pairwise_cons.mp hrest).1 j (by simp)
      have hei := Array.getElem?_eq_getElem (lt_size_of_mem_trail hmemi)
      have hej := Array.getElem?_eq_getElem (lt_size_of_mem_trail hmemj)
      rw [rangeOf_of_trail_concat (by rw [hfront, List.concat_eq_append]) hei, rangeOf_of_trail_concat hlater hej]
      subst ho
      exact Position.le_of_lt (start_lt_start hunder.behind hei hej)

/-! ## Ends of loops -/

/-- The marks of a line are all found in as many turns as it has characters. -/
theorem marksFrom_of_lt {fuel fuel' : Nat} (column : Nat) {text : List Char} (h : text.length < fuel)
    (h' : text.length < fuel') : marksFrom fuel column text = marksFrom fuel' column text := by
  induction fuel generalizing fuel' column text with
  | zero => exact absurd h (Nat.not_lt_zero _)
  | succ fuel ih =>
    obtain ⟨fuel', rfl⟩ : ∃ n, fuel' = n + 1 := ⟨fuel' - 1, by omega⟩
    unfold marksFrom
    split
    · rfl
    · rename_i rest
      have hblanks := (List.dropWhile_suffix (l := rest) (· = ' ')).length_le
      simp only [List.length_cons] at h h'
      have hlt : (rest.dropWhile (· = ' ')).length < fuel := by omega
      have hlt' : (rest.dropWhile (· = ' ')).length < fuel' := by omega
      simp only [ih _ hlt hlt']
    · rfl

/-- The loops over an outline and over the lines of a text come to their ends by themselves. -/
structure LoopsEnd (o : Outline) : Prop where
  /-- More turns find no other marks on a line, and those that are found stand on it. -/
  marks : ∀ fuel column text, text.length < fuel → marksFrom fuel column text = marksFrom (text.length + 1) column text ∧
    ∀ m ∈ (marksFrom fuel column text).1, column ≤ m.2 ∧ m.2 ≤ column + text.length
  /-- A subtree ends at the first entry that is not nested under its own one. -/
  subtrees : ∀ i < o.entries.size, ∀ j, i < j ∧ j < o.subtreeEnd i ↔ o.IsUnder i j
  /-- No child is missed, and they are met in order. -/
  children : ∀ low high, high ≤ o.entries.size →
    (∀ k, k ∈ o.children low high ↔ o.IsChild low high k) ∧ (o.children low high).Pairwise (· < ·)

theorem loopsEnd (o : Outline) : o.LoopsEnd where
  marks fuel column text h := by
    refine ⟨marksFrom_of_lt column h (Nat.lt_succ_self _), fun m hm => ?_⟩
    exact ⟨(Block.marksFrom_column fuel column text).1 m hm, marksFrom_column_le fuel column text m hm⟩
  subtrees _ hi _ := lt_subtreeEnd_iff hi
  children low high hhigh := ⟨mem_children_iff hhigh, pairwise_children o low high⟩

/-! ## The law -/

/-- How the entries that a path leads through lie in a document. -/
structure GoesInward (o : Outline) (path : Json.Path) : Prop where
  /-- What is searched behind each of them is a part of the outline. -/
  inBounds : ∀ i ∈ o.trail path, i + 1 ≤ o.subtreeEnd i ∧ o.subtreeEnd i ≤ o.entries.size
  /-- Each one lies in the subtrees of those before it, and its own subtree ends no later than these. -/
  inside : (o.trail path).Pairwise fun i j => i < j ∧ o.IsUnder i j ∧ o.subtreeEnd j ≤ o.subtreeEnd i
  inOrder : (o.trail path).Pairwise fun i j => ∃ e f, o.entries[i]? = some e ∧ o.entries[j]? = some f ∧
    e.range.start < f.range.start

theorem goesInward (d : Document) (path : Json.Path) : (ofDocument d).GoesInward path where
  inBounds _ hi := subtreeEnd_bounds (lt_size_of_mem_trail hi)
  inside := (pairwise_trail _ path).imp fun h => ⟨h.behind, h, h.subtreeEnd_le⟩
  inOrder := (pairwise_trail _ path).imp fun h => by
    have hj := Array.getElem?_eq_getElem h.lt_size
    have hi := Array.getElem?_eq_getElem (Nat.lt_trans h.behind h.lt_size)
    exact ⟨_, _, hi, hj, start_lt_start h.behind hi hj⟩

/-- In every document, the walk along a path goes further in and further down with each step. It answers for the longest
part of the path that can be followed, so that a longer path never leads to an earlier place. -/
theorem walk_goes_inward (d : Document) (path : Json.Path) :
    let o := ofDocument d
    o.LoopsEnd ∧ o.GoesInward path ∧
      (∃ front, o.IsFollowedTo path front ∧ o.rangeOf path = o.rangeOf front ∧
        (front = [] → o.rangeOf path = .zero)) ∧
      ∀ more, (o.rangeOf path).start ≤ (o.rangeOf (path ++ more)).start := by
  intro o
  have hfront := isFollowedTo_take o path
  have htrail : o.trail path = o.trail (path.take (o.trail path).length) := by
    rw [trail, trail, descend_take, List.take_length]
  refine ⟨loopsEnd o, goesInward d path, ⟨_, hfront, rangeOf_eq_of_trail_eq htrail, fun hnil => ?_⟩,
    start_le_start_append d path⟩
  rw [hnil] at htrail
  exact rangeOf_of_trail_nil htrail

end Outline

end CatalogGate
