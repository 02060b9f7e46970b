-- How an outline is walked. Where entries are in groups, each with everything that is nested under its first
-- entry, the walk meets exactly the first entries.
import CatalogGate.Document.Outline

namespace CatalogGate.Outline

/-! ## Subtrees -/

theorem isNested_iff (owner e : Entry) :
    isNested owner e = true ↔
      owner.column < e.column ∨ (owner.mark ≠ .item ∧ e.column = owner.column ∧ e.mark = .item) := by
  simp [isNested, and_assoc]

/-- One entry and what is nested under it, in front of something that is not. -/
structure IsGroup (group : List Entry) (head : Entry) : Prop where
  isHead : group.head? = some head
  nested : ∀ e ∈ group.tail, isNested head e = true

theorem IsGroup.eq_cons {group : List Entry} {head : Entry} (h : IsGroup group head) :
    group = head :: group.tail := by
  cases group with
  | nil => exact nomatch h.isHead
  | cons first tail =>
    obtain rfl : first = head := by simpa using h.isHead
    rfl

/-- Nothing is nested under an entry where these entries start. -/
def Stops (owner : Entry) (entries : List Entry) : Prop := ∀ e ∈ entries.head?, isNested owner e = false

section Walk

variable {o : Outline}

theorem getElem?_of_split {front back : List Entry} (h : o.entries = (front ++ back).toArray) (n : Nat) :
    o.entries[front.length + n]? = back[n]? := by
  rw [h, List.getElem?_toArray, List.getElem?_append_right (Nat.le_add_right ..), Nat.add_sub_cancel_left]

theorem endFrom_eq (owner : Entry) {front inside back : List Entry} {fuel : Nat}
    (h : o.entries = (front ++ (inside ++ back)).toArray) (hinside : ∀ e ∈ inside, isNested owner e = true)
    (hback : Stops owner back) (hfuel : inside.length ≤ fuel) :
    o.endFrom owner fuel front.length = front.length + inside.length := by
  induction inside generalizing front fuel with
  | nil =>
    cases fuel with
    | zero => rfl
    | succ fuel =>
      have hget := getElem?_of_split h 0
      rw [Nat.add_zero, List.nil_append] at hget
      rw [endFrom, hget]
      cases back with
      | nil => rfl
      | cons e back => simp [hback e rfl]
  | cons e inside ih =>
    obtain ⟨fuel, rfl⟩ : ∃ n, fuel = n + 1 := ⟨fuel - 1, by simp at hfuel; omega⟩
    have hget := getElem?_of_split h 0
    have hsplit : o.entries = ((front ++ [e]) ++ (inside ++ back)).toArray := by simp [h]
    have hrest := ih hsplit (fun e' he' => hinside e' (List.mem_cons_of_mem _ he')) (by simpa using hfuel)
    simp only [List.length_append, List.length_singleton] at hrest
    simp only [Nat.add_zero, List.cons_append, List.getElem?_cons_zero] at hget
    rw [endFrom, hget]
    simp only [hinside e List.mem_cons_self, if_true, hrest, List.length_cons]
    omega

theorem subtreeEnd_eq {front group back : List Entry} {head : Entry}
    (h : o.entries = (front ++ (group ++ back)).toArray) (hgroup : IsGroup group head)
    (hback : Stops head back) : o.subtreeEnd front.length = front.length + group.length := by
  rw [hgroup.eq_cons] at h ⊢
  have hget := getElem?_of_split h 0
  simp only [Nat.add_zero, List.cons_append, List.getElem?_cons_zero] at hget
  have hsplit : o.entries = ((front ++ [head]) ++ (group.tail ++ back)).toArray := by simp [h]
  have hfuel : group.tail.length ≤ o.entries.size - (front.length + 1) := by
    simp only [h, List.size_toArray, List.length_append, List.length_cons]
    omega
  have hend := endFrom_eq head hsplit hgroup.nested hback hfuel
  simp only [List.length_append, List.length_singleton] at hend
  simp only [subtreeEnd, hget, hend, List.length_cons]
  omega

/-! ## Siblings -/

/-- Groups whose heads stand at a column, and under none of which the next group is nested. -/
inductive Siblings (column : Nat) (back : List Entry) : List (List Entry) → List Entry → Prop
  | nil : Siblings column back [] []
  | cons {group : List Entry} {groups : List (List Entry)} {head : Entry} {heads : List Entry}
      (isGroup : IsGroup group head) (atColumn : head.column = column)
      (stops : Stops head (groups.flatten ++ back)) (rest : Siblings column back groups heads) :
      Siblings column back (group :: groups) (head :: heads)

/-- Where groups start, of which the first starts at `i`. -/
def starts (i : Nat) : List (List Entry) → List Nat
  | [] => []
  | group :: groups => i :: starts (i + group.length) groups

theorem childrenFrom_eq {column fuel : Nat} {front back : List Entry} {groups : List (List Entry)}
    {heads : List Entry} (h : o.entries = (front ++ (groups.flatten ++ back)).toArray)
    (hgroups : Siblings column back groups heads) (hfuel : groups.flatten.length ≤ fuel) :
    o.childrenFrom column (front.length + groups.flatten.length) fuel front.length =
      starts front.length groups := by
  induction hgroups generalizing front fuel with
  | nil =>
    cases fuel with
    | zero => rfl
    | succ fuel => simp [childrenFrom, starts]
  | @cons group groups head heads isGroup atColumn stops rest ih =>
    rw [List.flatten_cons, List.append_assoc] at h
    have hlength : 0 < group.length := by
      rw [isGroup.eq_cons]
      exact Nat.succ_pos _
    rw [List.flatten_cons, List.length_append] at hfuel
    obtain ⟨fuel, rfl⟩ : ∃ n, fuel = n + 1 := ⟨fuel - 1, by omega⟩
    have hget : o.entries[front.length]? = some head := by
      have hget := getElem?_of_split h 0
      rw [isGroup.eq_cons] at hget
      simpa using hget
    have hend := subtreeEnd_eq h isGroup stops
    have hsplit : o.entries = ((front ++ group) ++ (groups.flatten ++ back)).toArray := by simp [h]
    have hle : groups.flatten.length ≤ fuel := by omega
    have hrest := ih hsplit hle
    have hnext : max (o.subtreeEnd front.length) (front.length + 1) = front.length + group.length := by
      rw [hend]
      omega
    have hlt : front.length < front.length + (group.length + groups.flatten.length) := by omega
    rw [List.length_append] at hrest
    rw [childrenFrom, List.flatten_cons, List.length_append, if_pos hlt, hget]
    simp only [atColumn, if_true, hnext, starts]
    rw [← Nat.add_assoc, hrest]

/-! ## Children -/

/-- The step of a search for the least column. -/
def lesser (least : Option Nat) (c : Nat) : Option Nat :=
  some (match least with | some m => min m c | none => c)

theorem foldl_lesser {column : Nat} {columns : List Nat} (h : ∀ c ∈ columns, column ≤ c) :
    columns.foldl lesser (some column) = some column := by
  induction columns with
  | nil => rfl
  | cons c columns ih =>
    have hmin : lesser (some column) c = some column := by
      simp only [lesser, Nat.min_eq_left (h c List.mem_cons_self)]
    rw [List.foldl_cons, hmin, ih fun c' hc' => h c' (List.mem_cons_of_mem _ hc')]

theorem leastColumn_eq {front middle back : List Entry} {first : Entry}
    (h : o.entries = (front ++ (middle ++ back)).toArray) (hfirst : middle.head? = some first)
    (hleast : ∀ e ∈ middle, first.column ≤ e.column) :
    o.leastColumn front.length (front.length + middle.length) = some first.column := by
  have hextract : o.entries.extract front.length (front.length + middle.length) = middle.toArray := by
    rw [h, List.extract_toArray, List.extract_eq_take_drop, List.drop_left, Nat.add_sub_cancel_left,
      List.take_left]
  rw [leastColumn, hextract, List.map_toArray, List.foldl_toArray]
  cases middle with
  | nil => exact nomatch hfirst
  | cons e middle =>
    obtain rfl : e = first := by simpa using hfirst
    rw [List.map_cons, List.foldl_cons]
    exact foldl_lesser fun c hc => by
      obtain ⟨e', he', rfl⟩ := List.mem_map.mp hc
      exact hleast e' (List.mem_cons_of_mem _ he')

theorem column_le_of_isNested {owner e : Entry} (h : isNested owner e = true) : owner.column ≤ e.column := by
  rw [isNested_iff] at h
  omega

theorem IsGroup.column_le {group : List Entry} {head : Entry} (h : IsGroup group head) :
    ∀ e ∈ group, head.column ≤ e.column := by
  intro e he
  rw [h.eq_cons] at he
  rcases List.mem_cons.mp he with rfl | he
  · exact Nat.le_refl _
  · exact column_le_of_isNested (h.nested e he)

theorem Siblings.column_le {column : Nat} {back : List Entry} {groups : List (List Entry)}
    {heads : List Entry} (h : Siblings column back groups heads) :
    ∀ e ∈ groups.flatten, column ≤ e.column := by
  induction h with
  | nil => simp
  | cons isGroup atColumn _ _ ih =>
    intro e he
    rcases List.mem_append.mp he with he | he
    · exact atColumn ▸ isGroup.column_le e he
    · exact ih e he

theorem children_eq {column : Nat} {front back : List Entry} {groups : List (List Entry)}
    {heads : List Entry} (h : o.entries = (front ++ (groups.flatten ++ back)).toArray)
    (hgroups : Siblings column back groups heads) :
    o.children front.length (front.length + groups.flatten.length) = starts front.length groups := by
  have hwalk := childrenFrom_eq h hgroups (Nat.le_refl _)
  cases hgroups with
  | nil =>
    unfold children
    split
    · simp [childrenFrom, starts]
    · rfl
  | @cons group groups head heads isGroup atColumn stops rest =>
    have hfirst : (group :: groups).flatten.head? = some head := by
      rw [List.flatten_cons, isGroup.eq_cons]
      rfl
    have hleast := (Siblings.cons isGroup atColumn stops rest).column_le
    rw [← atColumn] at hleast hwalk
    rw [children, leastColumn_eq h hfirst hleast]
    simp only [Nat.add_sub_cancel_left]
    exact hwalk

theorem map_getElem?_starts {column : Nat} {front back : List Entry} {groups : List (List Entry)}
    {heads : List Entry} (h : o.entries = (front ++ (groups.flatten ++ back)).toArray)
    (hgroups : Siblings column back groups heads) :
    (starts front.length groups).map (fun i => o.entries[i]?) = heads.map some := by
  induction hgroups generalizing front with
  | nil => rfl
  | @cons group groups head heads isGroup _ _ _ ih =>
    rw [List.flatten_cons, List.append_assoc] at h
    have hget : o.entries[front.length]? = some head := by
      have hget := getElem?_of_split h 0
      rw [isGroup.eq_cons] at hget
      simpa using hget
    have hsplit : o.entries = ((front ++ group) ++ (groups.flatten ++ back)).toArray := by simp [h]
    have hrest := ih hsplit
    rw [List.length_append] at hrest
    rw [starts, List.map_cons, List.map_cons, hget, hrest]

theorem getElem?_starts {groups : List (List Entry)} {position : Nat} (i : Nat)
    (h : position < groups.length) :
    (starts i groups)[position]? = some (i + (groups.take position).flatten.length) := by
  induction groups generalizing i position with
  | nil => simp at h
  | cons group groups ih =>
    cases position with
    | zero => rfl
    | succ position =>
      rw [starts, List.getElem?_cons_succ, ih _ (by simpa using h), List.take_succ_cons, List.flatten_cons,
        List.length_append, Nat.add_assoc]

theorem Siblings.length_eq {column : Nat} {back : List Entry} {groups : List (List Entry)}
    {heads : List Entry} (h : Siblings column back groups heads) : groups.length = heads.length := by
  induction h with
  | nil => rfl
  | cons _ _ _ _ ih => rw [List.length_cons, List.length_cons, ih]

theorem getElem?_of_start {column : Nat} {front back : List Entry} {groups : List (List Entry)}
    {heads : List Entry} (h : o.entries = (front ++ (groups.flatten ++ back)).toArray)
    (hgroups : Siblings column back groups heads) {position i : Nat}
    (hi : (starts front.length groups)[position]? = some i) : o.entries[i]? = heads[position]? := by
  have hmap := congrArg (·[position]?) (map_getElem?_starts h hgroups)
  simp only [List.getElem?_map, hi, Option.map_some] at hmap
  cases hhead : heads[position]? with
  | none => simp [hhead] at hmap
  | some head => simpa [hhead] using hmap

/-- The items of a sequence are counted. -/
theorem child?_index {column : Nat} {front back : List Entry} {groups : List (List Entry)}
    {heads : List Entry} (h : o.entries = (front ++ (groups.flatten ++ back)).toArray)
    (hgroups : Siblings column back groups heads) (hitems : ∀ e ∈ heads, e.mark = .item) {position : Nat}
    (hposition : position < groups.length) :
    o.child? front.length (front.length + groups.flatten.length) (.index position) =
      some (front.length + (groups.take position).flatten.length) := by
  have hall : ∀ i ∈ starts front.length groups, (o.entries[i]?.map Entry.mark == some .item) = true := by
    intro i hi
    have hmem : o.entries[i]? ∈ heads.map some := by
      rw [← map_getElem?_starts h hgroups]
      exact List.mem_map_of_mem hi
    obtain ⟨head, hhead, hget⟩ := List.mem_map.mp hmem
    rw [← hget, Option.map_some, hitems head hhead]
    rfl
  rw [child?, children_eq h hgroups]
  simp only
  rw [List.filter_eq_self.mpr hall, getElem?_starts front.length hposition]

/-- The first key of a name is found. -/
theorem child?_key {column : Nat} {front back : List Entry} {groups : List (List Entry)}
    {heads : List Entry} (h : o.entries = (front ++ (groups.flatten ++ back)).toArray)
    (hgroups : Siblings column back groups heads) {name : List Char} {position : Nat} {head : Entry}
    (hhead : heads[position]? = some head) (hmark : head.mark = .key name)
    (hbefore : ∀ n < position, ∀ e, heads[n]? = some e → e.mark ≠ .key name) :
    o.child? front.length (front.length + groups.flatten.length) (.key (String.ofList name)) =
      some (front.length + (groups.take position).flatten.length) := by
  have hposition : position < groups.length := by
    rw [hgroups.length_eq]
    exact (List.getElem?_eq_some_iff.mp hhead).1
  have hstart := getElem?_starts front.length hposition
  rw [child?, children_eq h hgroups]
  simp only [String.toList_ofList]
  rw [List.find?_eq_some_iff_getElem]
  obtain ⟨hlt, hget⟩ := List.getElem?_eq_some_iff.mp hstart
  refine ⟨?_, position, hlt, hget, ?_⟩
  · rw [getElem?_of_start h hgroups hstart, hhead, Option.map_some, hmark]
    simp
  · intro n hn
    have hnlt : n < (starts front.length groups).length := Nat.lt_trans hn hlt
    have hother := getElem?_of_start h hgroups (List.getElem?_eq_getElem hnlt)
    have hlength : n < heads.length := by
      rw [← hgroups.length_eq]
      omega
    rw [hother, List.getElem?_eq_getElem hlength, Option.map_some]
    have hne := hbefore n hn _ (List.getElem?_eq_getElem hlength)
    simpa using hne

/-- What is known of a group among others. -/
theorem Siblings.getElem? {column : Nat} {back : List Entry} {groups : List (List Entry)}
    {heads : List Entry} (h : Siblings column back groups heads) {position : Nat} {group : List Entry}
    {head : Entry} (hgroup : groups[position]? = some group) (hhead : heads[position]? = some head) :
    IsGroup group head ∧ Stops head ((groups.drop (position + 1)).flatten ++ back) := by
  induction h generalizing position with
  | nil => simp at hgroup
  | cons isGroup _ stops _ ih =>
    cases position with
    | zero =>
      obtain rfl := Option.some.inj hgroup
      obtain rfl := Option.some.inj hhead
      exact ⟨isGroup, stops⟩
    | succ position => exact ih hgroup hhead

end Walk

end CatalogGate.Outline
