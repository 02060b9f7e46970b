-- The law of locating: in text in block style, the path of every entry leads to exactly the place where its
-- key or its dash stands, up to the end of that line.
import CatalogGate.Proofs.Document.Descent
import CatalogGate.Proofs.Document.Reading

namespace CatalogGate.Block

open Document Outline

/-! ## Tokens as groups -/

/-- The tokens of entries are not further out than the entries. At their very column stand the entries
themselves, and items. -/
theorem columns_of_markedAll {column : Nat} {entries : List Entry}
    (h : ∀ e ∈ entries, ∀ line group, Marked line column e group → IsGroup group (e.token line column))
    {line : Nat} {groups : List (List Token)} (hmarked : MarkedAll line column entries groups) :
    ∀ t ∈ groups.flatten, column ≤ t.column ∧
      (t.column = column → t.mark = .item ∨ ∃ e ∈ entries, t.mark = e.mark) := by
  induction entries generalizing line groups with
  | nil =>
    cases hmarked
    simp
  | cons e entries ih =>
    cases hmarked with
    | @cons _ _ _ _ group groups first rest =>
      intro t ht
      have hgroup := h e List.mem_cons_self line group first
      rcases List.mem_append.mp ht with ht | ht
      · refine ⟨hgroup.column_le t ht, ?_⟩
        intro hcolumn
        rw [hgroup.eq_cons] at ht
        rcases List.mem_cons.mp ht with rfl | ht
        · exact Or.inr ⟨e, List.mem_cons_self, rfl⟩
        · have hnested := (isNested_iff _ t).mp (hgroup.nested t ht)
          rcases hnested with hlt | ⟨_, _, hitem⟩
          · simp only [Entry.token] at hlt
            omega
          · exact Or.inl hitem
      · obtain ⟨hle, hmark⟩ := ih (fun e' he' => h e' (List.mem_cons_of_mem _ he')) rest t ht
        refine ⟨hle, fun hcolumn => ?_⟩
        rcases hmark hcolumn with hitem | ⟨e', he', hmark⟩
        · exact Or.inl hitem
        · exact Or.inr ⟨e', List.mem_cons_of_mem _ he', hmark⟩

theorem Orderly.all_items {first : Entry} {others : List Entry} (h : Orderly (first :: others))
    (hfirst : first.mark = .item) : ∀ e ∈ first :: others, e.mark = .item := by
  rcases h with hitems | ⟨hkeys, _⟩
  · exact hitems
  · exact absurd hfirst (hkeys first List.mem_cons_self)

/-- The tokens of an entry are nested under its own. -/
theorem isGroup_of_marked {column : Nat} {e : Entry} (h : Laid column e) :
    ∀ line group, Marked line column e group → IsGroup group (e.token line column) := by
  induction h with
  | scalar =>
    intro line group hmarked
    cases hmarked with
    | scalar further =>
      refine ⟨rfl, fun t ht => ?_⟩
      rw [isNested_iff]
      exact Or.inl (further t ht)
  | @keyed column inner key rest first others _ _ _ _ orderly further _ ih =>
    intro line group hmarked
    cases hmarked with
    | keyed inside =>
      refine ⟨rfl, fun t ht => ?_⟩
      obtain ⟨hle, hmark⟩ := columns_of_markedAll ih inside t ht
      rw [isNested_iff]
      rcases further with hlt | ⟨rfl, hitem⟩
      · exact Or.inl (Nat.lt_of_lt_of_le hlt hle)
      · by_cases hcolumn : t.column = column
        · refine Or.inr ⟨by simp [Entry.token, Entry.mark, Entry.label, Label.mark], hcolumn, ?_⟩
          rcases hmark hcolumn with hmark | ⟨e, he, hmark⟩
          · exact hmark
          · rw [hmark, orderly.all_items hitem e he]
        · exact Or.inl (by simp only [Entry.token]; omega)
  | @dashed column gap first others _ _ _ ih =>
    intro line group hmarked
    cases hmarked with
    | dashed inside =>
      refine ⟨rfl, fun t ht => ?_⟩
      obtain ⟨hle, _⟩ := columns_of_markedAll ih inside t ht
      rw [isNested_iff]
      exact Or.inl (by simp only [Entry.token]; omega)

/-! ## Entries as siblings -/

/-- The own tokens of entries at a column. -/
def headsOf (line column : Nat) : List Entry → List Token
  | [] => []
  | e :: rest => e.token line column :: headsOf (line + e.height column) column rest

theorem map_mark_headsOf (line column : Nat) (entries : List Entry) :
    (headsOf line column entries).map Outline.Entry.mark = entries.map Entry.mark := by
  induction entries generalizing line with
  | nil => rfl
  | cons e entries ih =>
    rw [headsOf, List.map_cons, List.map_cons, ih]
    rfl

theorem lineOf_succ (line column : Nat) (e : Entry) (entries : List Entry) (position : Nat) :
    lineOf line column (e :: entries) (position + 1) =
      lineOf (line + e.height column) column entries position := by
  rw [lineOf, lineOf, List.take_succ_cons, length_linesOf_cons, Nat.add_assoc]

theorem getElem?_headsOf {entries : List Entry} {position : Nat} {e : Entry} (line column : Nat)
    (h : entries[position]? = some e) :
    (headsOf line column entries)[position]? = some (e.token (lineOf line column entries position) column) := by
  induction entries generalizing line position with
  | nil => simp at h
  | cons first entries ih =>
    cases position with
    | zero =>
      obtain rfl : first = e := by simpa using h
      rfl
    | succ position =>
      rw [headsOf, List.getElem?_cons_succ, ih _ (by simpa using h), lineOf_succ]

theorem MarkedAll.getElem? {line column : Nat} {entries : List Entry} {groups : List (List Token)}
    (h : MarkedAll line column entries groups) {position : Nat} {e : Entry}
    (hentry : entries[position]? = some e) :
    ∃ group, groups[position]? = some group ∧ Marked (lineOf line column entries position) column e group := by
  induction entries generalizing line groups position with
  | nil => simp at hentry
  | cons first entries ih =>
    cases h with
    | cons hfirst rest =>
      cases position with
      | zero =>
        obtain rfl : first = e := by simpa using hentry
        exact ⟨_, rfl, hfirst⟩
      | succ position =>
        rw [lineOf_succ]
        exact ih rest (by simpa using hentry)

theorem MarkedAll.position_lt {line column : Nat} {entries : List Entry} {groups : List (List Token)}
    (h : MarkedAll line column entries groups) {position : Nat} {e : Entry}
    (hentry : entries[position]? = some e) : position < groups.length := by
  obtain ⟨group, hgroup, _⟩ := h.getElem? hentry
  exact (List.getElem?_eq_some_iff.mp hgroup).1

/-- Nothing behind entries at a column belongs to one of them. -/
def Closed (column : Nat) (entries : List Entry) (back : List Token) : Prop :=
  ∀ e ∈ entries, ∀ line, Stops (e.token line column) back

/-- No entry of a mapping or sequence is nested under another one. -/
theorem Orderly.not_nested {entries : List Entry} (h : Orderly entries) {e e' : Entry} (he : e ∈ entries)
    (he' : e' ∈ entries) (line line' column : Nat) :
    isNested (e.token line column) (e'.token line' column) = false := by
  rw [← Bool.not_eq_true, isNested_iff]
  simp only [Entry.token]
  rintro (hlt | ⟨hkey, _, hitem⟩)
  · omega
  · rcases h with hitems | ⟨hkeys, _⟩
    · exact hkey (hitems e he)
    · exact hkeys e' he' hitem

theorem Orderly.tail {e : Entry} {entries : List Entry} (h : Orderly (e :: entries)) : Orderly entries := by
  rcases h with hitems | ⟨hkeys, hnodup⟩
  · exact Or.inl fun e' he' => hitems e' (List.mem_cons_of_mem _ he')
  · exact Or.inr ⟨fun e' he' => hkeys e' (List.mem_cons_of_mem _ he'), (List.nodup_cons.mp hnodup).2⟩

theorem siblings_of_markedAll {column : Nat} {entries : List Entry} (hlaid : ∀ e ∈ entries, Laid column e)
    (horderly : Orderly entries) {back : List Token} (hback : Closed column entries back) {line : Nat}
    {groups : List (List Token)} (hmarked : MarkedAll line column entries groups) :
    Siblings column back groups (headsOf line column entries) := by
  induction entries generalizing line groups with
  | nil =>
    cases hmarked
    exact .nil
  | cons e entries ih =>
    cases hmarked with
    | @cons _ _ _ _ group groups first rest =>
      refine .cons (isGroup_of_marked (hlaid e List.mem_cons_self) line group first) rfl ?_
        (ih (fun e' he' => hlaid e' (List.mem_cons_of_mem _ he')) horderly.tail
          (fun e' he' => hback e' (List.mem_cons_of_mem _ he')) rest)
      -- Next comes an entry beside this one, or what is behind all of them.
      cases rest with
      | nil => simpa using hback e List.mem_cons_self line
      | @cons _ _ next entries group groups hnext _ =>
        have hmem : next ∈ e :: next :: entries := by simp
        have hgroup := isGroup_of_marked (hlaid next hmem) _ group hnext
        intro t ht
        rw [List.flatten_cons, hgroup.eq_cons] at ht
        obtain rfl : next.token _ column = t := by simpa using ht
        exact horderly.not_nested List.mem_cons_self hmem _ _ _

/-! ## Descending -/

/-- The walk down a path ends at a token with a range. -/
def EndsAt (o : Outline) (trail : List Nat) (range : Range) : Prop :=
  ∃ i t, trail.getLast? = some i ∧ o.entries[i]? = some t ∧ t.range = range

theorem EndsAt.cons {o : Outline} {trail : List Nat} {range : Range} (h : EndsAt o trail range) (i : Nat) :
    EndsAt o (i :: trail) range := by
  obtain ⟨j, t, hlast, hget, hrange⟩ := h
  have hne : trail ≠ [] := by
    rintro rfl
    exact nomatch hlast
  exact ⟨j, t, by rw [List.getLast?_cons_of_ne_nil hne, hlast], hget, hrange⟩

theorem descend_cons {o : Outline} {low high i : Nat} {step : Json.Step} {path : Json.Path}
    (h : o.child? low high step = some i) :
    o.descend low high (step :: path) = i :: o.descend (i + 1) (o.subtreeEnd i) path := by
  simp only [descend, h]

section Descent

variable {o : Outline} {line column : Nat} {entries : List Entry} {front back : List Token}
  {groups : List (List Token)} (h : o.entries = (front ++ (groups.flatten ++ back)).toArray)
  (hlaid : ∀ e ∈ entries, Laid column e) (horderly : Orderly entries) (hback : Closed column entries back)
  (hmarked : MarkedAll line column entries groups)

include h hlaid horderly hback hmarked

theorem child?_step {position : Nat} {e : Entry} (hentry : entries[position]? = some e) :
    o.child? front.length (front.length + groups.flatten.length) (e.step position) =
      some (front.length + (groups.take position).flatten.length) := by
  have hsiblings := siblings_of_markedAll hlaid horderly hback hmarked
  have hhead := getElem?_headsOf line column hentry
  have hmem := List.mem_of_getElem? hentry
  have hmarks := map_mark_headsOf line column entries
  unfold Entry.step
  cases hmark : e.mark with
  | item =>
    have hitems : ∀ e' ∈ entries, e'.mark = .item := by
      rcases horderly with hitems | ⟨hkeys, _⟩
      · exact hitems
      · exact absurd hmark (hkeys e hmem)
    have hheads : ∀ t ∈ headsOf line column entries, t.mark = .item := by
      intro t ht
      have htmark := List.mem_map_of_mem (f := Outline.Entry.mark) ht
      rw [hmarks] at htmark
      obtain ⟨e', he', heq⟩ := List.mem_map.mp htmark
      rw [← heq, hitems e' he']
    exact child?_index h hsiblings hheads (hmarked.position_lt hentry)
  | key name =>
    have hnodup : ((headsOf line column entries).map Outline.Entry.mark).Nodup := by
      rw [hmarks]
      rcases horderly with hitems | ⟨_, hnodup⟩
      · exact nomatch (hitems e hmem).symm.trans hmark
      · exact hnodup
    refine child?_key h hsiblings hhead hmark fun n hn t ht htmark => ?_
    have hlt : n < ((headsOf line column entries).map Outline.Entry.mark).length := by
      rw [List.length_map]
      exact (List.getElem?_eq_some_iff.mp ht).1
    have hsame : ((headsOf line column entries).map Outline.Entry.mark)[n]? =
        ((headsOf line column entries).map Outline.Entry.mark)[position]? := by
      rw [List.getElem?_map, List.getElem?_map, ht, hhead, Option.map_some, Option.map_some, htmark]
      exact congrArg some hmark.symm
    have := (List.getElem?_inj hlt hnodup).mp hsame
    omega

/-- Where an entry stands among the tokens, and what its own tokens are in front of. -/
theorem split_at {position : Nat} {e : Entry} (hentry : entries[position]? = some e) {inside : List Token}
    (hgroup : groups[position]? = some (e.token (lineOf line column entries position) column :: inside)) :
    ∃ front' back', front'.length = front.length + (groups.take position).flatten.length + 1 ∧
      o.entries = (front' ++ (inside ++ back')).toArray ∧
      o.subtreeEnd (front.length + (groups.take position).flatten.length) = front'.length + inside.length ∧
      Stops (e.token (lineOf line column entries position) column) back' := by
  have hsiblings := siblings_of_markedAll hlaid horderly hback hmarked
  obtain ⟨hisGroup, hstops⟩ := hsiblings.getElem? hgroup (getElem?_headsOf line column hentry)
  obtain ⟨hlt, hget⟩ := List.getElem?_eq_some_iff.mp hgroup
  have hsplit : groups.flatten = (groups.take position).flatten ++
      (e.token (lineOf line column entries position) column :: inside ++
        (groups.drop (position + 1)).flatten) := by
    rw [← hget, ← List.flatten_cons, List.getElem_cons_drop, ← List.flatten_append, List.take_append_drop]
  have hat : o.entries = ((front ++ (groups.take position).flatten) ++
      (e.token (lineOf line column entries position) column :: inside ++
        ((groups.drop (position + 1)).flatten ++ back))).toArray := by
    rw [h, hsplit]
    simp
  have hend := subtreeEnd_eq hat hisGroup hstops
  refine ⟨front ++ (groups.take position).flatten ++ [e.token (lineOf line column entries position) column],
    (groups.drop (position + 1)).flatten ++ back, ?_, ?_, ?_, hstops⟩
  · rw [List.length_append, List.length_append, List.length_singleton]
  · rw [hat]
    simp
  · simp only [List.length_append, List.length_cons, List.length_nil] at hend ⊢
    omega

/-- A walk that starts with an entry goes on among the tokens of that entry. -/
theorem descend_into {position : Nat} {e : Entry} (hentry : entries[position]? = some e) {inside : List Token}
    (hgroup : groups[position]? = some (e.token (lineOf line column entries position) column :: inside))
    {path : Json.Path} {range : Range}
    (hinside : ∀ front' back', o.entries = (front' ++ (inside ++ back')).toArray →
      Stops (e.token (lineOf line column entries position) column) back' →
        EndsAt o (o.descend front'.length (front'.length + inside.length) path) range) :
    EndsAt o (o.descend front.length (front.length + groups.flatten.length) (e.step position :: path))
      range := by
  obtain ⟨front', back', hfront, hsplit, hend, hstops⟩ :=
    split_at h hlaid horderly hback hmarked hentry hgroup
  have hrest := hinside front' back' hsplit hstops
  rw [← hend, hfront] at hrest
  rw [descend_cons (child?_step h hlaid horderly hback hmarked hentry)]
  exact hrest.cons _

end Descent

/-- Where nothing is nested under an entry, nothing is nested under those in it. -/
theorem stops_inside {owner inner : Token} {back : List Token} (h : Stops owner back)
    (hinner : owner.column < inner.column ∨ (owner.column = inner.column ∧ owner.mark ≠ .item)) :
    Stops inner back := by
  intro t ht
  have hnot := h t ht
  rw [← Bool.not_eq_true, isNested_iff] at hnot ⊢
  rintro (hlt | ⟨_, hcolumn, hitem⟩)
  · exact hnot (Or.inl (by omega))
  · rcases hinner with hlt | ⟨hsame, hkey⟩
    · exact hnot (Or.inl (by omega))
    · exact hnot (Or.inr ⟨hkey, by omega, hitem⟩)

theorem range_token (line column : Nat) (e : Entry) : (e.token line column).range = e.range line column := by
  simp only [Outline.Entry.range, Entry.token, Entry.range]
  rw [Nat.max_eq_left (Nat.le_add_right ..)]

/-- Whatever is in front of the entries and behind them, the walk among them follows the path to where it
leads. -/
theorem descend_endsAt {line column : Nat} {entries : List Entry} {path : Json.Path} {range : Range}
    (hstands : Stands line column entries path range) {o : Outline} {front back : List Token}
    {groups : List (List Token)} (h : o.entries = (front ++ (groups.flatten ++ back)).toArray)
    (hlaid : ∀ e ∈ entries, Laid column e) (horderly : Orderly entries)
    (hback : Closed column entries back) (hmarked : MarkedAll line column entries groups) :
    EndsAt o (o.descend front.length (front.length + groups.flatten.length) path) range := by
  induction hstands generalizing front back groups with
  | @here line column position entries e entry =>
    have hchild := child?_step h hlaid horderly hback hmarked entry
    have hsiblings := siblings_of_markedAll hlaid horderly hback hmarked
    have hhead := getElem?_headsOf line column entry
    have hstart := getElem?_starts front.length (hmarked.position_lt entry)
    refine ⟨front.length + (groups.take position).flatten.length, _, ?_, ?_, range_token _ column e⟩
    · rw [descend_cons hchild, descend, List.getLast?_singleton]
    · rw [getElem?_of_start h hsiblings hstart, hhead]
  | @under line column inner position entries others key rest first path range entry _ ih =>
    obtain ⟨group, hgroup, hentry⟩ := hmarked.getElem? entry
    cases hlaid _ (List.mem_of_getElem? entry) with
    | keyed _ _ _ _ orderly further inside =>
      cases hentry with
      | @keyed _ _ _ _ _ _ _ subgroups hsub =>
        refine descend_into h hlaid horderly hback hmarked entry hgroup fun front' back' hsplit hstops => ?_
        refine ih hsplit inside orderly (fun e he line' => stops_inside hstops ?_) hsub
        rcases further with hlt | ⟨hsame, _⟩
        · exact Or.inl hlt
        · exact Or.inr ⟨hsame, by simp [Entry.token, Entry.mark, Entry.label, Label.mark]⟩
  | @beside line column gap position entries others first path range entry _ ih =>
    obtain ⟨group, hgroup, hentry⟩ := hmarked.getElem? entry
    cases hlaid _ (List.mem_of_getElem? entry) with
    | dashed _ orderly inside =>
      cases hentry with
      | @dashed _ _ _ _ _ subgroups hsub =>
        refine descend_into h hlaid horderly hback hmarked entry hgroup fun front' back' hsplit hstops => ?_
        refine ih hsplit inside orderly (fun e he line' => stops_inside hstops ?_) hsub
        exact Or.inl (by simp only [Entry.token]; omega)

/-- A document whose lines are those of well laid entries. -/
theorem rangeOf_of_lines {d : Document} {column : Nat} {entries : List Entry}
    (hlines : d.lines = linesOf column entries) (hlaid : ∀ e ∈ entries, Laid column e)
    (horderly : Orderly entries) {path : Json.Path} {range : Range}
    (hstands : Stands 0 column entries path range) : (Outline.ofDocument d).rangeOf path = range := by
  obtain ⟨groups, hentries, hmarked⟩ := exists_marked hlines hlaid
  have hsplit : (Outline.ofDocument d).entries = ([] ++ (groups.flatten ++ [])).toArray := by simp [hentries]
  have hclosed : Closed column entries [] := fun e _ line t ht => nomatch ht
  obtain ⟨i, t, hlast, hget, hrange⟩ := descend_endsAt hstands hsplit hlaid horderly hclosed hmarked
  have hsize : (Outline.ofDocument d).entries.size = ([] : List Token).length + groups.flatten.length := by
    simp [hentries]
  rw [rangeOf, hsize]
  have hzero : ([] : List Token).length = 0 := rfl
  rw [hzero] at hlast
  simp only [hzero, hlast, Option.bind_some, hget, hrange]

/-! ## The law -/

/-- The path of every entry of a mapping or sequence that is laid out as text leads from where the key or
dash of the entry stands to the end of its line. -/
theorem rangeOf_textOf (name : String) (returns column : Nat) (first : Entry) (others : List Entry)
    (hlaid : ∀ e ∈ first :: others, Laid column e) (horderly : Orderly (first :: others))
    (path : Json.Path) (range : Range) (hstands : Stands 0 column (first :: others) path range) :
    (Outline.ofDocument ⟨name, textOf returns (linesOf column (first :: others))⟩).rangeOf path = range := by
  have hne : linesOf column (first :: others) ≠ [] := by simp [linesOf]
  have hlines := lines_textOf name returns hne
    (oneLine_linesOf fun e he => isOnLines_of_laid (hlaid e he))
  exact rangeOf_of_lines hlines hlaid horderly hstands

theorem isPlain_letter {c : Char} (hstart : c ∉ [' ', '"', '\'', '[', '{', '#', '%', '-'])
    (hstop : Text.isSpace c = false) : IsPlain [c] where
  start := ⟨c, [], rfl, hstart⟩
  stop := ⟨[], c, rfl, hstop⟩
  noQuestion := by simp
  noDots := by simp
  noColon := fun h => by simpa using h.length_le
  noComment := fun h => by simpa using h.length_le

/-- A key in the one item of a sequence that stands at the column of its key. -/
theorem rangeOf_textOf_item :
    (Outline.ofDocument ⟨"api.yaml", "a:\n- b: 1".toList⟩).rangeOf [.key "a", .index 0, .key "b"] =
      ⟨⟨1, 2⟩, ⟨1, 6⟩⟩ := by
  let leaf := Entry.scalar (.key ⟨['b'], .plain⟩) [' ', '1'] []
  let item := Entry.dashed 1 leaf []
  let root := Entry.keyed ⟨['a'], .plain⟩ [] 0 item []
  have hleaf : Laid 2 leaf := .scalar ⟨by decide, fun _ => isPlain_letter (by decide) (by decide)⟩
    (Or.inr ⟨_, rfl⟩) ⟨by decide, by decide⟩ (by simp)
  have hitem : Laid 0 item := .dashed (by decide) (Or.inr (by decide)) (by simpa using hleaf)
  have hroot : Laid 0 root := .keyed ⟨by decide, fun _ => isPlain_letter (by decide) (by decide)⟩
    (Or.inl rfl) ⟨by decide, by decide⟩ (by decide) (Or.inl (by decide)) (Or.inr ⟨rfl, rfl⟩)
    (by simpa using hitem)
  have hinner : Stands 1 2 [leaf] [.key "b"] ⟨⟨1, 2⟩, ⟨1, 6⟩⟩ :=
    @Stands.here 1 2 0 [leaf] leaf rfl
  have hmiddle : Stands 1 0 [item] [.index 0, .key "b"] ⟨⟨1, 2⟩, ⟨1, 6⟩⟩ :=
    @Stands.beside 1 0 1 0 [item] [] leaf _ _ rfl hinner
  have hstands : Stands 0 0 [root] [.key "a", .index 0, .key "b"] ⟨⟨1, 2⟩, ⟨1, 6⟩⟩ :=
    @Stands.under 0 0 0 0 [root] [] ⟨['a'], .plain⟩ [] item _ _ rfl hmiddle
  exact rangeOf_textOf "api.yaml" 0 0 root [] (by simpa using hroot) (Or.inr (by decide)) _ _ hstands

end CatalogGate.Block
