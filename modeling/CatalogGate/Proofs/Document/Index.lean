-- The laws of the index of lines. The starts in it are those of the pieces between the line feeds, and halving it
-- finds the line of an offset, so that lines and places are those of reading a text from its start.
import CatalogGate.Proofs.Document.Counting

namespace CatalogGate

/-! ## Offsets -/

namespace Text

theorem size_eq (text : List Char) : size text = text.utf8Encode.size := rfl

theorem size_append (text rest : List Char) :
    (text ++ rest).utf8Encode.size = text.utf8Encode.size + rest.utf8Encode.size := by
  rw [List.utf8Encode_append, ByteArray.size_append]

/-- A text is split at the size of what it starts with. -/
theorem splitAtOffset?_append (read front rest : List Char) :
    splitAtOffset? read front.utf8Encode.size (front ++ rest) = some (read.reverse ++ front, rest) := by
  induction front generalizing read with
  | nil => simp [splitAtOffset?]
  | cons c front ih =>
    have hpos := c.utf8Size_pos
    have hsize := size_utf8Encode_cons c front
    obtain ⟨n, hn⟩ : ∃ n, (c :: front).utf8Encode.size = n + 1 := ⟨_, (Nat.succ_pred (by omega)).symm⟩
    have hrest : n + 1 - c.utf8Size = front.utf8Encode.size := by omega
    rw [hn, List.cons_append, splitAtOffset?, if_pos (by omega), hrest, ih]
    simp

theorem slice?_append (front line rest : List Char) :
    slice? front.utf8Encode.size (front.utf8Encode.size + line.utf8Encode.size) (front ++ (line ++ rest)) =
      some line := by
  rw [slice?, if_neg (by omega), splitAtOffset?_append]
  simp only [Nat.add_sub_cancel_left, splitAtOffset?_append]
  simp

end Text

namespace Document

/-! ## Starts -/

/-- The offsets behind the line feeds of a text that starts at an offset. -/
def feedEnds (offset : Nat) : List Char → List Nat
  | [] => []
  | c :: rest => (if c = '\n' then [offset + 1] else []) ++ feedEnds (offset + c.utf8Size) rest

theorem toList_addStarts (starts : Array Nat) (offset : Nat) (text : List Char) :
    (addStarts starts offset text).toList = starts.toList ++ feedEnds offset text := by
  induction text generalizing starts offset with
  | nil => simp [addStarts, feedEnds]
  | cons c text ih =>
    rw [addStarts, ih, feedEnds]
    by_cases hc : c = '\n' <;> simp [hc]

theorem toList_startsOf (text : List Char) : (startsOf text).toList = 0 :: feedEnds 0 text :=
  toList_addStarts #[0] 0 text

theorem feedEnds_append (offset : Nat) (text rest : List Char) :
    feedEnds offset (text ++ rest) = feedEnds offset text ++ feedEnds (offset + text.utf8Encode.size) rest := by
  induction text generalizing offset with
  | nil => simp [feedEnds]
  | cons c text ih =>
    rw [List.cons_append, feedEnds, ih, feedEnds, Text.size_utf8Encode_cons, List.append_assoc, Nat.add_assoc]

theorem length_feedEnds (offset : Nat) (text : List Char) : (feedEnds offset text).length = text.count '\n' := by
  induction text generalizing offset with
  | nil => rfl
  | cons c text ih =>
    rw [feedEnds, List.length_append, ih]
    by_cases hc : c = '\n'
    · simp [hc, Nat.add_comm]
    · simp [hc]

theorem feedEnds_of_noFeed {offset : Nat} {text : List Char} (h : '\n' ∉ text) : feedEnds offset text = [] := by
  rw [← List.length_eq_zero_iff, length_feedEnds, List.count_eq_zero]
  exact h

theorem size_startsOf (text : List Char) : (startsOf text).size = (pieces text).length := by
  rw [← Array.length_toList, toList_startsOf, List.length_cons, length_feedEnds, length_pieces]

theorem lt_of_mem_feedEnds {offset x : Nat} {text : List Char} (h : x ∈ feedEnds offset text) : offset < x := by
  induction text generalizing offset with
  | nil => simp [feedEnds] at h
  | cons c text ih =>
    rcases List.mem_append.mp h with h | h
    · split at h
      · obtain rfl := List.mem_singleton.mp h
        exact Nat.lt_succ_self _
      · simp at h
    · exact Nat.lt_of_le_of_lt (Nat.le_add_right ..) (ih h)

/-- Starts come in the order of the text. -/
theorem pairwise_feedEnds (offset : Nat) (text : List Char) : (feedEnds offset text).Pairwise (· < ·) := by
  induction text generalizing offset with
  | nil => exact .nil
  | cons c text ih =>
    rw [feedEnds]
    split
    · rename_i hc
      have hsize : offset + c.utf8Size = offset + 1 := by rw [hc]; rfl
      rw [List.singleton_append]
      exact List.pairwise_cons.mpr ⟨fun x hx => hsize ▸ lt_of_mem_feedEnds hx, ih _⟩
    · exact ih _

/-- The numbers in an array grow. -/
def Grows (a : Array Nat) : Prop := ∀ i j (hij : i < j) (hj : j < a.size), a[i] < a[j]

theorem grows_startsOf (text : List Char) : Grows (startsOf text) := by
  intro i j hij hj
  have hall : (startsOf text).toList.Pairwise (· < ·) := by
    rw [toList_startsOf]
    exact List.pairwise_cons.mpr ⟨fun x hx => lt_of_mem_feedEnds hx, pairwise_feedEnds 0 text⟩
  have h := List.pairwise_iff_getElem.mp hall i j (by rw [Array.length_toList]; omega) (by simpa using hj) hij
  simpa using h

/-! ## Lines in their text -/

/-- A line of a text, between what stands in front of it and what stands behind it. -/
structure IsLine (text : List Char) (n : Nat) (front line behind : List Char) : Prop where
  text_eq : text = front ++ (line ++ behind)
  number : front.count '\n' = n
  opened : front = [] ∨ ∃ before, front = before ++ ['\n']
  noFeed : '\n' ∉ line
  closed : behind = [] ∨ ∃ after, behind = '\n' :: after

/-- Nothing stands in front of the first line. -/
theorem IsLine.front_eq_nil {text front line behind : List Char} (h : IsLine text 0 front line behind) :
    front = [] := by
  rcases h.opened with hnil | ⟨before, rfl⟩
  · exact hnil
  · have hcount := h.number
    simp at hcount

theorem IsLine.cons {c : Char} {text front line behind : List Char} {n : Nat} (hc : c ≠ '\n')
    (h : IsLine text (n + 1) front line behind) : IsLine (c :: text) (n + 1) (c :: front) line behind where
  text_eq := by rw [h.text_eq]; rfl
  number := by rw [List.count_cons_of_ne hc, h.number]
  opened := by
    rcases h.opened with rfl | ⟨before, rfl⟩
    · exact absurd h.number (by simp)
    · exact Or.inr ⟨c :: before, rfl⟩
  noFeed := h.noFeed
  closed := h.closed

theorem exists_isLine {text piece : List Char} {n : Nat} (h : (pieces text)[n]? = some piece) :
    ∃ front behind, IsLine text n front piece behind := by
  induction text using pieces_induction generalizing n piece with
  | nil =>
    cases n with
    | zero =>
      obtain rfl := Option.some.inj h
      exact ⟨[], [], rfl, rfl, .inl rfl, by simp, .inl rfl⟩
    | succ n => simp at h
  | feed text ih =>
    cases n with
    | zero =>
      obtain rfl := Option.some.inj h
      exact ⟨[], '\n' :: text, rfl, rfl, .inl rfl, by simp, .inr ⟨text, rfl⟩⟩
    | succ n =>
      obtain ⟨front, behind, hline⟩ := ih (List.getElem?_cons_succ ▸ h)
      refine ⟨'\n' :: front, behind, by rw [hline.text_eq]; rfl, by rw [List.count_cons_self, hline.number], ?_,
        hline.noFeed, hline.closed⟩
      rcases hline.opened with rfl | ⟨before, rfl⟩
      · exact Or.inr ⟨[], rfl⟩
      · exact Or.inr ⟨'\n' :: before, rfl⟩
  | char c text first more hc _ ih =>
    cases n with
    | zero =>
      obtain rfl := Option.some.inj h
      obtain ⟨front, behind, hline⟩ := ih (n := 0) rfl
      obtain rfl := hline.front_eq_nil
      refine ⟨[], behind, by rw [hline.text_eq]; rfl, rfl, .inl rfl, ?_, hline.closed⟩
      simpa [hc.symm] using hline.noFeed
    | succ n =>
      obtain ⟨front, behind, hline⟩ := ih (n := n + 1) h
      exact ⟨c :: front, behind, hline.cons hc⟩

namespace IsLine

variable {text front line behind : List Char} {n : Nat}

theorem feedEnds_eq (h : IsLine text n front line behind) :
    feedEnds 0 text = feedEnds 0 front ++ feedEnds (front.utf8Encode.size + line.utf8Encode.size) behind := by
  rw [h.text_eq, feedEnds_append, feedEnds_append, feedEnds_of_noFeed h.noFeed, Nat.zero_add, List.nil_append]

/-- A line starts where what stands in front of it ends. -/
theorem start (h : IsLine text n front line behind) : (startsOf text)[n]? = some front.utf8Encode.size := by
  rw [← Array.getElem?_toList, toList_startsOf, h.feedEnds_eq]
  have hnumber := h.number
  rcases h.opened with rfl | ⟨before, rfl⟩
  · obtain rfl := hnumber
    rfl
  · have hlength : (feedEnds 0 before).length + 1 = n := by rw [length_feedEnds]; simpa using hnumber
    have hlast : feedEnds 0 (before ++ ['\n']) = feedEnds 0 before ++ [(before ++ ['\n']).utf8Encode.size] := by
      rw [feedEnds_append, size_utf8Encode_concat, Nat.zero_add]
      rfl
    rw [hlast, ← hlength, List.getElem?_cons_succ, List.append_assoc, List.getElem?_append_right (Nat.le_refl _),
      Nat.sub_self]
    rfl

/-- The next line starts behind the line feed, if there is one. -/
theorem next (h : IsLine text n front line behind) :
    (startsOf text)[n + 1]? =
      if behind = [] then none else some (front.utf8Encode.size + line.utf8Encode.size + 1) := by
  rw [← Array.getElem?_toList, toList_startsOf, h.feedEnds_eq, List.getElem?_cons_succ,
    List.getElem?_append_right (by rw [length_feedEnds, h.number]), length_feedEnds, h.number, Nat.sub_self]
  rcases h.closed with rfl | ⟨after, rfl⟩ <;> rfl

theorem lineEnd_eq (h : IsLine text n front line behind) :
    lineEnd (startsOf text) text n = front.utf8Encode.size + line.utf8Encode.size := by
  rw [lineEnd, h.next]
  rcases h.closed with rfl | ⟨after, rfl⟩
  · rw [if_pos rfl, Text.size_eq, h.text_eq, List.append_nil, Text.size_append]
  · rw [if_neg (List.cons_ne_nil _ _)]
    rfl

/-- The line is cut out of the text. -/
theorem lineIn?_eq_some (h : IsLine text n front line behind) :
    lineIn? (startsOf text) text n = some (trimLine line) := by
  rw [lineIn?, h.start]
  simp only [h.lineEnd_eq]
  rw [h.text_eq, Text.slice?_append]
  rfl

end IsLine

/-! ## The lines of a document -/

theorem lineIn?_eq (text : List Char) (n : Nat) :
    lineIn? (startsOf text) text n = (pieces text)[n]?.map trimLine := by
  cases h : (pieces text)[n]? with
  | some piece =>
    obtain ⟨front, behind, hline⟩ := exists_isLine h
    exact hline.lineIn?_eq_some
  | none =>
    have hnone : (startsOf text)[n]? = none := by
      rw [Array.getElem?_eq_none_iff, size_startsOf]
      exact List.getElem?_eq_none_iff.mp h
    rw [lineIn?, hnone]
    rfl

theorem line?_eq (d : Document) (n : Nat) : d.line? n = (pieces d.text)[n]?.map trimLine := lineIn?_eq d.text n

theorem lineCount_eq (d : Document) : d.lineCount = (pieces d.text).length := size_startsOf d.text

/-- The elements of a list are those at its positions. -/
theorem filterMap_range_getElem? {α : Type} (l : List α) : (List.range l.length).filterMap (l[·]?) = l := by
  induction l with
  | nil => rfl
  | cons x l ih =>
    rw [List.length_cons, List.range_succ_eq_map, List.filterMap_cons, List.filterMap_map]
    exact congrArg (x :: ·) ih

theorem lines_eq (d : Document) : d.lines = (pieces d.text).map trimLine := by
  have hline : lineIn? d.lineStarts d.text = (((pieces d.text).map trimLine)[·]?) := by
    funext n
    rw [List.getElem?_map]
    exact lineIn?_eq d.text n
  have hcount : d.lineStarts.size = ((pieces d.text).map trimLine).length := by
    rw [List.length_map]
    exact lineCount_eq d
  rw [lines, hline]
  simp only [hcount]
  exact filterMap_range_getElem? _

/-! ## Halving -/

/-- The last number of an array that is not above `x`, or the first one if all of them are. -/
structure IsLast (a : Array Nat) (x : Nat) (i : Fin a.size) : Prop where
  notAbove : i.val = 0 ∨ a[i] ≤ x
  above : ∀ j (hj : j < a.size), i.val < j → x < a[j]

/-- Halving keeps a stretch whose first number is not above `x` while all behind the stretch are. -/
theorem isLast_bisect {a : Array Nat} (hgrows : Grows a) {x base size : Nat} (hsize : 0 < size)
    (hbound : base + size ≤ a.size) (hbase : base = 0 ∨ a[base] ≤ x)
    (habove : ∀ j (hj : j < a.size), base + size ≤ j → x < a[j]) : IsLast a x (bisect a x base size hsize hbound) := by
  fun_induction bisect a x base size hsize hbound with
  | case1 base size hsize hbound hone hless ih =>
    refine ih hbase fun j hj hmid => ?_
    -- The number in the middle is above, and the ones behind it are greater.
    rcases Nat.lt_or_eq_of_le (show base + size / 2 ≤ j by omega) with hlt | rfl
    · exact Nat.lt_trans hless (hgrows _ _ hlt hj)
    · exact hless
  | case2 base size hsize hbound hone hnot ih =>
    exact ih (.inr (Nat.le_of_not_lt hnot)) fun j hj hmid => habove j hj (by omega)
  | case3 base size hsize hbound hone =>
    refine ⟨hbase, fun j hj hlt => habove j hj ?_⟩
    have hbehind : base < j := hlt
    omega

/-- The line of an offset is the last one that starts at it or in front of it. -/
theorem exists_lineOf?_eq_some {a : Array Nat} (hgrows : Grows a) {x : Nat} (hpos : 0 < a.size) (hfirst : a[0] ≤ x) :
    ∃ (n : Nat) (hn : n < a.size), lineOf? a x = some n ∧ a[n] ≤ x ∧ ∀ hnext : n + 1 < a.size, x < a[n + 1] := by
  have hlast := isLast_bisect hgrows (x := x) hpos (Nat.le_of_eq (Nat.zero_add _)) (.inl rfl)
    fun j hj hle => absurd hj (by omega)
  obtain ⟨i, hbisect⟩ : ∃ i, bisect a x 0 a.size hpos (by omega) = i := ⟨_, rfl⟩
  rw [hbisect] at hlast
  have hle : a[i] ≤ x := by
    rcases hlast.notAbove with hzero | hle
    · simpa [hzero] using hfirst
    · exact hle
  refine ⟨i.val, i.isLt, ?_, hle, fun hnext => hlast.above _ hnext (Nat.lt_succ_self _)⟩
  rw [lineOf?, search, dif_pos hpos]
  simp only [hbisect]
  by_cases heq : a[i] = x
  · rw [if_pos heq]
  · rw [if_neg heq, if_pos (Nat.lt_of_le_of_ne hle heq)]

/-! ## Places by the index -/

/-- Counting on a line only, up to an offset that is not behind it. -/
theorem positionFrom_line {offset index : Nat} (n count : Nat) {line : List Char} (behind : List Char)
    (hfeed : '\n' ∉ line) (h : offset ≤ index + line.utf8Encode.size) :
    positionFrom offset index ⟨n, count⟩ (line ++ behind) =
      ⟨n, Text.countBefore offset count index (line ++ behind)⟩ := by
  induction line generalizing index count with
  | nil =>
    have hle : offset ≤ index := h
    cases behind with
    | nil => rfl
    | cons c behind => rw [List.nil_append, positionFrom, Text.countBefore, if_neg (by omega), if_neg (by omega)]
  | cons c line ih =>
    rw [Text.size_utf8Encode_cons] at h
    rw [List.cons_append, positionFrom, Text.countBefore]
    split
    · rw [if_neg (by rintro rfl; simp at hfeed)]
      exact ih _ (fun hmem => hfeed (List.mem_cons_of_mem _ hmem)) (by omega)
    · rfl

theorem IsLine.behindAll_eq {text front line behind : List Char} {n : Nat} (h : IsLine text n front line behind) :
    Position.zero.behindAll front = ⟨n, 0⟩ := by
  rw [Position.zero_behindAll, h.number]
  rcases h.opened with rfl | ⟨before, rfl⟩
  · rfl
  · rw [List.rtakeWhile_concat_neg _ _ _ (by simp)]
    rfl

/-- An offset that is past the end means the end. -/
theorem positionFrom_min (offset : Nat) (text : List Char) :
    positionFrom (min offset text.utf8Encode.size) 0 .zero text = positionFrom offset 0 .zero text := by
  rcases Nat.le_total offset text.utf8Encode.size with h | h
  · rw [Nat.min_eq_left h]
  · have hall : ∀ m, text.utf8Encode.size ≤ m → positionFrom m 0 .zero text = Position.zero.behindAll text := by
      intro m hm
      rw [← List.append_nil text, positionFrom_append .zero [] (by simpa using hm), List.append_nil]
      rfl
    rw [Nat.min_eq_right h, hall _ (Nat.le_refl _), hall offset h]

/-- The line that halving the index finds for an offset in a text is the one on which the offset is. -/
theorem exists_isLine_of_offset {text : List Char} {offset : Nat} (h : offset ≤ text.utf8Encode.size) :
    ∃ n front line behind, IsLine text n front line behind ∧ lineOf? (startsOf text) offset = some n ∧
      front.utf8Encode.size ≤ offset ∧ offset ≤ front.utf8Encode.size + line.utf8Encode.size := by
  have hpos : 0 < (startsOf text).size := by rw [size_startsOf, length_pieces]; omega
  have hfirst : (startsOf text)[0] = 0 := by
    have hhead : (startsOf text)[0]? = some 0 := by rw [← Array.getElem?_toList, toList_startsOf]; rfl
    exact (Array.getElem?_eq_some_iff.mp hhead).2
  obtain ⟨n, hn, hfound, hle, habove⟩ :=
    exists_lineOf?_eq_some (grows_startsOf text) hpos (x := offset) (Nat.le_trans (Nat.le_of_eq hfirst) (Nat.zero_le _))
  obtain ⟨line, hline⟩ : ∃ line, (pieces text)[n]? = some line := by
    rw [size_startsOf] at hn
    exact ⟨_, List.getElem?_eq_getElem hn⟩
  obtain ⟨front, behind, hline⟩ := exists_isLine hline
  refine ⟨n, front, line, behind, hline, hfound, ?_, ?_⟩
  · rwa [(Array.getElem?_eq_some_iff.mp hline.start).2] at hle
  · have hnext := hline.next
    split at hnext
    · rename_i hnil
      rwa [hline.text_eq, hnil, List.append_nil, Text.size_append] at h
    · obtain ⟨hbound, hnext⟩ := Array.getElem?_eq_some_iff.mp hnext
      have hless := habove hbound
      omega

/-- The index finds the place to which counting from the start of the text leads. -/
theorem positionIn?_eq (text : List Char) (offset : Nat) :
    positionIn? (startsOf text) text offset = some (positionFrom offset 0 .zero text) := by
  obtain ⟨n, front, line, behind, hline, hfound, hlow, hhigh⟩ :=
    exists_isLine_of_offset (Nat.min_le_right offset text.utf8Encode.size)
  have hsplit : Text.splitAtOffset? [] front.utf8Encode.size text = some (front, line ++ behind) := by
    rw [hline.text_eq, Text.splitAtOffset?_append]
    rfl
  have hcount : positionFrom (min offset text.utf8Encode.size) 0 .zero text =
      ⟨n, Text.countBefore (min offset text.utf8Encode.size) 0 front.utf8Encode.size (line ++ behind)⟩ := by
    rw [← positionFrom_line n 0 behind hline.noFeed hhigh, ← hline.behindAll_eq, ← Nat.zero_add front.utf8Encode.size,
      ← positionFrom_append .zero (line ++ behind) (by omega), ← hline.text_eq]
  rw [← positionFrom_min, hcount, positionIn?, Text.size_eq]
  simp only [hfound, hline.start, hsplit, Option.bind_eq_bind, Option.bind_some]
  rfl

theorem positionIn?_lineStarts (d : Document) (offset : Nat) :
    positionIn? d.lineStarts d.text offset = some (d.positionAt offset) := by
  rw [positionAt, lineStarts, positionIn?_eq]
  rfl

theorem positionAt_eq (d : Document) (offset : Nat) : d.positionAt offset = positionFrom offset 0 .zero d.text :=
  Option.some.inj ((positionIn?_lineStarts d offset).symm.trans (positionIn?_eq d.text offset))

end Document

end CatalogGate
