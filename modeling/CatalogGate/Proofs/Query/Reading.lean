-- The law of reading queries: a text is read exactly if segments write it, no text is written in two ways, and the
-- segments are as they should be unless an index has a sign or a key contains its own quote.
import CatalogGate.Proofs.Query.Grammar

namespace CatalogGate.Query

open Text (Blank Tight)

theorem readName_eq_ok_iff {text : List Char} {selector : Selector} :
    readName text = .ok selector ↔ text ≠ [] ∧ (Segment.name text).selector = selector := by
  unfold readName Segment.selector
  by_cases hempty : text = []
  · simp [hempty]
  · by_cases hstar : text = ['*'] <;> simp [hempty, hstar]

theorem Segment.text_of_bracket {s : Segment} (h : s.IsBracket) : s.text = '[' :: (s.inner ++ [']']) := by
  cases s with
  | name text => exact h.elim
  | _ => rfl

/-! ## All that is read is written -/

theorem readSegments_sound {fuel : Nat} {cs : List Char} {selectors : List Selector} (hfuel : cs.length < fuel)
    (h : readSegments fuel cs = .ok selectors) : ∃ segments : List Segment, (∀ s ∈ segments, s.IsWritten ∧ s.Fits) ∧
      cs = segments.flatMap Segment.text ∧ selectors = segments.map Segment.selector := by
  fun_induction readSegments fuel cs generalizing selectors with
  | case1 => exact absurd hfuel (Nat.not_lt_zero _)
  | case2 => exact ⟨[], List.forall_mem_nil _, rfl, (Except.ok.inj h).symm⟩
  | case3 => exact nomatch h
  | case4 fuel rest _ ih =>
    simp only [bind_eq_ok_iff] at h
    obtain ⟨selector, hname, others, hrest, hselectors⟩ := h
    obtain ⟨hne, rfl⟩ := readName_eq_ok_iff.mp hname
    have hshort : (rest.dropWhile (!endsName ·)).length < fuel :=
      Nat.lt_of_le_of_lt (List.length_dropWhile_le _ _) (Nat.lt_of_succ_lt_succ hfuel)
    obtain ⟨segments, hwritten, hcs, rfl⟩ := ih hshort hrest
    refine ⟨.name (rest.takeWhile (!endsName ·)) :: segments, ?_, ?_, (Except.ok.inj hselectors).symm⟩
    · refine List.forall_mem_cons.mpr ⟨⟨⟨hne, ?_⟩, trivial⟩, hwritten⟩
      intro c hc
      simpa using List.mem_takeWhile_imp hc
    · rw [List.flatMap_cons, ← hcs, Segment.text, List.cons_append, List.takeWhile_append_dropWhile]
  | case5 => exact nomatch h
  | case6 fuel rest inner tail hsplit ih =>
    simp only [bind_eq_ok_iff] at h
    obtain ⟨selector, hbracket, others, hrest, hselectors⟩ := h
    obtain ⟨text, rfl, rfl, hclosed⟩ := splitBracket_eq_some_iff.mp hsplit
    obtain ⟨s, his, hs, hfits, hinner, rfl⟩ := (readBracket_eq_ok_iff hclosed).mp hbracket
    have hshort : tail.length < fuel := by
      simp only [List.length_cons, List.length_append] at hfuel
      omega
    obtain ⟨segments, hwritten, rfl, rfl⟩ := ih hshort hrest
    refine ⟨s :: segments, List.forall_mem_cons.mpr ⟨⟨hs, hfits⟩, hwritten⟩, ?_, (Except.ok.inj hselectors).symm⟩
    rw [List.flatMap_cons, Segment.text_of_bracket his, hinner]
    simp
  | case7 => exact nomatch h

/-! ## All that is written is read -/

/-- Behind a segment another one starts, or the text ends. -/
theorem head?_segments {segments : List Segment} {c : Char}
    (h : (segments.flatMap Segment.text).head? = some c) : endsName c = true := by
  cases segments with
  | nil => exact nomatch h
  | cons s segments =>
    cases s with
    | name text =>
      obtain rfl : '.' = c := Option.some.inj h
      rfl
    | _ =>
      obtain rfl : '[' = c := Option.some.inj h
      rfl

theorem readSegments_name {text rest : List Char} (h : (Segment.name text).IsWritten)
    (hrest : ∀ c, rest.head? = some c → endsName c = true) {fuel : Nat} {others : List Selector}
    (hothers : readSegments fuel rest = .ok others) :
    readSegments (fuel + 1) ((Segment.name text).text ++ rest) = .ok ((Segment.name text).selector :: others) := by
  obtain ⟨hne, hends⟩ := h
  obtain ⟨c, tail, rfl⟩ := List.exists_cons_of_ne_nil hne
  have hdots : ∀ more, c :: tail ++ rest ≠ '.' :: more := by
    rintro more heq
    obtain rfl := (List.cons.inj heq).1
    exact absurd (hends '.' List.mem_cons_self) (by decide)
  have hinside : ∀ x ∈ c :: tail, (!endsName x) = true := fun x hx => by rw [hends x hx]; rfl
  have hstop : ∀ x, rest.head? = some x → (!endsName x) = false := fun x hx => by rw [hrest x hx]; rfl
  rw [Segment.text, List.cons_append, readSegments]
  · rw [takeWhile_append_of_head hinside hstop, dropWhile_append_of_head hinside hstop,
      readName_eq_ok_iff.mpr ⟨hne, rfl⟩, hothers]
    rfl
  · exact hdots

theorem readSegments_bracket {s : Segment} (his : s.IsBracket) (h : s.IsWritten) (hfits : s.Fits)
    {rest : List Char} {fuel : Nat} {others : List Selector} (hothers : readSegments fuel rest = .ok others) :
    readSegments (fuel + 1) (s.text ++ rest) = .ok (s.selector :: others) := by
  have hclosed := Segment.closed_inner h
  have hsplit : splitBracket none [] (s.inner ++ ']' :: rest) = some (s.inner, rest) :=
    splitBracket_eq_some_iff.mpr ⟨s.inner, rfl, rfl, hclosed⟩
  have hread : readBracket s.inner = .ok s.selector :=
    (readBracket_eq_ok_iff hclosed).mpr ⟨s, his, h, hfits, rfl, rfl⟩
  have htext : s.text ++ rest = '[' :: (s.inner ++ ']' :: rest) := by
    rw [Segment.text_of_bracket his]
    simp
  rw [htext, readSegments]
  simp only [hsplit, hread, hothers]
  rfl

theorem readSegments_complete {segments : List Segment} (h : ∀ s ∈ segments, s.IsWritten ∧ s.Fits) {fuel : Nat}
    (hfuel : (segments.flatMap Segment.text).length < fuel) :
    readSegments fuel (segments.flatMap Segment.text) = .ok (segments.map Segment.selector) := by
  induction segments generalizing fuel with
  | nil => cases fuel <;> rfl
  | cons s segments ih =>
    obtain ⟨⟨hwritten, hfits⟩, hrest⟩ := List.forall_mem_cons.mp h
    have hlength : 0 < s.text.length := by cases s <;> simp [Segment.text]
    rw [List.flatMap_cons, List.length_append] at hfuel
    obtain ⟨fuel, rfl⟩ : ∃ n, fuel = n + 1 := ⟨fuel - 1, by omega⟩
    have hothers : readSegments fuel (segments.flatMap Segment.text) = .ok (segments.map Segment.selector) :=
      ih hrest (by omega)
    rw [List.flatMap_cons]
    cases s with
    | name text => exact readSegments_name hwritten (fun _ => head?_segments) hothers
    | _ => exact readSegments_bracket (by trivial) hwritten hfits hothers

/-! ## Nothing is written in two ways -/

theorem QuotedKey.text_inj {k k' : QuotedKey} (h : k.IsWritten) (h' : k'.IsWritten) (heq : k.text = k'.text) :
    k = k' := by
  obtain ⟨before, quote, key, after⟩ := k
  obtain ⟨before', quote', key', after'⟩ := k'
  obtain ⟨rfl, hcore, rfl⟩ := Text.padded_inj h.before h'.before h.after h'.after (tight_core h.quote)
    (tight_core h'.quote) (by simp [core]) heq
  obtain ⟨rfl, hkey⟩ := List.cons.inj hcore
  obtain rfl : key = key' := List.append_cancel_right hkey
  rfl

theorem map_text_inj {parts parts' : List QuotedKey} (h : ∀ k ∈ parts, k.IsWritten) (h' : ∀ k ∈ parts', k.IsWritten)
    (heq : parts.map QuotedKey.text = parts'.map QuotedKey.text) : parts = parts' := by
  induction parts generalizing parts' with
  | nil => exact (List.map_eq_nil_iff.mp heq.symm).symm
  | cons k parts ih =>
    cases parts' with
    | nil => exact nomatch heq
    | cons k' parts' =>
      obtain ⟨hk, hparts⟩ := List.forall_mem_cons.mp h
      obtain ⟨hk', hparts'⟩ := List.forall_mem_cons.mp h'
      obtain ⟨htext, hrest⟩ := List.cons.inj heq
      rw [QuotedKey.text_inj hk hk' htext, ih hparts hparts' hrest]

namespace Segment

theorem text_ne_nil (s : Segment) : s.text ≠ [] := by cases s <;> exact List.cons_ne_nil _ _

theorem sign_append_inj {signed signed' : Bool} {digits digits' : List Char} (h : ∀ c ∈ digits, c.isDigit = true)
    (h' : ∀ c ∈ digits', c.isDigit = true) (heq : sign signed ++ digits = sign signed' ++ digits') :
    signed = signed' ∧ digits = digits' := by
  have hplus {digits : List Char} (h : ∀ c ∈ digits, c.isDigit = true) (rest : List Char) : digits ≠ '+' :: rest := by
    rintro rfl
    exact absurd (h _ List.mem_cons_self) (by decide)
  cases signed <;> cases signed'
  · exact ⟨rfl, heq⟩
  · exact absurd heq (hplus h digits')
  · exact absurd heq.symm (hplus h' digits)
  · exact ⟨rfl, (List.cons.inj heq).2⟩

theorem not_isQuote_of_index {c : Char} (h : c = '+' ∨ c.isDigit = true) : isQuote c = false := by
  rcases h with rfl | h
  · decide
  · exact not_isQuote_of_isDigit h

/-- The first character between brackets tells what kind of segment it is. -/
theorem inner_inj {s s' : Segment} (his : s.IsBracket) (his' : s'.IsBracket) (h : s.IsWritten) (h' : s'.IsWritten)
    (heq : s.inner = s'.inner) : s = s' := by
  obtain ⟨c, hhead, hkind⟩ := exists_head his h
  obtain ⟨c', hhead', hkind'⟩ := exists_head his' h'
  obtain rfl : c = c' := by
    rw [heq] at hhead
    exact Option.some.inj (hhead.symm.trans hhead')
  cases s with
  | name text => exact his.elim
  | star before after =>
    obtain rfl : c = '*' := hkind
    cases s' with
    | name text => exact his'.elim
    | star before' after' =>
      obtain ⟨rfl, _, rfl⟩ := Text.padded_inj h.1 h'.1 h.2 h'.2 tight_star tight_star (by simp) heq
      rfl
    | index => exact absurd hkind' (by simp [Starts])
    | keys => exact absurd hkind' (by simp [Starts, isQuote])
  | index before signed digits after =>
    cases s' with
    | name text => exact his'.elim
    | star =>
      obtain rfl : c = '*' := hkind'
      exact absurd hkind (by simp [Starts])
    | index before' signed' digits' after' =>
      obtain ⟨hb, ha, hne, hdigits⟩ := h
      obtain ⟨hb', ha', hne', hdigits'⟩ := h'
      obtain ⟨rfl, hcore, rfl⟩ := Text.padded_inj hb hb' ha ha' (tight_index hdigits) (tight_index hdigits')
        (by simp [hne]) heq
      obtain ⟨rfl, rfl⟩ := sign_append_inj hdigits hdigits' hcore
      rfl
    | keys =>
      have hquote : isQuote c = true := hkind'
      rw [not_isQuote_of_index hkind] at hquote
      cases hquote
  | keys parts =>
    have hquote : isQuote c = true := hkind
    cases s' with
    | name text => exact his'.elim
    | star =>
      obtain rfl : c = '*' := hkind'
      exact absurd hquote (by decide)
    | index =>
      rw [not_isQuote_of_index hkind'] at hquote
      cases hquote
    | keys parts' =>
      have hsplit := (splitUnion_eq_iff (closed_inner h)).mpr
        ⟨by simpa using h.1, rfl, List.forall_mem_map.mpr fun k hk => (h.2 k hk).closed⟩
      have hsplit' := (splitUnion_eq_iff (closed_inner h')).mpr
        ⟨by simpa using h'.1, rfl, List.forall_mem_map.mpr fun k hk => (h'.2 k hk).closed⟩
      rw [← heq] at hsplit'
      rw [map_text_inj h.2 h'.2 (hsplit.symm.trans hsplit')]

theorem isBracket_or_name (s : Segment) : s.IsBracket ∨ ∃ text, s = name text := by
  cases s with
  | name text => exact Or.inr ⟨text, rfl⟩
  | _ => exact Or.inl trivial

/-- Where a segment ends is told by what may stand behind it. -/
theorem text_append_inj {s s' : Segment} (h : s.IsWritten) (h' : s'.IsWritten) {rest rest' : List Char}
    (hrest : ∀ c, rest.head? = some c → endsName c = true) (hrest' : ∀ c, rest'.head? = some c → endsName c = true)
    (heq : s.text ++ rest = s'.text ++ rest') : s = s' ∧ rest = rest' := by
  rcases isBracket_or_name s with his | ⟨text, rfl⟩ <;> rcases isBracket_or_name s' with his' | ⟨text', rfl⟩
  · rw [text_of_bracket his, text_of_bracket his'] at heq
    have hbehind : s.inner ++ ']' :: rest = s'.inner ++ ']' :: rest' := by simpa using heq
    have hsplit : splitBracket none [] (s.inner ++ ']' :: rest) = some (s.inner, rest) :=
      splitBracket_eq_some_iff.mpr ⟨s.inner, rfl, rfl, closed_inner h⟩
    have hsplit' : splitBracket none [] (s.inner ++ ']' :: rest) = some (s'.inner, rest') :=
      splitBracket_eq_some_iff.mpr ⟨s'.inner, rfl, hbehind, closed_inner h'⟩
    obtain ⟨hinner, rfl⟩ := Prod.mk.inj (Option.some.inj (hsplit.symm.trans hsplit'))
    exact ⟨inner_inj his his' h h' hinner, rfl⟩
  · rw [text_of_bracket his] at heq
    exact absurd (List.cons.inj heq).1 (by decide)
  · rw [text_of_bracket his'] at heq
    exact absurd (List.cons.inj heq).1 (by decide)
  · have hall : text ++ rest = text' ++ rest' := (List.cons.inj heq).2
    have hstop {rest : List Char} (hrest : ∀ c, rest.head? = some c → endsName c = true) :
        ∀ c, rest.head? = some c → (!endsName c) = false := fun c hc => by rw [hrest c hc]; rfl
    have hinside {text : List Char} (h : (name text).IsWritten) : ∀ c ∈ text, (!endsName c) = true :=
      fun c hc => by rw [h.2 c hc]; rfl
    have htext : text = text' := by
      rw [← takeWhile_append_of_head (hinside h) (hstop hrest), hall,
        takeWhile_append_of_head (hinside h') (hstop hrest')]
    subst htext
    exact ⟨rfl, List.append_cancel_left hall⟩

end Segment

theorem flatMap_text_inj {segments segments' : List Segment} (h : ∀ s ∈ segments, s.IsWritten)
    (h' : ∀ s ∈ segments', s.IsWritten) (heq : segments.flatMap Segment.text = segments'.flatMap Segment.text) :
    segments = segments' := by
  induction segments generalizing segments' with
  | nil =>
    cases segments' with
    | nil => rfl
    | cons s' segments' => exact absurd heq.symm (by simp [Segment.text_ne_nil])
  | cons s segments ih =>
    cases segments' with
    | nil => exact absurd heq (by simp [Segment.text_ne_nil])
    | cons s' segments' =>
      obtain ⟨hs, hsegments⟩ := List.forall_mem_cons.mp h
      obtain ⟨hs', hsegments'⟩ := List.forall_mem_cons.mp h'
      rw [List.flatMap_cons, List.flatMap_cons] at heq
      obtain ⟨rfl, hrest⟩ := Segment.text_append_inj hs hs' (fun _ => head?_segments) (fun _ => head?_segments) heq
      rw [ih hsegments hsegments' hrest]

/-! ## The law -/

/-- The text without the blanks around it is a dollar sign and then the segments. -/
def Spells (text : String) (segments : List Segment) : Prop :=
  Text.trim text.toList = '$' :: segments.flatMap Segment.text

theorem read_eq_ok_iff {text : String} {q : Query} :
    read text = .ok q ↔ ∃ segments, Spells text segments ∧ (∀ s ∈ segments, s.IsWritten ∧ s.Fits) ∧
      q = ⟨Text.trimmed text, segments.map Segment.selector⟩ := by
  unfold read
  simp only
  constructor
  · intro h
    split at h
    · rename_i rest htrim
      obtain ⟨selectors, hread, hq⟩ := bind_eq_ok_iff.mp h
      obtain ⟨segments, hwritten, rfl, rfl⟩ := readSegments_sound (Nat.lt_succ_self _) hread
      exact ⟨segments, htrim, hwritten, (Except.ok.inj hq).symm⟩
    · exact nomatch h
  · rintro ⟨segments, hspells, hwritten, rfl⟩
    have hread := readSegments_complete hwritten (Nat.lt_succ_self _)
    rw [Text.trimmed, show Text.trim text.toList = _ from hspells]
    simp only [hread]
    rfl

/-- A key without its own quote hides its commas and brackets. -/
theorem QuotedKey.isWritten_of_regular {k : QuotedKey} (hb : Blank k.before) (ha : Blank k.after)
    (hquote : isQuote k.quote = true) (hkey : k.quote ∉ k.key) : k.IsWritten := by
  have hblank {cs : List Char} (h : Blank cs) : Closed [',', ']'] none cs := closed_blank (by simp [Text.isSpace]) h
  have hcore : Closed [',', ']'] none k.core := by
    refine ⟨fun _ hmem => ?_, ?_⟩
    · rcases isQuote_iff.mp hquote with h | h <;> exact absurd hmem (by rw [h]; decide)
    · rw [quoteAfter_open hquote]
      exact closed_quoted _ hkey
  exact ⟨hb, ha, hquote, ((hblank hb).append hcore).append (hblank ha)⟩

theorem Segment.isRegular_iff {s : Segment} : s.IsRegular ↔ s.IsWritten ∧ ¬ s.IsSigned ∧ ¬ s.IsJammed := by
  cases s with
  | name text => simp [IsRegular, IsWritten, IsSigned, IsJammed, endsName]
  | star before after => simp [IsRegular, IsWritten, IsSigned, IsJammed]
  | index before signed digits after =>
    simp only [IsRegular, IsWritten, IsSigned, IsJammed, not_false_iff, and_true, Bool.not_eq_true]
    tauto
  | keys parts =>
    constructor
    · rintro ⟨hne, hparts⟩
      refine ⟨⟨hne, ?_⟩, id, ?_⟩
      · intro k hk
        obtain ⟨hb, ha, hquote, hkey⟩ := hparts k hk
        exact QuotedKey.isWritten_of_regular hb ha hquote hkey
      · rintro ⟨k, hk, hjammed⟩
        exact (hparts k hk).2.2.2 hjammed
    · rintro ⟨⟨hne, hparts⟩, _, hjammed⟩
      refine ⟨hne, fun k hk => ?_⟩
      have hk' := hparts k hk
      exact ⟨hk'.before, hk'.after, hk'.quote, fun hmem => hjammed ⟨k, hk, hmem⟩⟩

/-- What is written in one way at all is written as it should be only in this way. -/
theorem spells_regular_iff {text : String} {segments : List Segment} (hspells : Spells text segments)
    (hwritten : ∀ s ∈ segments, s.IsWritten) :
    (∃ regular, Spells text regular ∧ ∀ s ∈ regular, s.IsRegular) ↔
      ∀ s ∈ segments, ¬ s.IsSigned ∧ ¬ s.IsJammed := by
  constructor
  · rintro ⟨regular, hregular, hall⟩
    have hsame : regular = segments := by
      refine flatMap_text_inj (fun s hs => (Segment.isRegular_iff.mp (hall s hs)).1) hwritten ?_
      exact (List.cons.inj (hregular.symm.trans hspells)).2
    intro s hs
    exact (Segment.isRegular_iff.mp (hall s (hsame ▸ hs))).2
  · intro h
    exact ⟨segments, hspells, fun s hs => Segment.isRegular_iff.mpr ⟨hwritten s hs, h s hs⟩⟩

/-- A text is read exactly if segments write it, and gives what they mean. They are as they should be exactly if no
index has a sign and no key contains its own quote. -/
theorem read_regular_iff (text : String) (q : Query) :
    read text = .ok q ↔ ∃ segments, Spells text segments ∧ (∀ s ∈ segments, s.IsWritten ∧ s.Fits) ∧
      q = ⟨Text.trimmed text, segments.map Segment.selector⟩ ∧
      ((∃ regular, Spells text regular ∧ ∀ s ∈ regular, s.IsRegular) ↔
        ∀ s ∈ segments, ¬ s.IsSigned ∧ ¬ s.IsJammed) := by
  rw [read_eq_ok_iff]
  refine exists_congr fun segments => and_congr_right fun hspells => and_congr_right fun hwritten => ?_
  exact (and_iff_left (spells_regular_iff hspells fun s hs => (hwritten s hs).1)).symm

/-! A sign in front of an index, and two keys without a comma between them. -/

theorem read_irregular :
    (read "$[+5]" = .ok ⟨"$[+5]", [.index 5]⟩ ∧
      ¬ ∃ regular, Spells "$[+5]" regular ∧ ∀ s ∈ regular, s.IsRegular) ∧
    read "$['a' 'b']" = .ok ⟨"$['a' 'b']", [.key "a' 'b"]⟩ ∧
      ¬ ∃ regular, Spells "$['a' 'b']" regular ∧ ∀ s ∈ regular, s.IsRegular := by
  refine ⟨⟨rfl, ?_⟩, rfl, ?_⟩
  · have hspells : Spells "$[+5]" [.index [] true ['5'] []] := rfl
    rw [spells_regular_iff hspells (by simp [Segment.IsWritten, Blank])]
    simp [Segment.IsSigned]
  · have hspells : Spells "$['a' 'b']" [.keys [⟨[], '\'', ['a', '\'', ' ', '\'', 'b'], []⟩]] := rfl
    have hclosed : QuotedKey.IsWritten ⟨[], '\'', ['a', '\'', ' ', '\'', 'b'], []⟩ :=
      ⟨Text.blank_nil, Text.blank_nil, rfl, by simp [Closed, QuotedKey.text, QuotedKey.core, quoteAfter, isQuote]⟩
    rw [spells_regular_iff hspells (by simpa [Segment.IsWritten] using hclosed)]
    simp [Segment.IsJammed]

end CatalogGate.Query
