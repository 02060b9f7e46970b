-- The grammar of queries. A text is read exactly if it is written by segments, each of which is a name behind a
-- point, or a star, an index or quoted keys between brackets, and what is read is what the segments mean.
import CatalogGate.Proofs.Query.Brackets

namespace CatalogGate.Query

open Text (Blank Tight)

/-! ## Segments as they are written -/

/-- A key between quotes, with blanks around them. -/
structure QuotedKey where
  before : List Char
  quote : Char
  key : List Char
  after : List Char

def QuotedKey.core (k : QuotedKey) : List Char := k.quote :: k.key ++ [k.quote]

def QuotedKey.text (k : QuotedKey) : List Char := k.before ++ k.core ++ k.after

/-- A comma or a closing bracket stands only in quotes. -/
structure QuotedKey.IsWritten (k : QuotedKey) : Prop where
  before : Blank k.before
  after : Blank k.after
  quote : isQuote k.quote = true
  closed : Closed [',', ']'] none k.text

inductive Segment where
  | name (text : List Char)
  | star (before after : List Char)
  | index (before : List Char) (signed : Bool) (digits after : List Char)
  | keys (parts : List QuotedKey)

namespace Segment

/-- A plus sign in front of an index. -/
def sign (signed : Bool) : List Char := if signed then ['+'] else []

/-- What stands between the brackets. -/
def inner : Segment → List Char
  | name _ => []
  | star before after => before ++ ['*'] ++ after
  | index before signed digits after => before ++ (sign signed ++ digits) ++ after
  | keys parts => commaJoined (parts.map QuotedKey.text)

def text : Segment → List Char
  | name text => '.' :: text
  | s => '[' :: (s.inner ++ [']'])

/-- The selector that a segment means. -/
def selector : Segment → Selector
  | name text => if text = ['*'] then .wildcard else .key (String.ofList text)
  | star _ _ => .wildcard
  | index _ _ digits _ => .index (Decimal.natOfDigits digits)
  | keys [k] => .key (String.ofList k.key)
  | keys parts => .union (parts.map fun k => String.ofList k.key)

/-- A segment as it is read. -/
def IsWritten : Segment → Prop
  | name text => text ≠ [] ∧ ∀ c ∈ text, endsName c = false
  | star before after => Blank before ∧ Blank after
  | index before _ digits after =>
    Blank before ∧ Blank after ∧ digits ≠ [] ∧ ∀ c ∈ digits, c.isDigit = true
  | keys parts => parts ≠ [] ∧ ∀ k ∈ parts, k.IsWritten

/-- An index has to fit into 64 bits. -/
def Fits : Segment → Prop
  | index _ _ digits _ => Decimal.natOfDigits digits < UInt64.size
  | _ => True

/-- A segment as it should be written: an index is digits, and a key does not contain its own quote. -/
def IsRegular : Segment → Prop
  | name text => text ≠ [] ∧ ∀ c ∈ text, c ≠ '.' ∧ c ≠ '['
  | star before after => Blank before ∧ Blank after
  | index before signed digits after =>
    Blank before ∧ Blank after ∧ signed = false ∧ digits ≠ [] ∧ ∀ c ∈ digits, c.isDigit = true
  | keys parts => parts ≠ [] ∧ ∀ k ∈ parts, Blank k.before ∧ Blank k.after ∧ isQuote k.quote = true ∧ k.quote ∉ k.key

/-- The index has a sign. -/
def IsSigned : Segment → Prop
  | index _ signed _ _ => signed = true
  | _ => False

/-- Some key contains its own quote. -/
def IsJammed : Segment → Prop
  | keys parts => ∃ k ∈ parts, k.quote ∈ k.key
  | _ => False

end Segment

/-! ## Keys -/

theorem QuotedKey.tight_core {k : QuotedKey} (h : isQuote k.quote = true) : Tight k.core := by
  constructor
  · intro c hc
    obtain rfl : k.quote = c := Option.some.inj hc
    exact not_space_of_isQuote h
  · intro c hc
    rw [core, List.getLast?_append, List.getLast?_singleton] at hc
    obtain rfl : k.quote = c := Option.some.inj hc
    exact not_space_of_isQuote h

theorem unquote?_eq_some_iff {cs key : List Char} :
    unquote? cs = some key ↔ ∃ q, isQuote q = true ∧ cs = q :: key ++ [q] := by
  cases cs with
  | nil => simp [unquote?]
  | cons q rest =>
    rw [unquote?]
    split
    · rename_i h
      obtain ⟨hquote, hlast⟩ := h
      obtain ⟨front, hfront⟩ := List.getLast?_eq_some_iff.mp hlast
      subst hfront
      rw [List.dropLast_concat, Option.some.injEq]
      constructor
      · rintro rfl
        exact ⟨q, hquote, rfl⟩
      · rintro ⟨_, _, h⟩
        obtain ⟨rfl, h⟩ := List.cons.inj h
        exact List.append_cancel_right h
    · rename_i h
      simp only [reduceCtorEq, false_iff]
      rintro ⟨_, hquote, heq⟩
      obtain ⟨rfl, rfl⟩ := List.cons.inj heq
      exact h ⟨hquote, by simp⟩

/-- A part is a key exactly if one kind of quote stands around it, between blanks. -/
theorem readKey_eq_ok_iff {part : List Char} {key : String} :
    readKey part = .ok key ↔ ∃ k : QuotedKey, Blank k.before ∧ Blank k.after ∧ isQuote k.quote = true ∧
      part = k.text ∧ key = String.ofList k.key := by
  constructor
  · intro h
    unfold readKey at h
    simp only at h
    split at h
    · rename_i text htext
      obtain ⟨q, hquote, hcore⟩ := unquote?_eq_some_iff.mp htext
      obtain ⟨b, a, hb, ha, _, hpart⟩ := Text.exists_padded part
      rw [hcore] at hpart
      exact ⟨⟨b, q, text, a⟩, hb, ha, hquote, hpart, (Except.ok.inj h).symm⟩
    · exact nomatch h
  · rintro ⟨k, hb, ha, hquote, rfl, rfl⟩
    have htrim : Text.trim k.text = k.core := Text.trim_padded hb ha (QuotedKey.tight_core hquote)
    have hkey : unquote? k.core = some k.key := unquote?_eq_some_iff.mpr ⟨k.quote, hquote, rfl⟩
    simp only [readKey, htrim, hkey]

theorem mapM_readKey_trim (inner : List Char) :
    (splitUnion none [] (Text.trim inner)).mapM readKey = (splitUnion none [] inner).mapM readKey := by
  have hread : readKey ∘ Text.trim = readKey := by
    funext part
    simp only [Function.comp, readKey, Text.trim_trim]
  rw [← hread, ← List.mapM_map, ← List.mapM_map, map_trim_splitUnion_trim]

theorem exists_keys_iff {inner : List Char} (h : Closed [']'] none inner) {names : List String} :
    (splitUnion none [] inner).mapM readKey = .ok names ↔ ∃ parts : List QuotedKey, parts ≠ [] ∧
      (∀ k ∈ parts, k.IsWritten) ∧ inner = commaJoined (parts.map QuotedKey.text) ∧
      names = parts.map fun k => String.ofList k.key := by
  constructor
  · intro hnames
    obtain ⟨hne, hinner, hclosed⟩ := (splitUnion_eq_iff h).mp rfl
    have hread := (List.forall₂_and_left ..).mpr ⟨hclosed, mapM_eq_ok_iff.mp hnames⟩
    have hviews : List.Forall₂ (fun text name => ∃ k : QuotedKey, k.IsWritten ∧ k.text = text ∧ String.ofList k.key = name)
        (splitUnion none [] inner) names := by
      refine hread.imp ?_
      rintro text name ⟨hpart, hname⟩
      obtain ⟨k, hb, ha, hquote, rfl, rfl⟩ := readKey_eq_ok_iff.mp hname
      exact ⟨k, ⟨hb, ha, hquote, hpart⟩, rfl, rfl⟩
    obtain ⟨parts, hwritten, htexts, hkeys⟩ := exists_views hviews
    refine ⟨parts, ?_, hwritten, htexts ▸ hinner, hkeys.symm⟩
    rintro rfl
    exact hne htexts.symm
  · rintro ⟨parts, hne, hwritten, rfl, rfl⟩
    have hsplit : splitUnion none [] (commaJoined (parts.map QuotedKey.text)) = parts.map QuotedKey.text := by
      refine (splitUnion_eq_iff h).mpr ⟨by simpa using hne, rfl, ?_⟩
      exact List.forall_mem_map.mpr fun k hk => (hwritten k hk).closed
    rw [hsplit, mapM_eq_ok_iff, List.forall₂_map_left_iff, List.forall₂_map_right_iff, List.forall₂_same]
    intro k hk
    exact readKey_eq_ok_iff.mpr ⟨k, (hwritten k hk).before, (hwritten k hk).after, (hwritten k hk).quote, rfl, rfl⟩

/-! ## Brackets -/

theorem ne_of_isDigit {c d : Char} (hc : c.isDigit = true) (hd : d.isDigit = false) : c ≠ d := by
  rintro rfl
  rw [hc] at hd
  exact nomatch hd

theorem not_space_of_isDigit {c : Char} (h : c.isDigit = true) : Text.isSpace c = false := by
  have hrange : 48 ≤ c.toNat ∧ c.toNat ≤ 57 := by
    simp only [Char.isDigit, Bool.and_eq_true, decide_eq_true_eq] at h
    exact ⟨h.1, h.2⟩
  simp only [Text.isSpace, Bool.or_eq_false_iff, Bool.and_eq_false_iff, decide_eq_false_iff_not, beq_eq_false_iff_ne]
  omega

theorem not_isQuote_of_isDigit {c : Char} (h : c.isDigit = true) : isQuote c = false := by
  simp [isQuote, ne_of_isDigit h]

theorem count?_eq_some_iff {cs : List Char} {n : Nat} :
    Text.count? cs = some n ↔ ∃ signed digits, cs = Segment.sign signed ++ digits ∧ digits ≠ [] ∧
      (∀ c ∈ digits, c.isDigit = true) ∧ Decimal.natOfDigits digits < UInt64.size ∧
      Decimal.natOfDigits digits = n := by
  have hdigits (digits : List Char) :
      (if (digits.isEmpty || !digits.all Char.isDigit) = true then none
        else if Decimal.natOfDigits digits < UInt64.size then some (Decimal.natOfDigits digits) else none) = some n ↔
      digits ≠ [] ∧ (∀ c ∈ digits, c.isDigit = true) ∧ Decimal.natOfDigits digits < UInt64.size ∧
        Decimal.natOfDigits digits = n := by
    by_cases hempty : digits = []
    · simp [hempty]
    · by_cases hall : ∀ c ∈ digits, c.isDigit = true <;> simp [hempty, hall]
  have hunsigned {digits : List Char} (hall : ∀ c ∈ digits, c.isDigit = true) (rest : List Char) :
      digits ≠ '+' :: rest := by
    rintro rfl
    exact absurd (hall _ List.mem_cons_self) (by decide)
  unfold Text.count?
  simp only
  split
  · rename_i rest
    rw [hdigits]
    constructor
    · intro h
      exact ⟨true, rest, rfl, h⟩
    · rintro ⟨signed, digits, heq, h⟩
      cases signed with
      | true =>
        obtain rfl : rest = digits := (List.cons.inj heq).2
        exact h
      | false => exact absurd heq.symm (hunsigned h.2.1 rest)
  · rename_i hsign
    rw [hdigits]
    constructor
    · intro h
      exact ⟨false, cs, rfl, h⟩
    · rintro ⟨signed, digits, rfl, h⟩
      cases signed with
      | true => exact absurd rfl (hsign digits)
      | false => exact h

theorem head_of_count? {cs : List Char} {n : Nat} {c : Char} (h : Text.count? cs = some n)
    (hhead : cs.head? = some c) : c = '+' ∨ c.isDigit = true := by
  obtain ⟨signed, digits, rfl, _, hdigits, _⟩ := count?_eq_some_iff.mp h
  rcases List.mem_append.mp (List.mem_of_head? hhead) with hc | hc
  · cases signed with
    | true => exact Or.inl (List.mem_singleton.mp hc)
    | false => exact nomatch hc
  · exact Or.inr (hdigits c hc)

namespace Segment

theorem tight_star : Tight ['*'] := by
  constructor <;> simp [Text.isSpace]

theorem tight_index {signed : Bool} {digits : List Char}
    (h : ∀ c ∈ digits, c.isDigit = true) : Tight (sign signed ++ digits) := by
  have hall : ∀ c ∈ sign signed ++ digits, Text.isSpace c = false := by
    intro c hc
    rcases List.mem_append.mp hc with hc | hc
    · cases signed with
      | true =>
        rw [List.mem_singleton.mp hc]
        decide
      | false => exact nomatch hc
    · exact not_space_of_isDigit (h c hc)
  exact ⟨fun c hc => hall c (List.mem_of_head? hc), fun c hc => hall c (List.mem_of_getLast? hc)⟩

def IsBracket : Segment → Prop
  | name _ => False
  | _ => True

theorem closed_inner {s : Segment} (h : s.IsWritten) : Closed [']'] none s.inner := by
  have hblank {cs : List Char} (hcs : Blank cs) : Closed [']'] none cs := closed_blank (by simp [Text.isSpace]) hcs
  cases s with
  | name text => rfl
  | star before after =>
    obtain ⟨hb, ha⟩ := h
    have hstar : Closed [']'] none ['*'] := closed_of_plain (by simp [isQuote])
    exact ((hblank hb).append hstar).append (hblank ha)
  | index before signed digits after =>
    obtain ⟨hb, ha, _, hdigits⟩ := h
    have hsign : Closed [']'] none (sign signed) := closed_of_plain (by cases signed <;> simp [sign, isQuote])
    have hnumber : Closed [']'] none digits := by
      refine closed_of_plain fun c hc => ⟨?_, not_isQuote_of_isDigit (hdigits c hc)⟩
      simpa using ne_of_isDigit (hdigits c hc) (by decide)
    exact ((hblank hb).append (hsign.append hnumber)).append (hblank ha)
  | keys parts => exact closed_commaJoined (List.forall_mem_map.mpr fun k hk => (h.2 k hk).closed)

theorem trim_star {before after : List Char} (h : (star before after).IsWritten) :
    Text.trim (star before after).inner = ['*'] :=
  Text.trim_padded h.1 h.2 tight_star

theorem trim_index {before digits after : List Char} {signed : Bool}
    (h : (index before signed digits after).IsWritten) :
    Text.trim (index before signed digits after).inner = sign signed ++ digits :=
  Text.trim_padded h.1 h.2.1 (tight_index h.2.2.2)

/-- What the text between brackets starts with behind blanks: a star, a sign or a digit, or a quote. -/
def Starts : Segment → Char → Prop
  | index _ _ _ _, c => c = '+' ∨ c.isDigit = true
  | keys _, c => isQuote c = true
  | _, c => c = '*'

theorem exists_head {s : Segment} (hbracket : s.IsBracket) (h : s.IsWritten) :
    ∃ c, (Text.trim s.inner).head? = some c ∧ s.Starts c := by
  cases s with
  | name text => exact hbracket.elim
  | star before after => exact ⟨'*', by rw [trim_star h]; rfl, rfl⟩
  | index before signed digits after =>
    rw [trim_index h]
    obtain ⟨_, _, hne, hdigits⟩ := h
    obtain ⟨c, rest, rfl⟩ := List.exists_cons_of_ne_nil hne
    cases signed with
    | true => exact ⟨'+', rfl, Or.inl rfl⟩
    | false => exact ⟨c, rfl, Or.inr (hdigits c List.mem_cons_self)⟩
  | keys parts =>
    obtain ⟨hne, hwritten⟩ := h
    obtain ⟨k, rest, rfl⟩ := List.exists_cons_of_ne_nil hne
    have hk := hwritten k List.mem_cons_self
    obtain ⟨behind, hbehind⟩ : ∃ behind, (keys (k :: rest)).inner = k.before ++ k.quote :: behind := by
      rw [inner, List.map_cons]
      cases rest with
      | nil => exact ⟨_, by simp [commaJoined, QuotedKey.text, QuotedKey.core]; rfl⟩
      | cons next rest => exact ⟨_, by simp [commaJoined, QuotedKey.text, QuotedKey.core]; rfl⟩
    refine ⟨k.quote, ?_, hk.quote⟩
    rw [hbehind, Text.trim_blank_append hk.before]
    exact Text.head?_trim (not_space_of_isQuote hk.quote) behind

end Segment

/-- The text between brackets is read exactly if a segment writes it. -/
theorem readBracket_eq_ok_iff {inner : List Char} (h : Closed [']'] none inner) {selector : Selector} :
    readBracket inner = .ok selector ↔ ∃ s : Segment, s.IsBracket ∧ s.IsWritten ∧ s.Fits ∧ s.inner = inner ∧
      s.selector = selector := by
  constructor
  · intro hread
    obtain ⟨b, a, hb, ha, _, hinner⟩ := Text.exists_padded inner
    unfold readBracket at hread
    simp only at hread
    split at hread
    · rename_i hstar
      rw [hstar] at hinner
      exact ⟨.star b a, trivial, ⟨hb, ha⟩, trivial, hinner.symm, Except.ok.inj hread⟩
    · split at hread
      · rename_i n hcount
        obtain ⟨signed, digits, hcore, hne, hdigits, hfits, rfl⟩ := count?_eq_some_iff.mp hcount
        rw [hcore] at hinner
        exact ⟨.index b signed digits a, trivial, ⟨hb, ha, hne, hdigits⟩, hfits, hinner.symm, Except.ok.inj hread⟩
      · split at hread
        · cases hread
        · rw [mapM_readKey_trim] at hread
          obtain ⟨names, hnames, hselector⟩ := bind_eq_ok_iff.mp hread
          obtain ⟨parts, hne, hwritten, rfl, rfl⟩ := (exists_keys_iff h).mp hnames
          refine ⟨.keys parts, trivial, ⟨hne, hwritten⟩, trivial, rfl, ?_⟩
          rcases parts with _ | ⟨k, _ | ⟨next, rest⟩⟩
          · exact absurd rfl hne
          · exact Except.ok.inj hselector
          · exact Except.ok.inj hselector
  · rintro ⟨s, hbracket, hwritten, hfits, rfl, rfl⟩
    obtain ⟨c, hhead, hkind⟩ := Segment.exists_head hbracket hwritten
    unfold readBracket
    cases s with
    | name text => exact hbracket.elim
    | star before after =>
      simp only [Segment.trim_star hwritten]
      rfl
    | index before signed digits after =>
      have hne : Segment.sign signed ++ digits ≠ ['*'] := by
        intro heq
        rw [Segment.trim_index hwritten, heq] at hhead
        obtain rfl : '*' = c := Option.some.inj hhead
        exact absurd hkind (by simp [Segment.Starts])
      have hcount : Text.count? (Segment.sign signed ++ digits) = some (Decimal.natOfDigits digits) :=
        count?_eq_some_iff.mpr ⟨signed, digits, rfl, hwritten.2.2.1, hwritten.2.2.2, hfits, rfl⟩
      simp only [Segment.trim_index hwritten, if_neg hne, hcount]
      rfl
    | keys parts =>
      have hstar : Text.trim (Segment.keys parts).inner ≠ ['*'] := by
        intro heq
        rw [heq] at hhead
        obtain rfl : '*' = c := Option.some.inj hhead
        exact absurd hkind (by simp [Segment.Starts, isQuote])
      have hcount : Text.count? (Text.trim (Segment.keys parts).inner) = none := by
        rw [Option.eq_none_iff_forall_ne_some]
        intro n hn
        have hquote : isQuote c = true := hkind
        rcases head_of_count? hn hhead with rfl | hdigit
        · exact absurd hquote (by decide)
        · rw [not_isQuote_of_isDigit hdigit] at hquote
          cases hquote
      have hempty : (Text.trim (Segment.keys parts).inner).isEmpty = false := by
        cases htrim : Text.trim (Segment.keys parts).inner with
        | nil => simp [htrim] at hhead
        | cons => rfl
      have hnames := (exists_keys_iff h).mpr ⟨parts, hwritten.1, hwritten.2, rfl, rfl⟩
      simp only [if_neg hstar, hcount, hempty, mapM_readKey_trim, hnames]
      rcases parts with _ | ⟨k, _ | ⟨next, rest⟩⟩
      · exact absurd rfl hwritten.1
      · rfl
      · rfl

end CatalogGate.Query
