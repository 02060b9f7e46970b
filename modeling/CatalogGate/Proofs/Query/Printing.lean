-- The law of printing queries: in whatever way a list of selectors is printed, it is read back as this list, and every
-- list can be printed whose keys each leave out one kind of quote.
import CatalogGate.Proofs.Query.Reading

namespace CatalogGate.Query

open Text (Blank Tight)

/-! ## Printing -/

/-- The text is a key between quotes that it does not contain, with blanks around it. -/
def PrintsKey (key : String) (text : List Char) : Prop :=
  ∃ before quote after, Blank before ∧ Blank after ∧ (quote = '\'' ∨ quote = '"') ∧ quote ∉ key.toList ∧
    text = before ++ quote :: key.toList ++ [quote] ++ after

/-- The text is one way to print a selector. -/
inductive PrintsSelector : Selector → List Char → Prop
  | point : PrintsSelector .wildcard ['.', '*']
  | star {before after : List Char} (hbefore : Blank before) (hafter : Blank after) :
      PrintsSelector .wildcard ('[' :: (before ++ ['*'] ++ after) ++ [']'])
  | index {position : Nat} {before after : List Char} (hfits : position < UInt64.size) (hbefore : Blank before)
      (hafter : Blank after) :
      PrintsSelector (.index position) ('[' :: (before ++ (toString position).toList ++ after) ++ [']'])
  | name {key : String} (hne : key ≠ "") (hstar : key ≠ "*")
      (h : ∀ c ∈ key.toList, c ≠ '.' ∧ c ≠ '[' ∧ Text.isSpace c = false) :
      PrintsSelector (.key key) ('.' :: key.toList)
  | key {key : String} {text : List Char} (h : PrintsKey key text) : PrintsSelector (.key key) ('[' :: text ++ [']'])
  | union {keys : List String} {texts : List (List Char)} (htwo : 2 ≤ keys.length)
      (h : List.Forall₂ PrintsKey keys texts) :
      PrintsSelector (.union keys) ('[' :: [','].intercalate texts ++ [']'])

/-- The text is a dollar sign and then the selectors, with blanks around the whole. -/
def Prints (selectors : List Selector) (text : String) : Prop :=
  ∃ before texts after, Blank before ∧ Blank after ∧ List.Forall₂ PrintsSelector selectors texts ∧
    text.toList = before ++ '$' :: texts.flatten ++ after

/-- The key leaves out one kind of quote. -/
def IsQuotable (key : String) : Prop := '\'' ∉ key.toList ∨ '"' ∉ key.toList

/-- A union has at least two keys, and an index fits into 64 bits. -/
def IsPrintable : Selector → Prop
  | .wildcard => True
  | .index position => position < UInt64.size
  | .key key => IsQuotable key
  | .union keys => 2 ≤ keys.length ∧ ∀ key ∈ keys, IsQuotable key

/-! ## What is printed is written by segments -/

theorem commaJoined_eq_intercalate (parts : List (List Char)) : commaJoined parts = [','].intercalate parts := by
  induction parts with
  | nil => rfl
  | cons part rest ih =>
    cases rest with
    | nil => simp [commaJoined]
    | cons next rest => rw [commaJoined_cons_ne_nil part (List.cons_ne_nil _ _), ih]; simp

theorem PrintsKey.exists_quotedKey {key : String} {text : List Char} (h : PrintsKey key text) :
    ∃ k : QuotedKey, (Blank k.before ∧ Blank k.after ∧ isQuote k.quote = true ∧ k.quote ∉ k.key) ∧
      String.ofList k.key = key ∧ k.text = text := by
  obtain ⟨before, quote, after, hbefore, hafter, hquote, hkey, rfl⟩ := h
  refine ⟨⟨before, quote, key.toList, after⟩, ⟨hbefore, hafter, isQuote_iff.mpr hquote, hkey⟩, ?_, ?_⟩
  · exact String.ofList_toList
  · simp [QuotedKey.text, QuotedKey.core]

theorem PrintsSelector.exists_segment {selector : Selector} {text : List Char} (h : PrintsSelector selector text) :
    ∃ s : Segment, (s.IsRegular ∧ s.Fits) ∧ s.selector = selector ∧ s.text = text := by
  cases h with
  | point => exact ⟨.name ['*'], ⟨⟨by simp, by simp⟩, trivial⟩, rfl, rfl⟩
  | star hbefore hafter => exact ⟨.star _ _, ⟨⟨hbefore, hafter⟩, trivial⟩, rfl, by simp [Segment.text, Segment.inner]⟩
  | @index position before after hfits hbefore hafter =>
    refine ⟨.index before false (toString position).toList after, ⟨⟨hbefore, hafter, rfl, ?_, ?_⟩, ?_⟩, ?_, ?_⟩
    · rw [Nat.toString_eq_repr, Nat.toList_repr]
      exact Nat.toDigits_ne_nil
    · exact fun c hc => Decimal.isDigit_of_mem_toString hc
    · rw [Segment.Fits, Decimal.natOfDigits_toString]
      exact hfits
    · rw [Segment.selector, Decimal.natOfDigits_toString]
    · simp [Segment.text, Segment.inner, Segment.sign]
  | @name key hne hstar h =>
    refine ⟨.name key.toList, ⟨⟨?_, fun c hc => ⟨(h c hc).1, (h c hc).2.1⟩⟩, trivial⟩, ?_, rfl⟩
    · simpa using hne
    · rw [Segment.selector, if_neg, String.ofList_toList]
      intro heq
      exact hstar (String.toList_inj.mp heq)
  | @key key text h =>
    obtain ⟨k, hregular, rfl, rfl⟩ := h.exists_quotedKey
    refine ⟨.keys [k], ⟨⟨by simp, by simpa using hregular⟩, trivial⟩, rfl, ?_⟩
    simp [Segment.text, Segment.inner, commaJoined]
  | @union keys texts htwo h =>
    obtain ⟨parts, hregular, rfl, rfl⟩ := exists_views (h.imp fun _ _ => PrintsKey.exists_quotedKey)
    refine ⟨.keys parts, ⟨⟨?_, hregular⟩, trivial⟩, ?_, ?_⟩
    · rintro rfl
      simp at htwo
    · rcases parts with _ | ⟨k, _ | ⟨next, rest⟩⟩
      · simp at htwo
      · simp at htwo
      · rfl
    · simp [Segment.text, Segment.inner, commaJoined_eq_intercalate]

/-! ## Blanks around the whole -/

theorem PrintsSelector.not_space_of_last {selector : Selector} {text : List Char} (h : PrintsSelector selector text)
    {c : Char} (hlast : text.getLast? = some c) : Text.isSpace c = false := by
  cases h with
  | point =>
    obtain rfl : '*' = c := Option.some.inj hlast
    rfl
  | name _ _ h =>
    rcases List.mem_cons.mp (List.mem_of_getLast? hlast) with rfl | hc
    · rfl
    · exact (h c hc).2.2
  | _ =>
    rw [List.getLast?_concat] at hlast
    obtain rfl : ']' = c := Option.some.inj hlast
    rfl

theorem tight_of_prints {selectors : List Selector} {texts : List (List Char)}
    (h : List.Forall₂ PrintsSelector selectors texts) : Tight ('$' :: texts.flatten) := by
  have hlast : ∀ c, texts.flatten.getLast? = some c → Text.isSpace c = false := by
    induction h with
    | nil => exact nofun
    | cons hfirst _ ih =>
      intro c hc
      rw [List.flatten_cons, List.getLast?_append, Option.or_eq_some_iff] at hc
      rcases hc with hc | ⟨_, hc⟩
      · exact ih c hc
      · exact hfirst.not_space_of_last hc
  constructor
  · intro c hc
    obtain rfl : '$' = c := Option.some.inj hc
    rfl
  · intro c hc
    rw [List.getLast?_cons, Option.some.injEq] at hc
    cases hflatten : texts.flatten.getLast? with
    | none =>
      rw [hflatten] at hc
      obtain rfl : '$' = c := hc
      rfl
    | some last =>
      rw [hflatten] at hc
      obtain rfl : last = c := hc
      exact hlast _ hflatten

/-! ## What can be printed -/

theorem exists_printsKey {key : String} (h : IsQuotable key) : ∃ text, PrintsKey key text := by
  rcases h with h | h
  · exact ⟨_, [], '\'', [], Text.blank_nil, Text.blank_nil, Or.inl rfl, h, rfl⟩
  · exact ⟨_, [], '"', [], Text.blank_nil, Text.blank_nil, Or.inr rfl, h, rfl⟩

theorem exists_printsSelector {selector : Selector} (h : IsPrintable selector) :
    ∃ text, PrintsSelector selector text := by
  cases selector with
  | wildcard => exact ⟨_, .point⟩
  | index position => exact ⟨_, .index h Text.blank_nil Text.blank_nil⟩
  | key key =>
    obtain ⟨text, htext⟩ := exists_printsKey h
    exact ⟨_, .key htext⟩
  | union keys =>
    obtain ⟨texts, htexts⟩ := exists_forall₂ fun key hkey => exists_printsKey (h.2 key hkey)
    exact ⟨_, .union h.1 htexts⟩

theorem exists_prints {selectors : List Selector} (h : ∀ s ∈ selectors, IsPrintable s) :
    ∃ text, Prints selectors text := by
  obtain ⟨texts, htexts⟩ := exists_forall₂ fun s hs => exists_printsSelector (h s hs)
  exact ⟨String.ofList _, [], texts, [], Text.blank_nil, Text.blank_nil, htexts, String.toList_ofList⟩

/-! ## The law -/

theorem read_of_prints {selectors : List Selector} {text : String} (h : Prints selectors text) :
    read text = .ok ⟨Text.trimmed text, selectors⟩ := by
  obtain ⟨before, texts, after, hbefore, hafter, htexts, htext⟩ := h
  have htrim : Text.trim text.toList = '$' :: texts.flatten := by
    rw [htext]
    exact Text.trim_padded hbefore hafter (tight_of_prints htexts)
  obtain ⟨segments, hsegments, rfl, rfl⟩ := exists_views (htexts.imp fun _ _ => PrintsSelector.exists_segment)
  refine read_eq_ok_iff.mpr ⟨segments, ?_, ?_, rfl⟩
  · rw [Spells, htrim, List.flatMap_def]
  · exact fun s hs => ⟨(Segment.isRegular_iff.mp (hsegments s hs).1).1, (hsegments s hs).2⟩

/-- Selectors that can be printed are read back from every text that prints them, and there is such a text. -/
theorem read_printed {selectors : List Selector} (h : ∀ s ∈ selectors, IsPrintable s) :
    (∃ text, Prints selectors text) ∧
      ∀ text, Prints selectors text → read text = .ok ⟨Text.trimmed text, selectors⟩ :=
  ⟨exists_prints h, fun _ htext => read_of_prints htext⟩

/-! Keys with a bracket, a comma and a quote, an empty key, and blanks. -/

def mixedSelectors : List Selector := [.key "a]b", .union ["x,y", "it's", ""], .index 10, .wildcard, .key "name"]

def mixedText : String := " $['a]b'][\"x,y\" , \"it's\",''][ 10 ].*.name "

theorem prints_mixed : Prints mixedSelectors mixedText := by
  have hblank : Blank [' '] := by simp [Blank, Text.isSpace]
  have hname : ∀ c ∈ "name".toList, c ≠ '.' ∧ c ≠ '[' ∧ Text.isSpace c = false := by simp [Text.isSpace]
  have hkeys : List.Forall₂ PrintsKey ["x,y", "it's", ""] ["\"x,y\" ".toList, " \"it's\"".toList, "''".toList] :=
    .cons ⟨[], '"', [' '], Text.blank_nil, hblank, Or.inr rfl, by decide, rfl⟩ <|
      .cons ⟨[' '], '"', [], hblank, Text.blank_nil, Or.inr rfl, by decide, rfl⟩ <|
        .cons ⟨[], '\'', [], Text.blank_nil, Text.blank_nil, Or.inl rfl, by decide, rfl⟩ .nil
  have hselectors : List.Forall₂ PrintsSelector mixedSelectors
      ["['a]b']".toList, "[\"x,y\" , \"it's\",'']".toList, "[ 10 ]".toList, ".*".toList, ".name".toList] :=
    .cons (.key ⟨[], '\'', [], Text.blank_nil, Text.blank_nil, Or.inl rfl, by decide, rfl⟩) <|
      .cons (.union (by decide) hkeys) <|
        .cons (.index (by decide) hblank hblank) <|
          .cons .point <| .cons (.name (by decide) (by decide) hname) .nil
  exact ⟨[' '], _, [' '], hblank, hblank, hselectors, rfl⟩

theorem read_printed_mixed :
    (∀ s ∈ mixedSelectors, IsPrintable s) ∧ Prints mixedSelectors mixedText ∧
      read mixedText = .ok ⟨Text.trimmed mixedText, mixedSelectors⟩ := by
  have hprintable : ∀ s ∈ mixedSelectors, IsPrintable s := by
    simp [mixedSelectors, IsPrintable, IsQuotable, UInt64.size]
  exact ⟨hprintable, prints_mixed, (read_printed hprintable).2 mixedText prints_mixed⟩

end CatalogGate.Query
