-- The law of quoting: a quoted string is read back as it was, whatever follows it. A text can therefore start
-- with only one quoted string.
import CatalogGate.Json.Printer
import CatalogGate.Json.Reader
import Mathlib.Tactic.SplitIfs

namespace CatalogGate.Json

/-! ## Escapes -/

theorem hex4?_hexDigits : ∀ n < 0x20, hex4? '0' '0' (hexDigit (n / 16)) (hexDigit (n % 16)) = some n := by decide

theorem readString?_short {escaped c : Char} (h : unescape? escaped = some c) (read rest : List Char) :
    readString? read ('\\' :: escaped :: rest) = readString? (c :: read) rest := by
  have hu : escaped ≠ 'u' := by
    rintro rfl
    exact nomatch h
  rw [readString?.eq_3 read escaped rest fun _ _ _ _ _ hc => absurd hc hu, h]
  rfl

theorem readString?_control {c : Char} (h : c.toNat < 0x20) (read rest : List Char) :
    readString? read
        ('\\' :: 'u' :: '0' :: '0' :: hexDigit (c.toNat / 16) :: hexDigit (c.toNat % 16) :: rest) =
      readString? (c :: read) rest := by
  have hlow : c.toNat < 0xD800 ∨ 0xE000 ≤ c.toNat := by omega
  rw [readString?.eq_2, hex4?_hexDigits _ h]
  simp only [Option.bind_eq_bind, Option.bind_some, if_pos hlow, Char.ofNat_toNat]

theorem readString?_plain {c : Char} (hquote : c ≠ '"') (hslash : c ≠ '\\') (hcontrol : ¬ c.toNat < 0x20)
    (read rest : List Char) : readString? read (c :: rest) = readString? (c :: read) rest := by
  rw [readString?.eq_4 read c rest hquote (fun _ _ _ _ _ h => absurd h hslash) (fun _ _ h => absurd h hslash),
    if_neg hcontrol]

/-- Every character is read back from what stands for it. -/
theorem readString?_escape (c : Char) (read rest : List Char) :
    readString? read (escape c ++ rest) = readString? (c :: read) rest := by
  unfold escape
  split_ifs with hquote hslash hfeed hreturn htab hback hform hcontrol
  · subst hquote
    exact readString?_short rfl read rest
  · subst hslash
    exact readString?_short rfl read rest
  · subst hfeed
    exact readString?_short rfl read rest
  · subst hreturn
    exact readString?_short rfl read rest
  · subst htab
    exact readString?_short rfl read rest
  · subst hback
    exact readString?_short rfl read rest
  · subst hform
    exact readString?_short rfl read rest
  · exact readString?_control hcontrol read rest
  · exact readString?_plain hquote hslash hcontrol read rest

/-! ## Strings -/

theorem readString?_flatMap_escape (cs read rest : List Char) :
    readString? read (cs.flatMap escape ++ '"' :: rest) = some (String.ofList (read.reverse ++ cs), rest) := by
  induction cs generalizing read with
  | nil => rw [List.flatMap_nil, List.nil_append, readString?.eq_1, List.append_nil]
  | cons c cs ih =>
    rw [List.flatMap_cons, List.append_assoc, readString?_escape, ih]
    simp

theorem toList_quote (s : String) : (quote s).toList = '"' :: (s.toList.flatMap escape ++ ['"']) :=
  String.toList_ofList

/-- A quoted string at the start of a text is the string that is read there. -/
theorem readString?_quote (s : String) {text rest : List Char} (h : (quote s).toList ++ rest = '"' :: text) :
    readString? [] text = some (s, rest) := by
  rw [toList_quote, List.cons_append, List.append_assoc, List.singleton_append] at h
  rw [← (List.cons.inj h).2, readString?_flatMap_escape]
  simp

theorem quote_append_inj {s t : String} {rest more : List Char}
    (h : (quote s).toList ++ rest = (quote t).toList ++ more) : s = t ∧ rest = more := by
  obtain ⟨text, htext⟩ : ∃ text, (quote t).toList ++ more = '"' :: text := by
    rw [toList_quote]
    exact ⟨_, rfl⟩
  have hs := readString?_quote s (h.trans htext)
  rw [readString?_quote t htext, Option.some.injEq, Prod.mk.injEq] at hs
  exact ⟨hs.1.symm, hs.2.symm⟩

/-! ## Members -/

theorem toList_compactMembers_cons (name : String) (value : Json) (members : List (String × Json)) :
    (compactMembers ((name, value) :: members)).toList =
      ',' :: ((quote name).toList ++ ':' :: ((compact value).toList ++ (compactMembers members).toList)) := by
  simp [compactMembers]

theorem toList_compact_object_cons (member : String × Json) (members : List (String × Json)) :
    (compact (.object (member :: members))).toList =
      '{' :: ((compactMembers (member :: members)).toList.tail ++ ['}']) := by
  simp [compact, compactMembers]

/-- Where members are written from a place on, a string and its name can be read off. -/
theorem compactMembers_string_inj {name name' s s' : String} {members members' : List (String × Json)}
    (h : (compactMembers ((name, .string s) :: members)).toList =
      (compactMembers ((name', .string s') :: members')).toList) :
    name = name' ∧ s = s' ∧ (compactMembers members).toList = (compactMembers members').toList := by
  rw [toList_compactMembers_cons, toList_compactMembers_cons] at h
  obtain ⟨hname, hrest⟩ := quote_append_inj (List.cons.inj h).2
  obtain ⟨hvalue, hmembers⟩ := quote_append_inj (List.cons.inj hrest).2
  exact ⟨hname, hvalue, hmembers⟩

/-- What is written behind a member that is known can be read off. -/
theorem compactMembers_cons_inj {name : String} {value : Json} {members members' : List (String × Json)}
    (h : (compactMembers ((name, value) :: members)).toList =
      (compactMembers ((name, value) :: members')).toList) :
    (compactMembers members).toList = (compactMembers members').toList := by
  rw [toList_compactMembers_cons, toList_compactMembers_cons] at h
  have hrest := List.append_cancel_left (List.cons.inj h).2
  exact List.append_cancel_left (List.cons.inj hrest).2

theorem compact_object_inj {member member' : String × Json} {members members' : List (String × Json)}
    (h : compact (.object (member :: members)) = compact (.object (member' :: members'))) :
    (compactMembers (member :: members)).toList = (compactMembers (member' :: members')).toList := by
  have hlist := congrArg String.toList h
  rw [toList_compact_object_cons, toList_compact_object_cons] at hlist
  have htail := List.append_cancel_right (List.cons.inj hlist).2
  rw [toList_compactMembers_cons, toList_compactMembers_cons] at htail ⊢
  exact congrArg (List.cons ',') htail

end CatalogGate.Json
