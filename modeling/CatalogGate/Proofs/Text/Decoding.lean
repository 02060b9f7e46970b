-- The laws of decoding: bytes are decoded exactly if they are the encoding of some characters, and then to
-- these characters; otherwise the longest part at the start that is such an encoding is told.
import CatalogGate.Text.Utf8
import Mathlib.Order.Bounds.Basic

namespace CatalogGate.Text

theorem size_utf8Encode_cons (c : Char) (cs : List Char) :
    (c :: cs).utf8Encode.size = c.utf8Size + cs.utf8Encode.size := by
  rw [List.utf8Encode_cons, ByteArray.size_append, List.utf8Encode_singleton]
  simp

theorem size_utf8Encode_singleton (c : Char) : [c].utf8Encode.size = c.utf8Size := by
  rw [size_utf8Encode_cons, List.utf8Encode_nil, ByteArray.size_empty, Nat.add_zero]

/-- The bytes from a place on, where a character stands, are that character and the bytes behind it. -/
theorem extract_eq_of_decodeChar {bytes : ByteArray} {i : Nat} {c : Char}
    (h : bytes.utf8DecodeChar? i = some c) :
    bytes.extract i bytes.size = [c].utf8Encode ++ bytes.extract (i + c.utf8Size) bytes.size := by
  rw [ByteArray.utf8DecodeChar?_eq_utf8DecodeChar?_extract] at h
  have hsplit := ByteArray.eq_of_utf8DecodeChar?_eq_some h
  have hbehind : min (i + (bytes.size - i)) bytes.size = bytes.size := by omega
  rw [ByteArray.size_extract, ByteArray.extract_extract, Nat.min_self, hbehind] at hsplit
  rw [List.utf8Encode_singleton]
  exact hsplit

/-- The bytes of a character that stands at a place. -/
theorem extract_char_of_decodeChar {bytes : ByteArray} {i : Nat} {c : Char}
    (h : bytes.utf8DecodeChar? i = some c) : bytes.extract i (i + c.utf8Size) = [c].utf8Encode := by
  have hle := ByteArray.le_size_of_utf8DecodeChar?_eq_some h
  have hsplit := extract_eq_of_decodeChar h
  rw [ByteArray.extract_eq_extract_append_extract (i + c.utf8Size) (Nat.le_add_right ..) hle] at hsplit
  exact (ByteArray.append_left_inj _).mp hsplit

theorem decodeFrom_ok {bytes : ByteArray} {i : Nat} {read cs : List Char} (hi : i ≤ bytes.size)
    (h : decodeFrom bytes i read = .ok cs) :
    ∃ l, cs = read.reverse ++ l ∧ bytes.extract i bytes.size = l.utf8Encode := by
  induction i, read using decodeFrom.induct bytes with
  | case1 i read hlt c hc ih =>
    rw [decodeFrom, if_pos hlt] at h
    simp only [hc] at h
    obtain ⟨l, hl, hbytes⟩ := ih (ByteArray.le_size_of_utf8DecodeChar?_eq_some hc) h
    refine ⟨c :: l, by simp [hl], ?_⟩
    rw [extract_eq_of_decodeChar hc, hbytes, ← List.utf8Encode_append, List.singleton_append]
  | case2 i read hlt hc =>
    rw [decodeFrom, if_pos hlt] at h
    simp [hc] at h
  | case3 i read hge =>
    rw [decodeFrom, if_neg hge] at h
    simp only [Except.ok.injEq] at h
    refine ⟨[], by simp [h], ?_⟩
    have hsize : i = bytes.size := by omega
    simp [hsize]

/-- The bytes of a text start with its first character, and the others encode the rest of the text. -/
theorem extract_eq_of_encode_cons {bytes : ByteArray} {i k : Nat} {c : Char} {l : List Char} (hi : i ≤ k)
    (hk : k ≤ bytes.size) (h : bytes.extract i k = (c :: l).utf8Encode) :
    bytes.utf8DecodeChar? i = some c ∧ i + c.utf8Size ≤ k ∧ bytes.extract (i + c.utf8Size) k = l.utf8Encode := by
  have hsize := congrArg ByteArray.size h
  have hrest := congrArg (·.extract c.utf8Size (k - i)) h
  rw [size_utf8Encode_cons, ByteArray.size_extract, Nat.min_eq_left hk] at hsize
  refine ⟨?_, by omega, ?_⟩
  · rw [ByteArray.utf8DecodeChar?_eq_utf8DecodeChar?_extract,
      ByteArray.extract_eq_extract_append_extract k hi hk]
    apply ByteArray.utf8DecodeChar?_append_eq_some
    rw [h, List.utf8DecodeChar?_utf8Encode_cons]
  · rw [List.utf8Encode_cons] at hrest
    simp only [ByteArray.extract_extract] at hrest
    rwa [Nat.add_sub_cancel' hi, Nat.min_self,
      ByteArray.extract_append_eq_right (size_utf8Encode_singleton c).symm
        (by rw [size_utf8Encode_singleton]; omega)] at hrest

/-- Bytes that encode a text are read as that text, whatever comes behind them. -/
theorem decodeFrom_through {bytes : ByteArray} {i k : Nat} {l : List Char} (read : List Char) (hi : i ≤ k)
    (hk : k ≤ bytes.size) (h : bytes.extract i k = l.utf8Encode) :
    decodeFrom bytes i read = decodeFrom bytes k (l.reverse ++ read) := by
  induction l generalizing i read with
  | nil =>
    have hsize := congrArg ByteArray.size h
    rw [List.utf8Encode_nil, ByteArray.size_empty, ByteArray.size_extract, Nat.min_eq_left hk] at hsize
    obtain rfl : i = k := by omega
    rfl
  | cons c l ih =>
    obtain ⟨hchar, hle, hrest⟩ := extract_eq_of_encode_cons hi hk h
    have hpos := c.utf8Size_pos
    rw [decodeFrom, if_pos (by omega)]
    simp only [hchar]
    rw [ih (c :: read) hle hrest]
    simp

theorem decodeFrom_encode {bytes : ByteArray} {i : Nat} {l : List Char} (read : List Char)
    (hi : i ≤ bytes.size) (h : bytes.extract i bytes.size = l.utf8Encode) :
    decodeFrom bytes i read = .ok (read.reverse ++ l) := by
  rw [decodeFrom_through read hi (Nat.le_refl _) h, decodeFrom, if_neg (Nat.lt_irrefl _)]
  simp

/-- Decoding takes exactly what encoding makes, and gives it back. -/
theorem decode_eq_ok_iff (bytes : ByteArray) (cs : List Char) :
    decode bytes = .ok cs ↔ bytes = cs.utf8Encode := by
  unfold decode
  constructor
  · intro h
    obtain ⟨l, rfl, hl⟩ := decodeFrom_ok (Nat.zero_le _) h
    rw [ByteArray.extract_zero_size] at hl
    simpa using hl
  · rintro rfl
    have := decodeFrom_encode [] (Nat.zero_le cs.utf8Encode.size) (ByteArray.extract_zero_size ..)
    simpa using this

/-- Reading stops behind bytes that encode a text. -/
theorem decodeFrom_error {bytes : ByteArray} {i n : Nat} {read : List Char} (hi : i ≤ bytes.size)
    (h : decodeFrom bytes i read = .error n) :
    i ≤ n ∧ n ≤ bytes.size ∧ ∃ l : List Char, bytes.extract i n = l.utf8Encode := by
  induction i, read using decodeFrom.induct bytes with
  | case1 i read hlt c hc ih =>
    rw [decodeFrom, if_pos hlt] at h
    simp only [hc] at h
    have hle := ByteArray.le_size_of_utf8DecodeChar?_eq_some hc
    obtain ⟨hnext, hn, l, hl⟩ := ih hle h
    refine ⟨Nat.le_of_add_right_le hnext, hn, c :: l, ?_⟩
    rw [ByteArray.extract_eq_extract_append_extract (i + c.utf8Size) (Nat.le_add_right ..) hnext, hl,
      extract_char_of_decodeChar hc, ← List.utf8Encode_append, List.singleton_append]
  | case2 i read hlt hc =>
    rw [decodeFrom, if_pos hlt] at h
    simp only [hc, Except.error.injEq] at h
    subst h
    exact ⟨Nat.le_refl _, hi, [], by rw [ByteArray.extract_same, List.utf8Encode_nil]⟩
  | case3 i read hge =>
    rw [decodeFrom, if_neg hge] at h
    exact nomatch h

/-- Decoding refuses exactly what no characters encode, and tells the length of the longest part at the start
that some characters encode. -/
theorem decode_eq_error_iff (bytes : ByteArray) (n : Nat) :
    decode bytes = .error n ↔ (¬ ∃ cs : List Char, bytes = cs.utf8Encode) ∧
      IsGreatest {k | k ≤ bytes.size ∧ ∃ l : List Char, bytes.extract 0 k = l.utf8Encode} n := by
  have hgreatest {n : Nat} (h : decode bytes = .error n) :
      IsGreatest {k | k ≤ bytes.size ∧ ∃ l : List Char, bytes.extract 0 k = l.utf8Encode} n := by
    obtain ⟨_, hn, hl⟩ := decodeFrom_error (Nat.zero_le _) h
    refine ⟨⟨hn, hl⟩, ?_⟩
    rintro k ⟨hk, l, hkl⟩
    -- Behind a longer part that encodes a text, reading would stop later.
    rw [decode, decodeFrom_through [] (Nat.zero_le _) hk hkl] at h
    exact (decodeFrom_error hk h).1
  constructor
  · intro h
    refine ⟨?_, hgreatest h⟩
    rintro ⟨cs, hcs⟩
    rw [(decode_eq_ok_iff bytes cs).mpr hcs] at h
    exact nomatch h
  · rintro ⟨hnone, hn⟩
    rcases hdecode : decode bytes with m | cs
    · rw [(hgreatest hdecode).unique hn]
    · exact absurd ⟨cs, (decode_eq_ok_iff bytes cs).mp hdecode⟩ hnone

theorem utf8Encode_inj {cs cs' : List Char} (h : cs.utf8Encode = cs'.utf8Encode) : cs = cs' := by
  have hdecode := (decode_eq_ok_iff cs.utf8Encode cs).mpr rfl
  rw [(decode_eq_ok_iff cs.utf8Encode cs').mpr h] at hdecode
  exact (Except.ok.inj hdecode).symm

end CatalogGate.Text
