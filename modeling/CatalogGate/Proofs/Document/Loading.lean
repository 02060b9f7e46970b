-- The laws of loading: bytes are a document exactly if they encode a text whose places fit into 32 bits, and then
-- they are one document. If they encode no text, the fault stands behind the longest part that does.
import CatalogGate.Document.Basic
import CatalogGate.Proofs.Text.Decoding

namespace CatalogGate.Document

/-- The document has the name, and the text of the bytes without a byte order mark in front. -/
structure IsOf (d : Document) (name : String) (bytes : ByteArray) : Prop where
  fits : bytes.size < UInt32.size
  name : d.name = name
  text : ∃ cs : List Char, bytes = cs.utf8Encode ∧ d.text = dropMark cs

theorem load_eq_ok_iff (name : String) (bytes : ByteArray) (d : Document) :
    load name bytes = .ok d ↔ d.IsOf name bytes := by
  unfold load
  by_cases hsize : UInt32.size ≤ bytes.size
  · rw [if_pos hsize]
    constructor
    · intro h
      exact nomatch h
    · intro h
      exact absurd h.fits (Nat.not_lt_of_le hsize)
  · rw [if_neg hsize]
    constructor
    · intro h
      split at h
      · rename_i cs hdecode
        obtain rfl := Except.ok.inj h
        exact ⟨Nat.lt_of_not_le hsize, rfl, cs, (Text.decode_eq_ok_iff bytes cs).mp hdecode, rfl⟩
      · exact nomatch h
    · rintro ⟨_, rfl, cs, hcs, htext⟩
      rw [(Text.decode_eq_ok_iff bytes cs).mpr hcs]
      simp only [← htext]

theorem dropMark_eq (cs : List Char) : dropMark cs = if cs.head? = some '\ufeff' then cs.tail else cs := by
  cases cs with
  | nil => rfl
  | cons c cs => by_cases hc : c = '\ufeff' <;> simp [dropMark, byteOrderMark, hc]

theorem load_eq_error_iff {bytes : ByteArray} (name : String) (hsize : bytes.size < UInt32.size) (e : LoadError) :
    load name bytes = .error e ↔ ∃ offset, e = .notUtf8 offset ∧ Text.decode bytes = .error offset := by
  rw [load, if_neg (Nat.not_le_of_lt hsize)]
  rcases Text.decode bytes with n | cs
  · simp [eq_comm]
  · simp

theorem exists_toUTF8_iff (bytes : ByteArray) :
    (∃ s : String, bytes = s.toUTF8) ↔ ∃ cs : List Char, bytes = cs.utf8Encode := by
  constructor
  · rintro ⟨s, rfl⟩
    exact ⟨s.toList, String.utf8Encode_toList.symm⟩
  · rintro ⟨cs, rfl⟩
    exact ⟨String.ofList cs, rfl⟩

/-- Bytes that can be addressed are loaded exactly if they encode a string, of which one mark in front is dropped.
What is told of all others is the length of the longest part at the start that encodes a string. -/
theorem load_inverts_encoding (name : String) {bytes : ByteArray} (hsize : bytes.size < UInt32.size) :
    (∀ d, load name bytes = .ok d ↔ ∃ s : String, bytes = s.toUTF8 ∧
        d = ⟨name, if s.toList.head? = some '\ufeff' then s.toList.tail else s.toList⟩) ∧
      ∀ e, load name bytes = .error e ↔ (¬ ∃ s : String, bytes = s.toUTF8) ∧ ∃ offset, e = .notUtf8 offset ∧
        IsGreatest {n | n ≤ bytes.size ∧ ∃ s : String, bytes.extract 0 n = s.toUTF8} offset := by
  constructor
  · rintro ⟨given, text⟩
    rw [load_eq_ok_iff]
    constructor
    · rintro ⟨_, rfl, cs, hcs, htext⟩
      exact ⟨String.ofList cs, hcs, by rw [String.toList_ofList, ← dropMark_eq, ← htext]⟩
    · rintro ⟨s, hs, hd⟩
      obtain ⟨rfl, rfl⟩ := (Document.mk.injEq ..).mp hd
      exact ⟨hsize, rfl, s.toList, hs.trans String.utf8Encode_toList.symm, (dropMark_eq _).symm⟩
  · intro e
    simp only [load_eq_error_iff name hsize, Text.decode_eq_error_iff, exists_toUTF8_iff]
    constructor
    · rintro ⟨offset, he, hnone, hgreatest⟩
      exact ⟨hnone, offset, he, hgreatest⟩
    · rintro ⟨hnone, offset, he, hgreatest⟩
      exact ⟨offset, he, hnone, hgreatest⟩

/-- Of two marks in front the second one belongs to the text. -/
theorem load_inverts_encoding_marked :
    "\ufeff\ufeffé".toUTF8.size < UInt32.size ∧
      load "api.yaml" "\ufeff\ufeffé".toUTF8 = .ok ⟨"api.yaml", ['\ufeff', 'é']⟩ := by
  have hsize : "\ufeff\ufeffé".toUTF8.size < UInt32.size := by decide
  exact ⟨hsize, ((load_inverts_encoding "api.yaml" hsize).1 _).mpr ⟨_, rfl, by decide⟩⟩

end CatalogGate.Document
