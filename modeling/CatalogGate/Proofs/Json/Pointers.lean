-- The law of pointers: a path that leads to a value is read back from its pointer, because the value tells which of
-- its steps are positions.
import CatalogGate.Json.Pointer

namespace CatalogGate

/-! ## Positions -/

/-- A number that fits into 64 bits is read back from its digits. -/
theorem Text.count?_toString {n : Nat} (h : n < UInt64.size) : count? (toString n).toList = some n := by
  have hdigits : (toString n).toList.all Char.isDigit = true :=
    List.all_eq_true.mpr fun _ hc => Decimal.isDigit_of_mem_toString hc
  have hempty : (toString n).toList.isEmpty = false := by
    rw [Nat.toString_eq_repr, Nat.toList_repr, List.isEmpty_eq_false_iff]
    exact Nat.toDigits_ne_nil
  have hvalue := Decimal.natOfDigits_toString n
  unfold count?
  generalize (toString n).toList = cs at *
  split
  · have hplus : '+'.isDigit = false := by decide
    simp [hplus] at hdigits
  · simp [hdigits, hempty, hvalue, h]

namespace Json.Pointer

/-! ## Escapes -/

/-- A tilde is escaped and a slash is not. -/
def escapeTilde (c : Char) : List Char := if c = '~' then ['~', '0'] else [c]

/-- The marks of slashes are taken back first. That of a tilde is none of them, whatever stands behind it. -/
theorem unescapeMark_slash (cs : List Char) :
    unescapeMark '1' '/' (cs.flatMap escape) = cs.flatMap escapeTilde := by
  induction cs with
  | nil => rfl
  | cons c cs ih =>
    rw [List.flatMap_cons, List.flatMap_cons, ← ih]
    by_cases htilde : c = '~'
    · subst htilde
      have hzero : unescapeMark '1' '/' ('0' :: cs.flatMap escape) = '0' :: unescapeMark '1' '/' (cs.flatMap escape) :=
        unescapeMark_cons_ne (by decide) _
      simp [escape, escapeTilde, unescapeMark, hzero]
    · by_cases hslash : c = '/'
      · subst hslash
        simp [escape, escapeTilde, unescapeMark]
      · simp only [escape, escapeTilde, if_neg htilde, if_neg hslash, List.singleton_append]
        exact unescapeMark_cons_ne htilde _

theorem unescapeMark_tilde (cs : List Char) : unescapeMark '0' '~' (cs.flatMap escapeTilde) = cs := by
  induction cs with
  | nil => rfl
  | cons c cs ih =>
    rw [List.flatMap_cons]
    by_cases htilde : c = '~'
    · subst htilde
      simp [escapeTilde, unescapeMark, ih]
    · simp only [escapeTilde, if_neg htilde, List.singleton_append]
      rw [unescapeMark_cons_ne htilde, ih]

theorem unescape_escape (cs : List Char) : unescape (cs.flatMap escape) = cs := by
  rw [unescape, unescapeMark_slash, unescapeMark_tilde]

theorem slash_not_mem_escape (cs : List Char) : '/' ∉ cs.flatMap escape := by
  intro h
  obtain ⟨c, _, hc⟩ := List.mem_flatMap.mp h
  unfold escape at hc
  split at hc
  · simp at hc
  · split at hc
    · simp at hc
    · rename_i hslash
      exact hslash (List.mem_singleton.mp hc).symm

/-! ## Tokens -/

/-- Puts a character in front of the first token; a slash ends a token. -/
def addToTokens (c : Char) (tokens : List (List Char)) : List (List Char) :=
  if c = '/' then [] :: tokens
  else
    match tokens with
    | token :: more => (c :: token) :: more
    | [] => [[c]]

theorem tokens_eq (pointer : List Char) : tokens pointer = (pointer.foldr addToTokens [[]]).drop 1 := rfl

theorem foldr_addToTokens {cs : List Char} (h : '/' ∉ cs) (token : List Char) (more : List (List Char)) :
    cs.foldr addToTokens (token :: more) = (cs ++ token) :: more := by
  induction cs with
  | nil => rfl
  | cons c cs ih =>
    rw [List.mem_cons, not_or] at h
    obtain ⟨hc, hcs⟩ := h
    rw [List.foldr_cons, ih hcs, addToTokens, if_neg (Ne.symm hc)]
    rfl

theorem foldr_addToTokens_ofPath (path : Path) :
    (ofPath path).foldr addToTokens [[]] = [] :: path.map fun s => s.text.toList.flatMap escape := by
  induction path with
  | nil => rfl
  | cons s path ih =>
    have hsplit : ofPath (s :: path) = '/' :: (s.text.toList.flatMap escape ++ ofPath path) := rfl
    rw [hsplit, List.foldr_cons, List.foldr_append, ih, foldr_addToTokens (slash_not_mem_escape _),
      List.append_nil]
    rfl

theorem tokens_ofPath (path : Path) : tokens (ofPath path) = path.map fun s => s.text.toList.flatMap escape := by
  rw [tokens_eq, foldr_addToTokens_ofPath, List.drop_one, List.tail_cons]

/-! ## Steps -/

/-- The text of a step that leads somewhere means this step. -/
theorem stepAt_text {s : Step} {node next : Json} (hstep : step? s node = some next)
    (hfits : ∀ position, s = .index position → position < UInt64.size) :
    stepAt (some node) s.text.toList = s := by
  cases s with
  | key name =>
    cases node with
    | object members =>
      show Step.key (String.ofList name.toList) = .key name
      rw [String.ofList_toList]
    | _ => exact nomatch hstep
  | index position =>
    cases node with
    | array items =>
      have hcount : Text.count? (toString position).toList = some position := Text.count?_toString (hfits position rfl)
      show stepAt (some (.array items)) (toString position).toList = .index position
      simp only [stepAt, hcount]
    | _ => exact nomatch hstep

theorem stepsFrom_texts {path : Path} {node value : Json} (hvalue : at? path node = some value)
    (hfits : ∀ position, .index position ∈ path → position < UInt64.size) :
    stepsFrom (some node) (path.map fun s => s.text.toList.flatMap escape) = path := by
  induction path generalizing node with
  | nil => rfl
  | cons s path ih =>
    obtain ⟨next, hnext, hrest⟩ := Option.bind_eq_some_iff.mp hvalue
    have hstep : stepAt (some node) s.text.toList = s :=
      stepAt_text hnext fun position hs => hfits position (hs ▸ List.mem_cons_self)
    have hsteps := ih hrest fun position hposition => hfits position (List.mem_cons_of_mem s hposition)
    simp only [List.map_cons, stepsFrom, unescape_escape, hstep, Option.bind_some, hnext, hsteps]

/-! ## The law -/

/-- A path that leads to a value is read back from its pointer, where the positions in arrays have 64 bits. -/
theorem toPath_ofPath {root value : Json} {path : Path} (hvalue : at? path root = some value)
    (hfits : ∀ position, .index position ∈ path → position < UInt64.size) :
    toPath root (ofPath path) = path := by
  rw [toPath, tokens_ofPath, stepsFrom_texts hvalue hfits]

/-- Names that look like positions or like escapes, and one that is empty. -/
theorem toPath_ofPath_lookalikes :
    let root : Json := .object [("0", .array [.null, .object [("1", .object [("~1/~0", .object [("", .bool true)])])]])]
    let path : Path := [.key "0", .index 1, .key "1", .key "~1/~0", .key ""]
    at? path root = some (.bool true) ∧ (∀ position, .index position ∈ path → position < UInt64.size) ∧
      ofPath path = "/0/1/1/~01~1~00/".toList ∧ toPath root "/0/1/1/~01~1~00/".toList = path := by
  intro root path
  have hvalue : at? path root = some (.bool true) := rfl
  have hfits : ∀ position, .index position ∈ path → position < UInt64.size := by
    intro position hposition
    obtain rfl : position = 1 := by simpa [path] using hposition
    decide
  have hpointer : ofPath path = "/0/1/1/~01~1~00/".toList := by decide
  refine ⟨hvalue, hfits, hpointer, ?_⟩
  rw [← hpointer]
  exact toPath_ofPath hvalue hfits

end Json.Pointer

end CatalogGate
