-- Blanks around a text: trimming takes them off, and what is left neither starts nor ends with one.
import CatalogGate.Proofs.List.Traversal
import CatalogGate.Text.Blank

namespace CatalogGate.Text

def Blank (cs : List Char) : Prop := ∀ c ∈ cs, isSpace c = true

/-- Neither the first nor the last character is a blank. -/
structure Tight (cs : List Char) : Prop where
  head : ∀ c, cs.head? = some c → isSpace c = false
  last : ∀ c, cs.getLast? = some c → isSpace c = false

theorem blank_nil : Blank [] := List.forall_mem_nil _

theorem Blank.reverse {cs : List Char} (h : Blank cs) : Blank cs.reverse :=
  fun c hc => h c (List.mem_reverse.mp hc)

theorem Blank.append {b cs : List Char} (h : Blank b) (hcs : Blank cs) : Blank (b ++ cs) :=
  fun c hc => (List.mem_append.mp hc).elim (h c) (hcs c)

theorem Tight.reverse {cs : List Char} (h : Tight cs) : Tight cs.reverse := by
  constructor
  · intro c hc
    exact h.last c (by rwa [List.head?_reverse] at hc)
  · intro c hc
    exact h.head c (by rwa [List.getLast?_reverse] at hc)

/-! ## Trimming -/

theorem dropWhile_tight {cs : List Char} (h : Tight cs) : cs.dropWhile isSpace = cs :=
  dropWhile_append_of_head (l := []) (List.forall_mem_nil _) h.head

theorem head?_dropWhile_space {cs : List Char} {c : Char} (h : (cs.dropWhile isSpace).head? = some c) :
    isSpace c = false := by
  have hnot := List.head?_dropWhile_not isSpace cs
  rw [h] at hnot
  simpa using hnot

theorem trim_blank_append {b : List Char} (hb : Blank b) (cs : List Char) : trim (b ++ cs) = trim cs := by
  rw [trim, trimStart, List.dropWhile_append_of_pos hb]
  rfl

theorem trim_of_blank {b : List Char} (hb : Blank b) : trim b = [] := by
  rw [← List.append_nil b, trim_blank_append hb]
  rfl

theorem trimEnd_append_blank {a : List Char} (ha : Blank a) (cs : List Char) : trimEnd (cs ++ a) = trimEnd cs := by
  rw [trimEnd, dropEndWhile, List.reverse_append, List.dropWhile_append_of_pos ha.reverse]
  rfl

theorem trimEnd_of_last {cs : List Char} (h : ∀ c, cs.getLast? = some c → isSpace c = false) : trimEnd cs = cs := by
  have hhead : ∀ c, cs.reverse.head? = some c → isSpace c = false := by
    intro c hc
    rw [List.head?_reverse] at hc
    exact h c hc
  have hreverse : cs.reverse.dropWhile isSpace = cs.reverse :=
    dropWhile_append_of_head (l := []) (List.forall_mem_nil _) hhead
  rw [trimEnd, dropEndWhile, hreverse, List.reverse_reverse]

theorem trimEnd_tight {cs : List Char} (h : Tight cs) : trimEnd cs = cs := trimEnd_of_last h.last

theorem trim_padded {b core a : List Char} (hb : Blank b) (ha : Blank a) (h : Tight core) :
    trim (b ++ core ++ a) = core := by
  rw [List.append_assoc, trim_blank_append hb]
  cases core with
  | nil => exact trim_of_blank ha
  | cons c rest =>
    have hstart : trimStart (c :: rest ++ a) = c :: rest ++ a := by simp [trimStart, h.head c rfl]
    rw [trim, hstart, trimEnd_append_blank ha, trimEnd_tight h]

/-- Every text is what trimming leaves of it, between blanks. -/
theorem exists_padded (cs : List Char) : ∃ b a, Blank b ∧ Blank a ∧ Tight (trim cs) ∧ cs = b ++ trim cs ++ a := by
  let a := ((trimStart cs).reverse.takeWhile isSpace).reverse
  have hstart : trimStart cs = trim cs ++ a := by
    rw [trim, trimEnd, dropEndWhile, ← List.reverse_append, List.takeWhile_append_dropWhile, List.reverse_reverse]
  refine ⟨cs.takeWhile isSpace, a, ?_, ?_, ⟨?_, ?_⟩, ?_⟩
  · intro c hc
    exact List.mem_takeWhile_imp hc
  · exact Blank.reverse fun c hc => List.mem_takeWhile_imp hc
  · intro c hc
    have hhead : (trimStart cs).head? = some c := by rw [hstart, List.head?_append, hc, Option.some_or]
    exact head?_dropWhile_space hhead
  · intro c hc
    rw [trim, trimEnd, dropEndWhile, List.getLast?_reverse] at hc
    exact head?_dropWhile_space hc
  · rw [List.append_assoc, ← hstart, trimStart, List.takeWhile_append_dropWhile]

theorem trim_trim (cs : List Char) : trim (trim cs) = trim cs := by
  obtain ⟨_, _, _, _, htight, _⟩ := exists_padded cs
  simpa using trim_padded blank_nil blank_nil htight

theorem trim_append_blank {a : List Char} (ha : Blank a) (cs : List Char) : trim (cs ++ a) = trim cs := by
  obtain ⟨b, a', hb, ha', htight, hcs⟩ := exists_padded cs
  calc trim (cs ++ a) = trim (b ++ trim cs ++ (a' ++ a)) := by rw [← List.append_assoc, ← hcs]
    _ = trim cs := trim_padded hb (ha'.append ha) htight

/-- Trimming leaves what stands at the end of a text, if it neither starts nor ends with a blank. -/
theorem exists_trim_append {cs : List Char} (h : Tight cs) (hne : cs ≠ []) (front : List Char) :
    ∃ rest, trim (front ++ cs) = rest ++ cs := by
  have hstart : trimStart (front ++ cs) = front.dropWhile isSpace ++ cs := by
    rw [trimStart, List.dropWhile_append]
    split
    · rename_i hempty
      rw [dropWhile_tight h, List.isEmpty_iff.mp hempty]
      rfl
    · rfl
  refine ⟨front.dropWhile isSpace, ?_⟩
  rw [trim, hstart]
  apply trimEnd_of_last
  intro c hc
  rw [List.getLast?_append_of_ne_nil _ hne] at hc
  exact h.last c hc

theorem head?_trim {c : Char} (h : isSpace c = false) (rest : List Char) : (trim (c :: rest)).head? = some c := by
  obtain ⟨b, a, hb, ha, _, hcs⟩ := exists_padded (c :: rest)
  have hfirst {cs tail : List Char} (hblank : Blank cs) (heq : c :: rest = cs ++ tail) : cs = [] := by
    cases cs with
    | nil => rfl
    | cons x cs =>
      obtain ⟨rfl, _⟩ := List.cons.inj heq
      rw [hblank c List.mem_cons_self] at h
      exact nomatch h
  obtain rfl := hfirst hb (by rw [← List.append_assoc]; exact hcs)
  rw [List.nil_append] at hcs
  cases hcore : trim (c :: rest) with
  | nil =>
    rw [hcore, List.nil_append] at hcs
    obtain rfl := hfirst ha (by rw [List.append_nil]; exact hcs)
    exact nomatch hcs
  | cons x core =>
    rw [hcore, List.cons_append] at hcs
    rw [(List.cons.inj hcs).1]
    rfl

/-- The blanks around a text can be told from it. -/
theorem padded_inj {b core a b' core' a' : List Char} (hb : Blank b) (hb' : Blank b') (ha : Blank a)
    (ha' : Blank a') (hcore : Tight core) (hcore' : Tight core') (hne : core ≠ [])
    (h : b ++ core ++ a = b' ++ core' ++ a') : b = b' ∧ core = core' ∧ a = a' := by
  have hsame : core = core' := by
    rw [← trim_padded hb ha hcore, h, trim_padded hb' ha' hcore']
  subst hsame
  have hhead (a : List Char) : ∀ c, (core ++ a).head? = some c → isSpace c = false := by
    obtain ⟨first, rest, rfl⟩ := List.exists_cons_of_ne_nil hne
    exact hcore.head
  rw [List.append_assoc, List.append_assoc] at h
  have hfront : b = b' := by
    rw [← takeWhile_append_of_head hb (hhead a), ← takeWhile_append_of_head hb' (hhead a'), h]
  subst hfront
  exact ⟨rfl, rfl, List.append_cancel_left (List.append_cancel_left h)⟩

end CatalogGate.Text
