-- The law of uploads: which parts of a form decide, in which order they are tested, and that neither form values
-- nor the chunks of the data make a difference.
import CatalogGate.Proofs.Text.Padding
import CatalogGate.Upload.Reception

namespace CatalogGate.Upload

/-! ## File types -/

/-- A text ends in `yaml` or `yml` in letters of any case, perhaps with blanks behind. -/
def NamesYaml (text : List Char) : Prop :=
  ∃ front ending blanks, text = front ++ ending ++ blanks ∧ Text.Blank blanks ∧
    (Text.lowerAscii ending = "yaml".toList ∨ Text.lowerAscii ending = "yml".toList)

/-- What stands in a content type before its parameters. -/
def IsMediaTypeOf (media contentType : List Char) : Prop :=
  ∃ parameters, contentType = media ++ parameters ∧ ';' ∉ media ∧
    ∀ c, parameters.head? = some c → c = ';'

/-- The filename or the media type of a file says that it is YAML. -/
def IsYaml (filename : String) (contentType : Option String) : Prop :=
  NamesYaml filename.toList ∨
    ∃ t media, contentType = some t ∧ IsMediaTypeOf media t.toList ∧ NamesYaml media

theorem isSpace_of_toLower {c : Char} (h : Text.isSpace c.toLower = false) : Text.isSpace c = false := by
  unfold Char.toLower at h
  split at h
  · rename_i hupper
    have hlow : 65 ≤ c.toNat := UInt32.le_iff_toNat_le.mp hupper.1
    have hhigh : c.toNat ≤ 90 := UInt32.le_iff_toNat_le.mp hupper.2
    simp only [Text.isSpace, Bool.or_eq_false_iff, Bool.and_eq_false_iff, decide_eq_false_iff_not,
      beq_eq_false_iff_ne]
    omega
  · exact h

theorem tight_of_lower {ending lower : List Char} (h : Text.lowerAscii ending = lower)
    (hlower : ∀ c ∈ lower, Text.isSpace c = false) : Text.Tight ending := by
  have hall : ∀ c ∈ ending, Text.isSpace c = false := by
    intro c hc
    apply isSpace_of_toLower
    apply hlower
    rw [← h]
    exact List.mem_map_of_mem hc
  exact ⟨fun c hc => hall c (List.mem_of_head? hc), fun c hc => hall c (List.mem_of_getLast? hc)⟩

/-- Trimming and writing small shows an ending in small letters exactly if the text ends in these letters, but for
blanks and case. -/
theorem isSuffixOf_trim_iff {lower : List Char} (hne : lower ≠ []) (hlower : ∀ c ∈ lower, Text.isSpace c = false)
    (text : List Char) :
    lower.isSuffixOf (Text.lowerAscii (Text.trim text)) = true ↔
      ∃ front ending blanks, text = front ++ ending ++ blanks ∧ Text.Blank blanks ∧
        Text.lowerAscii ending = lower := by
  rw [List.isSuffixOf_iff_suffix]
  constructor
  · rintro ⟨before, hbefore⟩
    obtain ⟨front, ending, hcore, _, hending⟩ := List.map_eq_append_iff.mp hbefore.symm
    obtain ⟨b, a, _, ha, _, htext⟩ := Text.exists_padded text
    refine ⟨b ++ front, ending, a, ?_, ha, hending⟩
    rw [List.append_assoc b, ← hcore]
    exact htext
  · rintro ⟨front, ending, blanks, rfl, hblanks, hending⟩
    have hnil : ending ≠ [] := by
      rintro rfl
      exact hne hending.symm
    obtain ⟨rest, htrim⟩ := Text.exists_trim_append (tight_of_lower hending hlower) hnil front
    rw [Text.trim_append_blank hblanks, htrim, Text.lowerAscii, List.map_append]
    exact ⟨rest.map Char.toLower, by rw [← hending]; rfl⟩

theorem namesYaml_iff (text : List Char) : namesYaml text = true ↔ NamesYaml text := by
  have hyaml : ∀ c ∈ "yaml".toList, Text.isSpace c = false := by simp [Text.isSpace]
  have hyml : ∀ c ∈ "yml".toList, Text.isSpace c = false := by simp [Text.isSpace]
  unfold namesYaml NamesYaml
  rw [Bool.or_eq_true, isSuffixOf_trim_iff (by decide) hyaml, isSuffixOf_trim_iff (by decide) hyml]
  constructor
  · intro h
    rcases h with ⟨front, ending, blanks, htext, hblanks, hending⟩ | ⟨front, ending, blanks, htext, hblanks, hending⟩
    · exact ⟨front, ending, blanks, htext, hblanks, .inl hending⟩
    · exact ⟨front, ending, blanks, htext, hblanks, .inr hending⟩
  · rintro ⟨front, ending, blanks, htext, hblanks, hending | hending⟩
    · exact .inl ⟨front, ending, blanks, htext, hblanks, hending⟩
    · exact .inr ⟨front, ending, blanks, htext, hblanks, hending⟩

theorem isMediaTypeOf_iff {media contentType : List Char} :
    IsMediaTypeOf media contentType ↔ media = mediaType contentType := by
  constructor
  · rintro ⟨parameters, rfl, hmedia, hhead⟩
    refine (takeWhile_append_of_head ?_ ?_).symm
    · intro c hc
      exact decide_eq_true fun heq => hmedia (heq ▸ hc)
    · intro c hc
      simp [hhead c hc]
  · rintro rfl
    refine ⟨contentType.dropWhile (· ≠ ';'), (List.takeWhile_append_dropWhile).symm, ?_, ?_⟩
    · intro hmem
      simpa using List.mem_takeWhile_imp hmem
    · intro c hc
      have hnot := List.head?_dropWhile_not (fun c => decide (c ≠ ';')) contentType
      rw [hc] at hnot
      simpa using hnot

theorem isYaml_iff (filename : String) (contentType : Option String) :
    isYaml filename contentType = true ↔ IsYaml filename contentType := by
  unfold isYaml IsYaml
  rw [Bool.or_eq_true, namesYaml_iff]
  cases contentType with
  | none => simp
  | some t => simp [isMediaTypeOf_iff, namesYaml_iff]

/-! ## The data of a part -/

/-- The running test of the size is a test of the whole size. -/
theorem collect_eq {limit : Nat} {read : List UInt8} (hread : read.length ≤ limit) (chunks : List (List UInt8)) :
    collect limit read chunks =
      if limit < (read ++ chunks.flatten).length then none else some (read ++ chunks.flatten) := by
  induction chunks generalizing read with
  | nil =>
    have hsmall : ¬ limit < read.length := by omega
    simp [collect, hsmall]
  | cons chunk rest ih =>
    rw [collect, List.flatten_cons, ← List.append_assoc]
    by_cases hlarge : limit < read.length + chunk.length
    -- The chunks behind only make the data longer.
    · have hwhole : limit < (read ++ chunk ++ rest.flatten).length := by
        simp only [List.length_append]
        omega
      rw [if_pos hlarge, if_pos hwhole]
    · rw [if_neg hlarge]
      apply ih
      rw [List.length_append]
      omega

/-- The data of a part as one chunk. -/
def joined (s : Http.Section) : Http.Section := ⟨s.part, [s.chunks.flatten]⟩

theorem collect_joined (limit : Nat) (s : Http.Section) :
    collect limit [] (joined s).chunks = collect limit [] s.chunks := by
  rw [collect_eq (Nat.zero_le limit), collect_eq (Nat.zero_le limit)]
  simp [joined]

variable {l : Limits} {fault : Option Http.FormFault} {found : Option Upload} {sections : List Http.Section}

theorem receiveSections_joined :
    receiveSections l fault found (sections.map joined) = receiveSections l fault found sections := by
  induction sections generalizing found with
  | nil => rfl
  | cons s rest ih =>
    rw [List.map_cons, receiveSections, receiveSections, collect_joined]
    simp only [ih]
    rfl

/-! ## One part -/

/-- A test that a part with a filename fails, when it has passed those before it. -/
inductive Fails (l : Limits) (s : Http.Section) (filename : String) : Rejection → Prop
  | field (hfield : s.part.name ≠ some fileField) :
      Fails l s filename (.unexpectedField (s.part.name.getD ""))
  | type (hfield : s.part.name = some fileField) (htype : ¬ IsYaml filename s.part.contentType) :
      Fails l s filename (.unsupportedType filename s.part.contentType)
  | size (hfield : s.part.name = some fileField) (htype : IsYaml filename s.part.contentType)
      (hsize : l.maxUploadBytes < s.chunks.flatten.length) : Fails l s filename (.tooLarge l.maxUploadBytes)

/-- A part with a filename passes all tests. -/
structure Passes (l : Limits) (s : Http.Section) (filename : String) : Prop where
  field : s.part.name = some fileField
  type : IsYaml filename s.part.contentType
  size : s.chunks.flatten.length ≤ l.maxUploadBytes

/-- The upload that a part with a filename is. -/
def uploadOf (s : Http.Section) (filename : String) : Upload :=
  ⟨filename, s.part.contentType, ⟨s.chunks.flatten.toArray⟩⟩

section Part

variable {s : Http.Section} {filename : String}

theorem fails_or_passes (l : Limits) (s : Http.Section) (filename : String) :
    (∃ rejection, Fails l s filename rejection) ∨ Passes l s filename := by
  by_cases hfield : s.part.name = some fileField
  · by_cases htype : IsYaml filename s.part.contentType
    · by_cases hsize : l.maxUploadBytes < s.chunks.flatten.length
      · exact .inl ⟨_, .size hfield htype hsize⟩
      · exact .inr ⟨hfield, htype, Nat.le_of_not_lt hsize⟩
    · exact .inl ⟨_, .type hfield htype⟩
  · exact .inl ⟨_, .field hfield⟩

theorem getD_eq_fileField_iff (name : Option String) : name.getD "" = fileField ↔ name = some fileField := by
  cases name with
  | none => simp [fileField]
  | some name => simp

/-- The headers of a first file are refused for its field and then for its type. -/
theorem refusal?_first (part : Http.Part) (filename : String) :
    refusal? false part filename =
      if part.name ≠ some fileField then some (.unexpectedField (part.name.getD ""))
      else if isYaml filename part.contentType = false then some (.unsupportedType filename part.contentType)
      else none := by
  by_cases hfield : part.name = some fileField
  · cases htype : isYaml filename part.contentType <;> simp [refusal?, hfield, htype]
  · have hname : part.name.getD "" ≠ fileField := fun heq => hfield ((getD_eq_fileField_iff _).mp heq)
    simp [refusal?, hfield, hname]

theorem receiveSections_value (h : s.part.filename = none) :
    receiveSections l fault found (s :: sections) = receiveSections l fault found sections := by
  rw [receiveSections, h]

theorem receiveSections_second (u : Upload) (hname : s.part.filename = some filename) :
    receiveSections l fault (some u) (s :: sections) = .error .multipleFiles := by
  rw [receiveSections, hname]
  rfl

theorem receiveSections_fails {rejection : Rejection} (hname : s.part.filename = some filename)
    (h : Fails l s filename rejection) : receiveSections l fault none (s :: sections) = .error rejection := by
  rw [receiveSections, hname]
  simp only [Option.isSome_none, refusal?_first]
  cases h with
  | field hfield => rw [if_pos hfield]
  | type hfield htype =>
    have hyaml : isYaml filename s.part.contentType = false := by
      rw [← Bool.not_eq_true, isYaml_iff]
      exact htype
    rw [if_neg (not_not_intro hfield), if_pos hyaml]
  | size hfield htype hsize =>
    have hyaml : isYaml filename s.part.contentType = true := (isYaml_iff _ _).mpr htype
    rw [if_neg (not_not_intro hfield), if_neg (by simp [hyaml]), collect_eq (Nat.zero_le _), List.nil_append,
      if_pos hsize]

theorem receiveSections_passes (hname : s.part.filename = some filename) (h : Passes l s filename) :
    receiveSections l fault none (s :: sections) = receiveSections l fault (some (uploadOf s filename)) sections := by
  have hyaml : isYaml filename s.part.contentType = true := (isYaml_iff _ _).mpr h.type
  rw [receiveSections, hname]
  simp only [Option.isSome_none, refusal?_first]
  rw [if_neg (not_not_intro h.field), if_neg (by simp [hyaml]), collect_eq (Nat.zero_le _), List.nil_append,
    if_neg (Nat.not_lt.mpr h.size)]
  rfl

end Part

/-! ## All parts -/

/-- The parts that carry files. The others are values of a form. -/
def files (sections : List Http.Section) : List Http.Section := sections.filter (·.part.filename.isSome)

theorem receiveSections_files :
    receiveSections l fault found (files sections) = receiveSections l fault found sections := by
  induction sections generalizing found with
  | nil => rfl
  | cons s rest ih =>
    cases hname : s.part.filename with
    | none =>
      have hskip : files (s :: rest) = files rest := by simp [files, hname]
      rw [hskip, ih, receiveSections_value hname]
    | some filename =>
      have hkeep : files (s :: rest) = s :: files rest := by simp [files, hname]
      rw [hkeep, receiveSections, receiveSections]
      simp only [ih]

/-- What becomes of a form that can be read to its end. -/
inductive Answer (l : Limits) (sections : List Http.Section) : Except Rejection Upload → Prop
  | missing (h : files sections = []) : Answer l sections (.error .missingFile)
  | refused {s : Http.Section} {others : List Http.Section} {filename : String} {rejection : Rejection}
      (h : files sections = s :: others) (hname : s.part.filename = some filename)
      (hfails : Fails l s filename rejection) : Answer l sections (.error rejection)
  | multiple {s other : Http.Section} {others : List Http.Section} {filename : String}
      (h : files sections = s :: other :: others) (hname : s.part.filename = some filename)
      (hpasses : Passes l s filename) : Answer l sections (.error .multipleFiles)
  | taken {s : Http.Section} {filename : String} (h : files sections = [s])
      (hname : s.part.filename = some filename) (hpasses : Passes l s filename) :
      Answer l sections (.ok (uploadOf s filename))

theorem exists_filename {s : Http.Section} (h : s ∈ files sections) : ∃ filename, s.part.filename = some filename :=
  Option.isSome_iff_exists.mp (List.mem_filter.mp h).2

theorem exists_answer (l : Limits) (sections : List Http.Section) : ∃ result, Answer l sections result := by
  rcases hfiles : files sections with _ | ⟨s, others⟩
  · exact ⟨_, .missing hfiles⟩
  · obtain ⟨filename, hname⟩ := exists_filename (s := s) (by rw [hfiles]; exact List.mem_cons_self)
    rcases fails_or_passes l s filename with ⟨rejection, hfails⟩ | hpasses
    · exact ⟨_, .refused hfiles hname hfails⟩
    · cases others with
      | nil => exact ⟨_, .taken hfiles hname hpasses⟩
      | cons other others => exact ⟨_, .multiple hfiles hname hpasses⟩

theorem receiveForm_of_answer {result : Except Rejection Upload} (h : Answer l sections result) :
    receiveForm l ⟨sections, none⟩ = result := by
  unfold receiveForm
  rw [← receiveSections_files]
  cases h with
  | missing h =>
    rw [h]
    rfl
  | refused h hname hfails => rw [h, receiveSections_fails hname hfails]
  | multiple h hname hpasses =>
    obtain ⟨otherName, hother⟩ := exists_filename (List.mem_of_mem_tail (by rw [h]; exact List.mem_cons_self))
    rw [h, receiveSections_passes hname hpasses, receiveSections_second _ hother]
  | taken h hname hpasses =>
    rw [h, receiveSections_passes hname hpasses]
    rfl

/-! ## The law -/

/-- A form is answered by its files alone: the first one is refused for the first test that it fails, a second one is
one too many, and a single one that passes is taken as a whole. -/
theorem receiveForm_answers (l : Limits) (sections : List Http.Section) :
    (∀ result, receiveForm l ⟨sections, none⟩ = result ↔ Answer l sections result) ∧
      ∀ others, (files others).map joined = (files sections).map joined →
        receiveForm l ⟨others, none⟩ = receiveForm l ⟨sections, none⟩ := by
  constructor
  · intro result
    obtain ⟨answer, hanswer⟩ := exists_answer l sections
    constructor
    · rintro rfl
      rwa [receiveForm_of_answer hanswer]
    · exact receiveForm_of_answer
  · intro others hsame
    unfold receiveForm
    rw [← receiveSections_files, ← receiveSections_joined, hsame, receiveSections_joined, receiveSections_files]

end CatalogGate.Upload
