-- Taking an upload out of a form: exactly one file, which has to be YAML and must not be too large.
import CatalogGate.Gate.Run
import CatalogGate.Http.Form
import CatalogGate.Upload.Media

namespace CatalogGate.Upload

/-- The name of the part that carries the document. -/
def fileField : String := "file"

/-- The greatest size of a document in bytes. -/
structure Limits where
  maxUploadBytes : Nat

/-- The greatest size of a whole request. Headers and boundaries have some room of their own. -/
def Limits.maxRequestBytes (l : Limits) : Nat := l.maxUploadBytes + 16 * 1024

/-- Why an upload is refused before it is validated. -/
inductive Rejection where
  | malformed (fault : Http.FormFault)
  | missingFile
  | unexpectedField (name : String)
  | multipleFiles
  | tooLarge (limit : Nat)
  | unsupportedType (filename : String) (contentType : Option String)
deriving Repr, DecidableEq

namespace Rejection

/-- The label under which rejections are counted. -/
def reason : Rejection → String
  | malformed _ => "malformed"
  | missingFile => "missing_file"
  | unexpectedField _ => "unexpected_field"
  | multipleFiles => "multiple_files"
  | tooLarge _ => "too_large"
  | unsupportedType _ _ => "unsupported_type"

def message : Rejection → String
  | malformed fault => s!"Invalid multipart data: {fault.message}"
  | missingFile => s!"Missing '{fileField}' field"
  | unexpectedField name => s!"Unexpected file field '{name}'; upload the document as '{fileField}'"
  | multipleFiles => "Only one file may be uploaded"
  | tooLarge limit => s!"File exceeds the maximum size of {limit} bytes"
  | unsupportedType filename contentType =>
    let type := contentType.getD "none"
    s!"Only YAML files are accepted (filename '{filename}', content type '{type}')"

end Rejection

/-- What is wrong with a file judging by its headers, if something is. -/
def refusal? (isSecond : Bool) (part : Http.Part) (filename : String) : Option Rejection :=
  let name := part.name.getD ""
  if isSecond then some .multipleFiles
  else if name != fileField then some (.unexpectedField name)
  else if !isYaml filename part.contentType then some (.unsupportedType filename part.contentType)
  else none

/-- Takes data in chunk by chunk, as long as it does not grow too large. -/
def collect (limit : Nat) (read : List UInt8) : List (List UInt8) → Option (List UInt8)
  | [] => some read
  | chunk :: rest =>
    if limit < read.length + chunk.length then none else collect limit (read ++ chunk) rest

/-- Goes through the parts of a form. Parts without a filename are passed over. -/
def receiveSections (l : Limits) (fault : Option Http.FormFault) (found : Option Upload) :
    List Http.Section → Except Rejection Upload
  | [] =>
    match fault, found with
    | some fault, _ => .error (.malformed fault)
    | none, some upload => .ok upload
    | none, none => .error .missingFile
  | s :: rest =>
    match s.part.filename with
    | none => receiveSections l fault found rest
    | some filename =>
      match refusal? found.isSome s.part filename with
      | some rejection => .error rejection
      | none =>
        match collect l.maxUploadBytes [] s.chunks with
        | none => .error (.tooLarge l.maxUploadBytes)
        | some data => receiveSections l fault (some ⟨filename, s.part.contentType, ⟨data.toArray⟩⟩) rest

/-- The upload in a form. -/
def receiveForm (l : Limits) (form : Http.Form) : Except Rejection Upload :=
  receiveSections l form.fault none form.sections

/-- The upload in the body of a request. -/
def receive (l : Limits) (contentType : Option String) (body : ByteArray) : Except Rejection Upload :=
  receiveForm l (Http.Form.ofRequest l.maxRequestBytes contentType body)

/-! ## Laws -/

theorem isYaml_of_refusal?_eq_none {isSecond : Bool} {part : Http.Part} {filename : String}
    (h : refusal? isSecond part filename = none) : isYaml filename part.contentType = true := by
  cases hy : isYaml filename part.contentType with
  | true => rfl
  | false =>
    simp only [refusal?, hy] at h
    split at h
    · simp at h
    · split at h <;> simp at h

theorem length_of_collect {limit : Nat} {read data : List UInt8} {chunks : List (List UInt8)}
    (hread : read.length ≤ limit) (h : collect limit read chunks = some data) : data.length ≤ limit := by
  induction chunks generalizing read with
  | nil =>
    obtain rfl := Option.some.inj h
    exact hread
  | cons chunk rest ih =>
    rw [collect] at h
    split at h
    · exact nomatch h
    · exact ih (by rw [List.length_append]; omega) h

/-- What is received has a file type that is accepted and is not too large. -/
theorem receiveSections_ok {l : Limits} {fault : Option Http.FormFault} {found : Option Upload}
    {sections : List Http.Section} {u : Upload}
    (hfound : ∀ f, found = some f → isYaml f.filename f.contentType = true ∧ f.bytes.size ≤ l.maxUploadBytes)
    (h : receiveSections l fault found sections = .ok u) :
    isYaml u.filename u.contentType = true ∧ u.bytes.size ≤ l.maxUploadBytes := by
  induction sections generalizing found with
  | nil =>
    unfold receiveSections at h
    split at h
    · exact nomatch h
    · exact Except.ok.inj h ▸ hfound _ rfl
    · exact nomatch h
  | cons s rest ih =>
    unfold receiveSections at h
    split at h
    · exact ih hfound h
    · split at h
      · exact nomatch h
      · rename_i hrefusal
        split at h
        · exact nomatch h
        · rename_i data hdata
          refine ih ?_ h
          intro f hf
          obtain rfl := Option.some.inj hf
          refine ⟨isYaml_of_refusal?_eq_none hrefusal, ?_⟩
          simpa [ByteArray.size] using length_of_collect (Nat.zero_le _) hdata

theorem receive_ok {l : Limits} {contentType : Option String} {body : ByteArray} {u : Upload}
    (h : receive l contentType body = .ok u) :
    isYaml u.filename u.contentType = true ∧ u.bytes.size ≤ l.maxUploadBytes :=
  receiveSections_ok (by simp) h

end CatalogGate.Upload
