-- What the checks of a rule find in a document.
import CatalogGate.Document.Outline
import CatalogGate.Finding.Basic
import CatalogGate.Rule.Basic
import CatalogGate.Rule.Template
import CatalogGate.Text.Number

namespace CatalogGate

/-- A value that a check looks at. There need not be one at the end of the path. -/
structure Rule.Target where
  path : Json.Path
  value : Option Json

namespace Rule

/-- The step to a member or, where a whole number meets an array, to one of its elements. -/
def stepFrom (value : Option Json) (segment : String) : Json.Step :=
  match value, Text.count? segment.toList with
  | some (.array _), some i => .index i
  | _, _ => .key segment

/-- Follows segments from a value; the path goes on where the values end. -/
def Target.follow (t : Target) : List String → Target
  | [] => t
  | segment :: rest =>
    let step := stepFrom t.value segment
    Target.follow ⟨t.path ++ [step], t.value.bind (Json.step? step)⟩ rest

/-- What a field is at a node. -/
def Field.targets (node : Selected) : Field → List Target
  | .node => [⟨node.path, some node.value⟩]
  | .names =>
    match node.value with
    | .object members => members.map fun (key, _) => ⟨node.path ++ [.key key], some (.string key)⟩
    | _ => []
  | .below segments => [Target.follow ⟨node.path, some node.value⟩ segments]

/-- The last step of a path, which messages speak of. -/
def propertyOf (path : Json.Path) : String := (path.getLast?.map Json.Step.text).getD ""

/-- What the names in a message template stand for. -/
def meaning (r : Rule) (error : String) (t : Target) (property name : String) : Option String :=
  match name with
  | "description" => some (r.description.getD "")
  | "error" => some error
  | "property" => some property
  | "path" => some t.path.text
  | "value" => some ((t.value.map Json.display).getD "")
  | _ => none

/-- A message template with the texts about a target put in. -/
def interpolate (r : Rule) (template error : String) (t : Target) (property : String) : String :=
  Template.fill (r.meaning error t property) template

/-- The message of a rule about what a function says. Without a template that is the message. -/
def messageFor (r : Rule) (error : String) (t : Target) : String :=
  match r.message with
  | some template => r.interpolate template error t (propertyOf t.path)
  | none => error

/-- The diagnostics of a check at a node. -/
def checkNode (r : Rule) (level : Int) (outline : Outline) (node : Selected) (check : Check) : List Diagnostic :=
  (check.field.targets node).flatMap fun t =>
    (check.function.messages t.value (propertyOf t.path)).map fun error =>
      ⟨.name r.name, r.messageFor error t, t.path, outline.rangeOf t.path, level⟩

/-- The diagnostics of a rule: query by query, node by node, check by check. A rule that is off has none. -/
def diagnostics (r : Rule) (root : Json) (outline : Outline) : List Diagnostic :=
  match r.importance.level? with
  | none => []
  | some level =>
    r.given.flatMap fun query =>
      (query.select root).flatMap fun node => r.checks.flatMap (r.checkNode level outline node)

/-! ## Laws -/

theorem diagnostics_code (r : Rule) (root : Json) (outline : Outline) (d : Diagnostic)
    (h : d ∈ r.diagnostics root outline) : d.code = .name r.name := by
  unfold diagnostics at h
  split at h
  · simp at h
  · simp only [List.mem_flatMap, checkNode, List.mem_map] at h
    obtain ⟨_, _, _, _, _, _, _, _, _, _, rfl⟩ := h
    rfl

theorem diagnostics_off (r : Rule) (root : Json) (outline : Outline) (h : r.importance = .off) :
    r.diagnostics root outline = [] := by
  simp [diagnostics, h, Importance.level?]

end Rule

end CatalogGate
