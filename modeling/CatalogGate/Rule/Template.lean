-- Templates of messages: names between doubled braces stand for texts.
import CatalogGate.Json.Basic

namespace CatalogGate.Rule.Template

/-- What stands before the first closing pair of braces. -/
def upToClose? : List Char → Option (List Char)
  | [] => none
  | '}' :: '}' :: _ => some []
  | c :: rest => (upToClose? rest).map (c :: ·)

/-- Fills a template in after leaving out some characters at its start. Names that mean nothing stay as they
are, and what is put in is not looked into again. -/
def fillFrom (meaning : String → Option String) : Nat → List Char → List Char
  | _, [] => []
  | skipped + 1, _ :: rest => fillFrom meaning skipped rest
  | 0, '{' :: '{' :: rest =>
    match upToClose? rest with
    | none => '{' :: '{' :: rest
    | some name =>
      match meaning (String.ofList name) with
      | some text => text.toList ++ fillFrom meaning (name.length + 3) ('{' :: rest)
      | none => '{' :: '{' :: fillFrom meaning 1 ('{' :: rest)
  | 0, c :: rest => c :: fillFrom meaning 0 rest

/-- A template with the names that mean something replaced. -/
def fill (meaning : String → Option String) (template : String) : String :=
  String.ofList (fillFrom meaning 0 template.toList)

/-! ## Laws -/

theorem fillFrom_skip (meaning : String → Option String) (skipped : Nat) (cs : List Char) :
    fillFrom meaning skipped cs = fillFrom meaning 0 (cs.drop skipped) := by
  induction skipped generalizing cs with
  | zero => rfl
  | succ n ih =>
    cases cs with
    | nil => simp [fillFrom]
    | cons c rest => simp [fillFrom, ih]

end CatalogGate.Rule.Template
