-- Why a value is no schema.
import CatalogGate.Schema.Violation

namespace CatalogGate.Schema

/-- Why a document cannot be had. -/
inductive Absence where
  /-- Nobody knows how to get documents of this scheme. -/
  | scheme (name : String)
  | network (identifier : String)
  | file
  /-- All documents have been gathered before. -/
  | late
deriving Repr, DecidableEq

def Absence.message : Absence → String
  | scheme name => s!"Unknown scheme {name}"
  | network identifier => s!"error sending request for url ({identifier})"
  | file => "No such file or directory (os error 2)"
  | late => "Retrieving external resources is not supported once the registry is populated"

inductive Problem where
  /-- The schema of schemas complains. -/
  | violation (v : Violation)
  | notAPattern (value : Json)
  /-- There is no such kind of values, or a value is of a kind that nothing is said about. -/
  | unexpectedKind
  | unknownEdition (identifier : String)
  | badReference (reference : List Char) (fault : Identifier.Fault)
  | conflict (reference : List Char) (base : Identifier) (reason : Identifier.Conflict)
  | absent (identifier : Identifier) (absence : Absence)
  | noPlace (pointer : String)
  | badPointer (pointer : String)
  | badIndex (token pointer : String)
  | noAnchor (name : String)

def Problem.message : Problem → String
  | violation v => v.message
  | notAPattern value => (Complaint.notInFormat value Format.regex.name).message
  | unexpectedKind => "Unexpected type"
  | unknownEdition identifier => s!"Unknown specification: {identifier}"
  | badReference reference fault =>
    s!"Invalid URI reference '{String.ofList reference}': {fault.message reference}"
  | conflict reference base reason =>
    s!"Failed to resolve '{String.ofList reference}' against '{base.text}': {reason.message}"
  | absent identifier absence =>
    s!"Resource '{identifier.text}' is not present in a registry and retrieving it failed: {absence.message}"
  | noPlace pointer => s!"Pointer '{pointer}' does not exist"
  | badPointer pointer =>
    s!"Invalid percent encoding in pointer '{pointer}': the decoded bytes do not represent valid UTF-8"
  | badIndex token pointer => s!"Failed to parse array index '{token}' in pointer '{pointer}'"
  | noAnchor name =>
    if name.contains '/' then s!"Anchor '{name}' is invalid" else s!"Anchor '{name}' does not exist"

end CatalogGate.Schema
