-- The entries of a ruleset's text: the names of its rules, and what is written under them. Keys are taken as
-- they are spelled, and of two equal keys the later one takes the place of the earlier.
import CatalogGate.Json.Basic
import CatalogGate.Yaml.Node.Reading

namespace CatalogGate.Yaml.Content

/-! ## Values under rules -/

/-- The JSON value of a scalar. Numbers that JSON does not have are null. -/
def scalarJson (path : Path) (mark : Mark) (s : Scalar) : Except Error CatalogGate.Json :=
  match s with
  | .null => .ok .null
  | .bool b => .ok (.bool b)
  | .int i => .ok (.number (.int i))
  | .wide _ => .error (.value .numberTooLarge path.text mark)
  | .float f => .ok (if f.isFinite then .number (.float f) else .null)
  | .text t => .ok (.string t)

/-- Values with tags of their own are not allowed. -/
def refuseTag (tag : Option String) (path : Path) (mark : Mark) : Except Error Unit :=
  if (Node.localTag? tag).isSome then .error (.value (.wrongType .tagged "any valid JSON value") path.text mark)
  else .ok ()

/-- What is wrong where a text or a mapping is wanted. -/
def mismatch (expected : String) : Tree → ValueProblem
  | .scalar tag text style _ =>
    match Scalar.ofTagged (if (Node.localTag? tag).isSome then none else tag) text style with
    | .ok s => .wrongType (.ofScalar s) expected
    | .error d => .wrongScalar text d.name
  | .sequence _ _ _ => .wrongType .sequence expected
  | .mapping _ _ _ => .wrongType .map expected
  | _ => .wrongType .unit expected

def markOf : Tree → Mark
  | .scalar _ _ _ mark => mark
  | .sequence _ _ mark => mark
  | .mapping _ _ mark => mark
  | _ => default

/-- The spelling of a key, which has to be a scalar. -/
def readKey (c : Content) (path : Path) (expected : String) (key : Tree) :
    StateT Nat (Except Error) (String × Mark) := do
  match ← c.follow key with
  | .scalar _ text _ mark => return (text, mark)
  | .broken e => throw e
  | tree => throw (.value (mismatch expected tree) path.text (markOf tree))

/-- The JSON value of a tree in which collections may be nested `depth` deep. -/
def readJson (c : Content) : Nat → Path → Tree → StateT Nat (Except Error) CatalogGate.Json
  | depth, path, tree => do
    match ← c.follow tree with
    | .broken e => throw e
    | .aliasOf _ => throw .tooManyAliases
    | .scalar tag text style mark =>
      refuseTag tag path mark
      match Scalar.ofTagged tag text style with
      | .ok s => scalarJson path mark s
      | .error d => throw (.value (.wrongScalar text d.name) path.text mark)
    | .sequence tag items mark =>
      refuseTag tag path mark
      match depth with
      | 0 => throw (.tooDeep mark)
      | d + 1 =>
        let (read, _) ← items.foldlM (fun (read, i) item => do
          return ((← c.readJson d (path.item i) item) :: read, i + 1)) ([], 0)
        return .array read.reverse
    | .mapping tag entries mark =>
      refuseTag tag path mark
      match depth with
      | 0 => throw (.tooDeep mark)
      | d + 1 =>
        let members ← entries.foldlM (fun members (key, value) => do
          let (name, _) ← c.readKey path (if members.isEmpty then "a string key" else "a string") key
          return CatalogGate.Json.put name (← c.readJson d (path.entry key) value) members) []
        return .object members

/-! ## The ruleset -/

/-- A scalar in whose place nothing is written. -/
def isVoid : Tree → Bool
  | .scalar _ text style _ => text.isEmpty && style = .plain
  | _ => false

/-- The entries of a mapping. Where nothing is written there are none. -/
def readMapping (c : Content) (path : Path) (expected : String) (tree : Tree) :
    StateT Nat (Except Error) (List (Tree × Tree) × Mark) := do
  match ← c.follow tree with
  | .broken e => throw e
  | .mapping _ entries mark => return (entries, mark)
  | tree =>
    if isVoid tree then return ([], markOf tree)
    throw (.value (mismatch expected tree) path.text (markOf tree))

/-- The only key of a ruleset. -/
def rulesKey : String := "rules"

def rulesPath : Path := Path.root.key rulesKey

/-- The names of rules with what is written under them. -/
def readRules (c : Content) (tree : Tree) : StateT Nat (Except Error) (List (String × CatalogGate.Json)) := do
  let (entries, _) ← c.readMapping rulesPath "a map" tree
  entries.foldlM (fun rules (key, value) => do
    let (name, _) ← c.readKey rulesPath "a string" key
    return CatalogGate.Json.put name (← c.readJson (depthLimit - 2) (rulesPath.entry key) value) rules) []

/-- The rules of the only document of a text. -/
def rules (c : Content) : Except Error (List (String × CatalogGate.Json)) := do
  let read : StateT Nat (Except Error) (List (String × CatalogGate.Json)) := do
    let (entries, mark) ← c.readMapping Path.root "struct RawRuleset" c.root
    let found ← entries.foldlM (fun found (key, value) => do
      let (name, keyMark) ← c.readKey Path.root "field identifier" key
      if name ≠ rulesKey then
        throw (.value (.unknownField name s!"\x60{rulesKey}\x60") Path.root.text keyMark)
      if found.isSome then throw (.value (.repeatedField name) Path.root.text mark)
      return some (← c.readRules value)) none
    return found.getD []
  let (found, _) ← read.run 0
  match c.ending with
  | some e => throw e
  | none => return found

end CatalogGate.Yaml.Content
