-- Values from trees: tags are taken off, scalars get their meaning, aliases are followed, and a mapping
-- must not name a key twice.
import CatalogGate.Yaml.Tree

namespace CatalogGate.Yaml

namespace Node

def ofScalar (s : Scalar) (path : String) (mark : Mark) : Except Error Node :=
  match s with
  | .null => .ok null
  | .bool b => .ok (bool b)
  | .int i => .ok (int i)
  | .wide i => .error (.value (.wrongType (.wide i) "any YAML value") path mark)
  | .float f => .ok (float f)
  | .text t => .ok (string t)

/-- Without an exclamation mark in front, if there is anything else. -/
def dropMark : List Char → List Char
  | '!' :: c :: rest => c :: rest
  | cs => cs

/-- The name of a local tag, one that starts with an exclamation mark. A second mark does not belong to the
name either. -/
def localTag? (tag : Option String) : Option String :=
  match tag with
  | none => none
  | some t =>
    match t.toList with
    | '!' :: rest => some (String.ofList (dropMark (dropMark ('!' :: rest))))
    | _ => none

def withTag (tag : Option String) (value : Node) : Node :=
  match localTag? tag with
  | some name => tagged name value
  | none => value

end Node

namespace Content

/-- The value of a tree in which collections may be nested `depth` deep. -/
def readNode (c : Content) : Nat → Path → Tree → StateT Nat (Except Error) Node
  | depth, path, tree => do
    match ← c.follow tree with
    | .broken e => throw e
    | .aliasOf _ => throw .tooManyAliases
    | .scalar tag text style mark =>
      let value ←
        match Scalar.ofTagged (if (Node.localTag? tag).isSome then none else tag) text style with
        | .ok s => Node.ofScalar s path.text mark
        | .error d => throw (.value (.wrongScalar text d.name) path.text mark)
      return Node.withTag tag value
    | .sequence tag items mark =>
      match depth with
      | 0 => throw (.tooDeep mark)
      | d + 1 =>
        let (read, _) ← items.foldlM (fun (read, i) item => do
          return ((← c.readNode d (path.item i) item) :: read, i + 1)) ([], 0)
        return Node.withTag tag (.sequence read.reverse)
    | .mapping tag entries mark =>
      match depth with
      | 0 => throw (.tooDeep mark)
      | d + 1 =>
        let read ← entries.foldlM (fun read (key, value) => do
          let k ← c.readNode d path key
          if (Node.lookup k read).isSome then throw (.value (.repeatedKey k) path.text mark)
          return (k, ← c.readNode d (path.entry key) value) :: read) []
        return Node.withTag tag (.mapping read.reverse)

/-- The value of the only document of a text. -/
def node (c : Content) : Except Error Node := do
  let (value, _) ← (c.readNode depthLimit Path.root c.root).run 0
  match c.ending with
  | some e => throw e
  | none => return value

end Content

/-- The value that a text holds, before merge keys are applied. -/
def Node.ofText (text : List Char) : Except Error Node := (Content.ofText text).node

end CatalogGate.Yaml
