-- Checking values against schemas. Violations come in the order of the keywords; within a keyword they come
-- in the order of the value or of the schema, as the keyword says.
import CatalogGate.Schema.Likeness
import CatalogGate.Schema.Violation

namespace CatalogGate.Schema

/-- What the schemas at other places say: what is wrong with a value, and what they mark in it. -/
structure Follow where
  violations : Site → Json → Json.Path → List Violation
  marked : Site → Json → List Json.Step

/-! ## Kinds and values -/

def Kind.admits : Kind → Json → Bool
  | array, .array _ => true
  | boolean, .bool _ => true
  | integer, .number n => n.isWhole
  | null, .null => true
  | number, .number _ => true
  | object, .object _ => true
  | string, .string _ => true
  | _, _ => false

/-- As `admits`, but a number with a point is no integer. -/
def Kind.admitsAsWritten : Kind → Json → Bool
  | integer, .number (.float _) => false
  | kind, v => kind.admits v

def itemsOf : Json → List Json
  | .array items => items
  | _ => []

def membersOf : Json → List (String × Json)
  | .object members => members
  | _ => []

/-- The one violation that there is if a test fails. -/
def complainUnless (ok : Bool) (path : Json.Path) (complaint : Complaint) : List Violation :=
  if ok then [] else [⟨path, complaint⟩]

/-- Elements with their positions, from a position on. -/
def numbered (position : Nat) : List Json → List (Nat × Json)
  | [] => []
  | v :: rest => (position, v) :: numbered (position + 1) rest

/-- The names out of a list that an object does not have. -/
def missingNames (names : List String) (members : List (String × Json)) : List String :=
  names.filter fun name => (Json.lookup name members).isNone

/-- Whether names of their own or patterns cover a name. -/
def covers (named : List (String × Schema)) (matching : List (Pattern.Search × Schema)) (name : String) : Bool :=
  named.any (·.1 == name) || matching.any (·.1.finds name)

/-- What is wrong with a text that has to hold a document, perhaps encoded. -/
def documentViolations (encoding : Option Encoding) (type : MediaType) (s : String) (path : Json.Path) :
    List Violation :=
  match encoding with
  | none => complainUnless (type.admits s) path (.notOfType (.string s) type)
  | some encoding =>
    match encoding.decode? s with
    | none => [⟨path, .notEncoded (.string s) encoding⟩]
    | some bytes =>
      match Text.decode bytes with
      | .error offset => [⟨path, .noText bytes offset⟩]
      | .ok text => complainUnless (type.admits (String.ofList text)) path (.notOfType (.string s) type)

/-- What a keyword without schemas in it says about a value. -/
def simpleViolations (keyword : Keyword) (v : Json) (path : Json.Path) : List Violation :=
  match keyword, v with
  | .kinds kinds, v => complainUnless (kinds.any (·.admits v)) path (.wrongKind v kinds)
  | .kindsAsWritten kinds, v => complainUnless (kinds.any (·.admitsAsWritten v)) path (.wrongKind v kinds)
  | .listed options, v => complainUnless (options.any (alike · v)) path (.notListed v options)
  | .constant expected, v => complainUnless (isConstant expected v) path (.notConstant expected)
  | .minimum limit, .number n => complainUnless (!n.less limit) path (.lessThanMinimum v limit)
  | .maximum limit, .number n => complainUnless (!limit.less n) path (.greaterThanMaximum v limit)
  | .moreThan limit, .number n => complainUnless (limit.less n) path (.notAbove v limit)
  | .lessThan limit, .number n => complainUnless (n.less limit) path (.notBelow v limit)
  | .multipleOf divisor, .number n => complainUnless (isMultiple n divisor) path (.notMultiple v divisor)
  | .minLength limit, .string s => complainUnless (limit ≤ s.length) path (.tooShort v limit)
  | .maxLength limit, .string s => complainUnless (s.length ≤ limit) path (.tooLong v limit)
  | .pattern source search, .string s =>
    match search.run s.toList with
    | .found => []
    | .absent => [⟨path, .noMatch v source⟩]
    | .gaveUp => [⟨path, .searchStopped⟩]
  | .format format, .string s => complainUnless (format.admits s) path (.notInFormat v format.name)
  | .encoded encoding, .string s =>
    complainUnless (encoding.decode? s).isSome path (.notEncoded v encoding)
  | .document encoding type, .string s => documentViolations encoding type s path
  | .minItems limit, .array items => complainUnless (limit ≤ items.length) path (.tooFewItems v limit)
  | .maxItems limit, .array items => complainUnless (items.length ≤ limit) path (.tooManyItems v limit)
  | .unique, .array items => complainUnless (isUnique items) path (.repeatedItems v)
  | .noItemsFrom position, .array items =>
    complainUnless (items.length ≤ position) path (.unexpectedItems (items.drop position))
  | .minMembers limit, .object members =>
    complainUnless (limit ≤ members.length) path (.tooFewMembers v limit)
  | .maxMembers limit, .object members =>
    complainUnless (members.length ≤ limit) path (.tooManyMembers v limit)
  | .required names, .object members => (missingNames names members).map fun name => ⟨path, .missing name⟩
  | .requiredWith lists, .object members =>
    lists.flatMap fun (name, names) =>
      if (Json.lookup name members).isSome then
        (missingNames names members).map fun name => ⟨path, .missing name⟩
      else []
  | .noMembers, .object ((_, first) :: _) => [⟨path, .forbidden first⟩]
  | _, _ => []

/-! ## Schemas -/

mutual

/-- What is wrong with a value at a path. -/
def violations (f : Follow) : Schema → Json → Json.Path → List Violation
  | anything, _, _ => []
  | nothing, v, path => [⟨path, .forbidden v⟩]
  | all keywords, v, path => keywordViolations f keywords v path

def keywordViolations (f : Follow) : List Keyword → Json → Json.Path → List Violation
  | [], _, _ => []
  | k :: rest, v, path => keywordViolation f k v path ++ keywordViolations f rest v path

/-- What one keyword says about a value. -/
def keywordViolation (f : Follow) : Keyword → Json → Json.Path → List Violation
  | .firstItems schemas, v, path => placeViolations f schemas (itemsOf v) 0 path
  | .itemsFrom position s, v, path =>
    ((numbered 0 (itemsOf v)).drop position).flatMap fun (i, w) => violations f s w (path ++ [.index i])
  | .contains least most s, v, path =>
    match v with
    | .array items =>
      let found := items.countP fun w => (violations f s w path).isEmpty
      complainUnless (least ≤ found && most.all (found ≤ ·)) path (.containsNone v)
    | _ => []
  | .dependent schemas, v, path => dependentViolations f schemas v path
  | .named schemas, v, path => namedViolations f schemas (membersOf v) path
  | .matching schemas, v, path => matchingViolations f schemas (membersOf v) path
  | .members named matching others, v, path =>
    (membersOf v).flatMap fun (name, w) =>
      let here := path ++ [.key name]
      nameViolations f named name w here ++ matchViolations f matching name w here
        ++ (if covers named matching name then [] else violations f others w here)
  | .closed named matching, v, path =>
    let members := membersOf v
    let others := (members.map Prod.fst).filter fun name => !covers named matching name
    (members.flatMap fun (name, w) =>
      let here := path ++ [.key name]
      nameViolations f named name w here ++ matchViolations f matching name w here)
      ++ complainUnless others.isEmpty path (.unexpectedMembers others)
  | .names s, v, path => (membersOf v).flatMap fun (name, _) => violations f s (.string name) path
      |>.map fun violation => { violation with path }
  | .allOf schemas, v, path => everyViolation f schemas v path
  | .anyOf schemas, v, path => complainUnless (0 < countValid f schemas v) path (.noneOf v)
  | .oneOf schemas, v, path =>
    match countValid f schemas v with
    | 0 => [⟨path, .noOneOf v⟩]
    | 1 => []
    | _ => [⟨path, .severalOf v⟩]
  | .not shown s, v, path => complainUnless (!(violations f s v []).isEmpty) path (.excluded shown v)
  | .conditional test yes no, v, path =>
    if (violations f test v []).isEmpty then violations f yes v path else violations f no v path
  | .reference s, v, path => violations f s v path
  | .follow site, v, path => f.violations site v path
  | .otherMembers marks s, v, path =>
    let seen := markedByAll f marks v
    let unused := (membersOf v).filter fun (name, w) =>
      !seen.contains (.key name) && !(violations f s w []).isEmpty
    complainUnless unused.isEmpty path (.unusedMembers (unused.map Prod.fst))
  | .otherItems marks s, v, path =>
    let seen := markedByAll f marks v
    let unused := (numbered 0 (itemsOf v)).filter fun (i, w) =>
      !seen.contains (.index i) && !(violations f s w []).isEmpty
    complainUnless unused.isEmpty path (.unusedItems (unused.map Prod.snd))
  | keyword, v, path => simpleViolations keyword v path

/-- The first elements, each by a schema of its own. -/
def placeViolations (f : Follow) : List Schema → List Json → Nat → Json.Path → List Violation
  | s :: schemas, w :: items, i, path =>
    violations f s w (path ++ [.index i]) ++ placeViolations f schemas items (i + 1) path
  | _, _, _, _ => []

/-- The value itself, by the schemas of the members that it has. -/
def dependentViolations (f : Follow) : List (String × Schema) → Json → Json.Path → List Violation
  | [], _, _ => []
  | (name, s) :: rest, v, path =>
    (if (Json.lookup name (membersOf v)).isSome then violations f s v path else [])
      ++ dependentViolations f rest v path

/-- The members with names of their own, in the order of the schema. -/
def namedViolations (f : Follow) :
    List (String × Schema) → List (String × Json) → Json.Path → List Violation
  | [], _, _ => []
  | (name, s) :: rest, members, path =>
    (match Json.lookup name members with
      | some w => violations f s w (path ++ [.key name])
      | none => []) ++ namedViolations f rest members path

/-- The members whose names match, pattern by pattern. -/
def matchingViolations (f : Follow) :
    List (Pattern.Search × Schema) → List (String × Json) → Json.Path → List Violation
  | [], _, _ => []
  | (p, s) :: rest, members, path =>
    (members.flatMap fun (name, w) =>
      if p.finds name then violations f s w (path ++ [.key name]) else [])
      ++ matchingViolations f rest members path

/-- One member, by the schema of its name. -/
def nameViolations (f : Follow) :
    List (String × Schema) → String → Json → Json.Path → List Violation
  | [], _, _, _ => []
  | (name, s) :: rest, k, w, here =>
    if name = k then violations f s w here else nameViolations f rest k w here

/-- One member, by the schemas of all patterns that its name matches. -/
def matchViolations (f : Follow) :
    List (Pattern.Search × Schema) → String → Json → Json.Path → List Violation
  | [], _, _, _ => []
  | (p, s) :: rest, k, w, here =>
    (if p.finds k then violations f s w here else []) ++ matchViolations f rest k w here

def everyViolation (f : Follow) : List Schema → Json → Json.Path → List Violation
  | [], _, _ => []
  | s :: rest, v, path => violations f s v path ++ everyViolation f rest v path

/-- How many schemas find nothing wrong. -/
def countValid (f : Follow) : List Schema → Json → Nat
  | [], _ => 0
  | s :: rest, v => (if (violations f s v []).isEmpty then 1 else 0) + countValid f rest v

/-- The members and elements that a mark covers. -/
def markedBy (f : Follow) : Mark → Json → List Json.Step
  | .named schemas, v =>
    ((membersOf v).filter fun (name, w) =>
      schemas.any (·.1 == name) && (nameViolations f schemas name w []).isEmpty).map fun (name, _) => .key name
  | .matching patterns, v =>
    ((membersOf v).filter fun (name, _) => patterns.any (·.finds name)).map fun (name, _) => .key name
  | .rightMembers s, v =>
    ((membersOf v).filter fun (_, w) => (violations f s w []).isEmpty).map fun (name, _) => .key name
  | .firstItems count, v => ((numbered 0 (itemsOf v)).take count).map fun (i, _) => .index i
  | .allItems, v => (numbered 0 (itemsOf v)).map fun (i, _) => .index i
  | .rightItems s, v =>
    ((numbered 0 (itemsOf v)).filter fun (_, w) => (violations f s w []).isEmpty).map fun (i, _) => .index i
  | .withMember name marks, v =>
    if (Json.lookup name (membersOf v)).isSome then markedByAll f marks v else []
  | .branch s marks, v =>
    if (itemsOf v).isEmpty || (violations f s v []).isEmpty then markedByAll f marks v else []
  | .conditional test yes no, v =>
    if (violations f test v []).isEmpty then markedByAll f yes v else markedByAll f no v
  | .follow site, v => f.marked site v

def markedByAll (f : Follow) : List Mark → Json → List Json.Step
  | [], _ => []
  | m :: rest, v => markedBy f m v ++ markedByAll f rest v

end

section

-- There are many equations for these functions. Here they are worked out once, for all proofs that need them.
attribute [local simp] violations keywordViolations keywordViolation nameViolations matchViolations namedViolations
  countValid

end

/-- Where no reference is followed. -/
def Follow.nowhere : Follow := ⟨fun _ _ _ => [], fun _ _ => []⟩

end CatalogGate.Schema
