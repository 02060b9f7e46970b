-- Reading schemas from JSON values. A reference is followed while reading the first time that it occurs; where
-- it occurs again, only the place to which it leads is kept.
import CatalogGate.Schema.Operand
import CatalogGate.Schema.Reference

namespace CatalogGate.Schema

/-- What schemas are read from. -/
structure Origin where
  registry : Registry
  /-- Whether a text that is not in its format is wrong. -/
  assertsFormats : Bool

/-- Reading remembers which references have been followed. -/
abbrev Reading := StateT (List Identifier) (Except Problem)

/-- How a schema inside of another one is read. -/
abbrev ReadPart := Json → Reading Schema

namespace Reader

/-! ## Keywords without schemas in them -/

def readPattern (shown : Json) (source : String) : Except Problem Pattern.Search :=
  match Pattern.Search.read? source.toList with
  | some search => .ok search
  | none => .error (.notAPattern shown)

def isFlagSet (key : String) (siblings : List (String × Json)) : Bool :=
  match Json.lookup key siblings with
  | some (.bool b) => b
  | _ => false

/-- What a text has to hold, if anything is known about it. -/
def contentKeyword (siblings : List (String × Json)) (key : String) (v : Json) : Except Problem (Option Keyword) := do
  let encoding := Json.lookup "contentEncoding" siblings
  if key = "contentMediaType" then
    match MediaType.ofName? (← Operand.text v) with
    | none => return none
    | some type =>
      match encoding with
      | none => return some (.document none type)
      | some encoding =>
        let encoding := Encoding.ofName? (← Operand.text encoding)
        return encoding.map fun encoding => .document (some encoding) type
  else if (Json.lookup "contentMediaType" siblings).isSome then return none
  else return (Encoding.ofName? (← Operand.text v)).map .encoded

/-- The format with a name, if it has a meaning in an edition. -/
def formatOf? (e : Edition) (name : String) : Option Format :=
  (Format.ofName? name).filter fun f => e.isSince f.since

/-- The members that another member needs, each of them once. -/
def neededNames (v : Json) : Except Problem (List String) := do
  if !isUnique (← Operand.items v) then throw (.violation ⟨[], .repeatedItems v⟩)
  Operand.names v

/-- A keyword without schemas in it. -/
def simpleKeyword (o : Origin) (e : Edition) (siblings : List (String × Json)) (key : String) (v : Json) :
    Except Problem (Option Keyword) :=
  let since (first : Edition) (k : Except Problem Keyword) : Except Problem (Option Keyword) :=
    if e.isSince first then k.map some else .ok none
  let always := since .draft4
  let limit (k : Nat → Keyword) : Except Problem (Option Keyword) := always ((Operand.limit e v).map k)
  let number (k : Json.Number → Keyword) : Except Problem Keyword := (Operand.number v).map k
  match key with
  | "type" => always ((Operand.kinds v).map (if e = .draft4 then .kindsAsWritten else .kinds))
  | "enum" => always ((Operand.items v).map .listed)
  | "const" => since .draft6 (.ok (.constant v))
  | "minimum" =>
    always (number (if e = .draft4 ∧ isFlagSet "exclusiveMinimum" siblings then .moreThan else .minimum))
  | "maximum" =>
    always (number (if e = .draft4 ∧ isFlagSet "exclusiveMaximum" siblings then .lessThan else .maximum))
  | "exclusiveMinimum" => since .draft6 (number .moreThan)
  | "exclusiveMaximum" => since .draft6 (number .lessThan)
  | "multipleOf" => always (number fun n => .multipleOf n.toFloat)
  | "minLength" => limit .minLength
  | "maxLength" => limit .maxLength
  | "minItems" => limit .minItems
  | "maxItems" => limit .maxItems
  | "minProperties" => limit .minMembers
  | "maxProperties" => limit .maxMembers
  | "uniqueItems" => do return if ← Operand.flag v then some .unique else none
  | "required" => always ((Operand.names v).map .required)
  | "dependentRequired" =>
    since .of2019 do
      return .requiredWith (← (← Operand.members v).mapM fun (name, names) => return (name, ← neededNames names))
  | "pattern" => do return some (.pattern (← Operand.text v) (← readPattern v (← Operand.text v)))
  | "format" => do
    if !o.assertsFormats then return none
    return (formatOf? e (← Operand.text v)).map .format
  | "contentMediaType" => if e = .draft6 ∨ e = .draft7 then contentKeyword siblings key v else .ok none
  | "contentEncoding" => if e = .draft6 ∨ e = .draft7 then contentKeyword siblings key v else .ok none
  | _ => .ok none

/-! ## Keywords with schemas in them -/

/-- The schemas of an array. -/
def readItems (read : ReadPart) (v : Json) : Reading (List Schema) := do (← Operand.items v).mapM read

/-- The schemas of an object, with their names. -/
def readMembers (read : ReadPart) (v : Json) : Reading (List (String × Schema)) := do
  (← Operand.members v).mapM fun (name, s) => return (name, ← read s)

/-- The schemas of an object, whose names are patterns. -/
def readPatterns (read : ReadPart) (v : Json) : Reading (List (Pattern.Search × Schema)) := do
  (← Operand.members v).mapM fun (source, s) => do
    let p ← readPattern s source
    return (p, ← read s)

/-- The schema of a sibling; one that allows everything if there is no such sibling. -/
def readSibling (read : ReadPart) (siblings : List (String × Json)) (key : String) : Reading Schema :=
  match Json.lookup key siblings with
  | some v => read v
  | none => return .anything

/-- Whether reading the keyword `additionalProperties` deals with the keywords for members too. -/
def restrictsOthers (siblings : List (String × Json)) : Bool :=
  match Json.lookup "additionalProperties" siblings with
  | some (.bool false) => true
  | some (.object _) => true
  | _ => false

/-- What the sibling with a key says about members, if there is one. -/
def readMemberSibling {α : Type} (read : Json → Reading (List α)) (siblings : List (String × Json)) (key : String) :
    Reading (List α) :=
  match Json.lookup key siblings with
  | none => return []
  | some (.object members) => read (.object members)
  | some _ => throw .unexpectedKind

/-- `additionalProperties`, which takes over what its siblings say about members. -/
def readOthers (read : ReadPart) (siblings : List (String × Json)) (v : Json) : Reading (Option Keyword) := do
  let matching ← readMemberSibling (readPatterns read) siblings "patternProperties"
  if v.same (.bool true) then return none
  let named ← readMemberSibling (readMembers read) siblings "properties"
  if v.same (.bool false) then
    let isAlone := (Json.lookup "properties" siblings).isNone && (Json.lookup "patternProperties" siblings).isNone
    return some (if isAlone then .noMembers else .closed named matching)
  return some (.members named matching (← read v))

/-- How many elements have schemas of their own. -/
def firstCount (siblings : List (String × Json)) : Nat :=
  (itemsOf ((Json.lookup "prefixItems" siblings).getD .null)).length

/-- `items`, which may be one schema or, in older editions, one for each of the first elements. -/
def readElements (read : ReadPart) (siblings : List (String × Json)) (v : Json) : Reading (Option Keyword) := do
  match v with
  | .array _ => return some (.firstItems (← readItems read v))
  | .bool true => return none
  | .bool false => return some (.itemsFrom (firstCount siblings) (← read v))
  | .object _ => return some (.itemsFrom (firstCount siblings) (← read v))
  | v => throw (Operand.misfit v [.array, .boolean, .object])

/-- `additionalItems`, which counts where `items` lists schemas or allows no elements. -/
def readOtherElements (read : ReadPart) (siblings : List (String × Json)) (v : Json) :
    Reading (Option Keyword) := do
  match Json.lookup "items" siblings, v with
  | some (.array items), .bool false => return some (.noItemsFrom items.length)
  | some (.array items), .object _ => return some (.itemsFrom items.length (← read v))
  | some (.array _), _ => return none
  | some (.bool false), _ => return some (.noItemsFrom 0)
  | some (.bool true), _ => return none
  | some (.object _), _ => return none
  | none, _ => return none
  | some _, v => throw (Operand.misfit v [.array, .boolean, .object])

def readContains (e : Edition) (read : ReadPart) (siblings : List (String × Json)) (v : Json) :
    Reading (Option Keyword) := do
  let count (key : String) : Except Problem (Option Nat) :=
    match Json.lookup key siblings with
    | some v => if e.isSince .of2019 then (Operand.count v).map some else .ok none
    | none => .ok none
  let least ← count "minContains"
  let most ← count "maxContains"
  return some (.contains (least.getD 1) most (← read v))

/-- `dependencies`: names that have to be there too, or a schema. -/
def readDependencies (read : ReadPart) (v : Json) : Reading (Option Keyword) := do
  let schemas ← (← Operand.members v).mapM fun (name, s) => do
    match s with
    | .array _ => return (name, Schema.all [.required (← Operand.names s)])
    | _ => return (name, ← read s)
  return some (.dependent schemas)

/-! ## References -/

/-- A reference that leads to a site. `readSite` reads what is there. -/
def readReference (readSite : Site → Reading Schema) (s target : Site) (reference : List Char) :
    Reading (Option Keyword) := do
  let identifier ← Registry.beside s.base reference
  if reference = ['#'] || (← get).contains identifier then return some (.follow target)
  modify (identifier :: ·)
  if Layout.textMember? "$ref" target.contents = some reference then return none
  return some (.reference (← readSite target))

/-- Whether a keyword is a reference. -/
def isReference (e : Edition) (key : String) : Bool :=
  key = "$ref" || (key = "$dynamicRef" && e = .of2020) || (key = "$recursiveRef" && e = .of2019)

/-- The site to which a reference leads. -/
def target (o : Origin) (s : Site) (key : String) (reference : List Char) : Except Problem Site := do
  if key = "$recursiveRef" then o.registry.lookupStart s
  else
    let _ ← Registry.beside s.base reference
    o.registry.lookup s reference

/-! ## Marks -/

/-- The marks of the schemas inside of a keyword. -/
def readBranches (read : ReadPart) (marks : Json → Reading (List Mark)) (v : Json) : Reading (List Mark) :=
  (itemsOf v).mapM fun w => return .branch (← read w) (← marks w)

/-- What a keyword marks. -/
def readMark (o : Origin) (s : Site) (read : ReadPart) (marks : Json → Reading (List Mark))
    (siblings : List (String × Json)) (key : String) (v : Json) : Reading (List Mark) := do
  match key with
  | "properties" => return [.named (← readMembers read v)]
  | "patternProperties" => return [.matching ((← readPatterns read v).map Prod.fst)]
  | "additionalProperties" => return [.rightMembers (← read v)]
  | "unevaluatedProperties" => return [.rightMembers (← read v)]
  | "dependentSchemas" => (membersOf v).mapM fun (name, w) => return .withMember name (← marks w)
  | "if" =>
    let sibling (key : String) : Reading (List Mark) :=
      match Json.lookup key siblings with
      | some w => marks w
      | none => return []
    let test ← read v
    return [.conditional test ((← marks v) ++ (← sibling "then")) (← sibling "else")]
  | "prefixItems" => return if s.edition = .of2020 then [.firstItems (itemsOf v).length] else []
  | "items" =>
    match v with
    | .array items =>
      let isOpen := (Json.lookup "additionalItems" siblings).isSome
      return [if isOpen then .allItems else .firstItems items.length]
    | _ => return [.allItems]
  | "contains" => return [.rightItems (← read v)]
  | "unevaluatedItems" => return [.rightItems (← read v)]
  | "allOf" => readBranches read marks v
  | "anyOf" => readBranches read marks v
  | "oneOf" => readBranches read marks v
  | _ =>
    match v with
    | .string reference =>
      if !isReference s.edition key then return []
      return [.follow { (← target o s key reference.toList) with scopes := s.scopes }]
    | _ => return []

/-- What the schema at a site marks. Its parts are flatter, which bounds the fuel. -/
def readMarks (o : Origin) (readSite : Site → Reading Schema) : Nat → Site → Reading (List Mark)
  | 0, _ => return []
  | fuel + 1, s => do
    let members := membersOf s.contents
    let read : ReadPart := fun v => do readSite (← s.enter v)
    let marks : Json → Reading (List Mark) := fun v => do readMarks o readSite fuel (← s.enter v)
    let all ← members.mapM fun (key, v) => readMark o s read marks members key v
    return all.flatten

/-! ## Schemas -/

/-- A keyword of the schema at a site. -/
def readKeyword (o : Origin) (s : Site) (readSite : Site → Reading Schema) (siblings : List (String × Json))
    (key : String) (v : Json) : Reading (Option Keyword) := do
  let e := s.edition
  let read : ReadPart := fun v => do readSite (← s.enter v)
  if isReference e key then
    let reference := (← Operand.text v).toList
    return ← readReference readSite s (← target o s key reference) reference
  if s.limited && e.isSince .of2019 then return none
  match key with
  | "properties" =>
    if restrictsOthers siblings then return none
    return some (.named (← readMembers read v))
  | "patternProperties" =>
    if restrictsOthers siblings then return none
    return some (.matching (← readPatterns read v))
  | "additionalProperties" => readOthers read siblings v
  | "propertyNames" =>
    if !e.isSince .draft6 then return none
    match v with
    | .bool false => return some (.conditional (.all [.kinds [.object], .minMembers 1]) .nothing .anything)
    | .object _ => return some (.names (← read v))
    | _ => return none
  | "items" => readElements read siblings v
  | "prefixItems" => if e = .of2020 then return some (.firstItems (← readItems read v)) else return none
  | "additionalItems" => readOtherElements read siblings v
  | "contains" => if e.isSince .draft6 then readContains e read siblings v else return none
  | "allOf" => return some (.allOf (← readItems read v))
  | "anyOf" => return some (.anyOf (← readItems read v))
  | "oneOf" => return some (.oneOf (← readItems read v))
  | "not" => return some (.not v (← read v))
  | "if" =>
    let isUsed := (Json.lookup "then" siblings).isSome || (Json.lookup "else" siblings).isSome
    if !e.isSince .draft7 || !isUsed then return none
    let test ← read v
    let yes ← readSibling read siblings "then"
    return some (.conditional test yes (← readSibling read siblings "else"))
  | "dependentSchemas" =>
    if e.isSince .of2019 then return some (.dependent (← readMembers read v)) else return none
  | "dependencies" => readDependencies read v
  | "unevaluatedProperties" =>
    if !e.isSince .of2019 then return none
    let marks ← readMarks o readSite (s.contents.depth + 1) s
    return some (.otherMembers marks (← read v))
  | "unevaluatedItems" =>
    if !e.isSince .of2019 then return none
    let marks ← readMarks o readSite (s.contents.depth + 1) s
    return some (.otherItems marks (← read v))
  | _ => simpleKeyword o e siblings key v

/-- The keywords that count: in older editions a reference hides all that stands beside it. -/
def keywordsOf (e : Edition) (members : List (String × Json)) : List (String × Json) :=
  match Json.lookup "$ref" members with
  | some reference => if e.isSince .of2019 then members else [("$ref", reference)]
  | none => members

/-- The schema at a site. Either its parts are flatter or a reference is followed for the first time, which
bounds the fuel. -/
def readSite (o : Origin) : Nat → Site → Reading Schema
  | 0, _ => return .anything
  | fuel + 1, s => do
    match s.contents with
    | .bool true => return .anything
    | .bool false => return .nothing
    | .object members =>
      let keywords ← (keywordsOf s.edition members).mapM fun (key, v) =>
        readKeyword o s (readSite o fuel) members key v
      return .all (keywords.filterMap id)
    | v => throw (Operand.misfit v [.boolean, .object])

end Reader

/-! ## Reading from a registry -/

namespace Origin

/-- No reading takes more steps down than this. -/
def fuel (o : Origin) : Nat := (o.registry.size + 1) * (o.registry.size + 1)

/-- The schema at a site. -/
def read (o : Origin) (s : Site) : Except Problem Schema := do
  let (schema, _) ← (Reader.readSite o o.fuel s).run []
  return schema

/-- What the schema at a site marks. -/
def readMarks (o : Origin) (s : Site) : Except Problem (List Mark) := do
  let (marks, _) ← (Reader.readMarks o (Reader.readSite o o.fuel) (s.contents.depth + 1) s).run []
  return marks

/-- What the schemas at sites say, up to a number of sites in a row. A site that cannot be read says
nothing. -/
def follow (o : Origin) : Nat → Follow
  | 0 => .nowhere
  | fuel + 1 =>
    { violations := fun site v path =>
        match o.read site with
        | .ok s => Schema.violations (o.follow fuel) s v path
        | .error _ => []
      marked := fun site v =>
        match o.readMarks site with
        | .ok marks => markedByAll (o.follow fuel) marks v
        | .error _ => [] }

/-- What is wrong with a value by a schema. On each of its levels every place is entered at most once. -/
def violations (o : Origin) (s : Schema) (v : Json) : List Violation :=
  Schema.violations (o.follow ((v.depth + 1) * (o.registry.size + 1))) s v []

end Origin

end CatalogGate.Schema
