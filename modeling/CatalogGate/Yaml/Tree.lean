-- The first document of a YAML text as a tree. Where the text cannot be read any further the tree has a
-- broken leaf, so that whatever is wrong with the values before it is still found first.
import CatalogGate.Yaml.Error
import CatalogGate.Yaml.Event

namespace CatalogGate.Yaml

inductive Tree where
  | scalar (tag : Option String) (text : String) (style : Style) (mark : Mark)
  | sequence (tag : Option String) (items : List Tree) (mark : Mark)
  | mapping (tag : Option String) (entries : List (Tree × Tree)) (mark : Mark)
  /-- The node whose anchor got this number. -/
  | aliasOf (number : Nat)
  | broken (error : Error)

instance : Inhabited Tree := ⟨.broken .severalDocuments⟩

/-- An anchored node: the number of its anchor, how many anchored nodes start before it, and the node. -/
structure Anchored where
  number : Nat
  order : Nat
  node : Tree

/-- Where the building of the tree stands. -/
structure Growth where
  events : List Event
  /-- Why the events end early. -/
  stop : Option Error
  /-- The number that each name of an anchor has now. -/
  numbers : List (String × Nat)
  anchored : List Anchored
  /-- How many anchored nodes have started. -/
  started : Nat
  /-- How many events the tree has used. -/
  used : Nat

namespace Growth

/-- An anchor gets the count of different names before it as its number, so a name that is used again
gets a number that the next new name gets too. -/
def name (g : Growth) (name : String) : Nat × Nat × Growth :=
  let number := g.numbers.length
  let numbers :=
    if g.numbers.any (·.1 == name) then
      g.numbers.map fun (n, k) => if n == name then (n, number) else (n, k)
    else (name, number) :: g.numbers
  (number, g.started, { g with numbers, started := g.started + 1 })

def keep (g : Growth) (slot : Option (Nat × Nat)) (node : Tree) : Growth :=
  match slot with
  | some (number, order) => { g with anchored := ⟨number, order, node⟩ :: g.anchored }
  | none => g

def slotFor (g : Growth) (anchor : Option String) : Option (Nat × Nat) × Growth :=
  match anchor with
  | some a =>
    let (number, order, g) := g.name a
    (some (number, order), g)
  | none => (none, g)

def take (g : Growth) : Growth := { g with events := g.events.drop 1, used := g.used + 1 }

/-- The leaf that stands for everything that cannot be read any more. -/
def hole (g : Growth) : Tree := .broken (g.stop.getD .severalDocuments)

mutual

/-- The node that starts with the next event. Every call takes an event, which bounds the fuel. -/
def readTree : Nat → Growth → Tree × Growth
  | 0, g => (g.hole, g)
  | fuel + 1, g =>
    match g.events with
    | [] => (g.hole, g)
    | event :: _ =>
      match event.kind with
      | .scalar properties text style =>
        let (slot, g) := g.take.slotFor properties.anchor
        let node := Tree.scalar properties.tag text style event.mark
        (node, g.keep slot node)
      | .aliasOf name =>
        match g.numbers.find? (·.1 == name) with
        | some (_, number) => (.aliasOf number, g.take)
        | none =>
          let g := { g with events := [], stop := some (.unknownAnchor event.mark) }
          (g.hole, g)
      | .sequenceStart properties =>
        let (slot, g) := g.take.slotFor properties.anchor
        let (items, g) := readItems fuel [] g
        let node := Tree.sequence properties.tag items event.mark
        (node, g.keep slot node)
      | .mappingStart properties =>
        let (slot, g) := g.take.slotFor properties.anchor
        let (entries, g) := readEntries fuel [] g
        let node := Tree.mapping properties.tag entries event.mark
        (node, g.keep slot node)
      | _ => (g.hole, g)

/-- The items up to the end of a sequence, behind those read before, which come newest first. -/
def readItems : Nat → List Tree → Growth → List Tree × Growth
  | 0, items, g => (items.reverse, g)
  | fuel + 1, items, g =>
    match g.events with
    | [] => ((g.hole :: items).reverse, g)
    | event :: _ =>
      match event.kind with
      | .sequenceEnd => (items.reverse, g.take)
      | _ =>
        let (item, g) := readTree fuel g
        readItems fuel (item :: items) g

/-- The entries up to the end of a mapping, behind those read before, which come newest first. -/
def readEntries : Nat → List (Tree × Tree) → Growth → List (Tree × Tree) × Growth
  | 0, entries, g => (entries.reverse, g)
  | fuel + 1, entries, g =>
    match g.events with
    | [] => (((g.hole, g.hole) :: entries).reverse, g)
    | event :: _ =>
      match event.kind with
      | .mappingEnd => (entries.reverse, g.take)
      | _ =>
        let (key, g) := readTree fuel g
        let (value, g) := readTree fuel g
        readEntries fuel ((key, value) :: entries) g

end

end Growth

/-- The first document of a text and what follows it. -/
structure Content where
  root : Tree
  anchored : List Anchored
  /-- How often aliases may be followed. -/
  aliasLimit : Nat
  /-- What is wrong with the text behind the document. -/
  ending : Option Error

namespace Content

def isDocumentStart (e : Event) : Bool := e.kind = .documentStart

/-- What the events behind the first document say. -/
def endingOf (stop : Option Error) : List Event → Option Error
  | [] => stop
  | event :: rest =>
    if event.kind = .documentEnd then
      match rest with
      | next :: _ => if next.kind = .streamEnd then none else some .severalDocuments
      | [] => if stop.isSome then some .severalDocuments else none
    else if event.kind = .streamEnd then none
    else some .severalDocuments

/-- A text without any document is an empty scalar. -/
def ofEvents (events : List Event) (stop : Option Error) : Content :=
  match events.dropWhile isDocumentStart with
  | [⟨.streamEnd, mark⟩] => ⟨.scalar none "" .plain mark, [], 100, none⟩
  | events =>
    let g : Growth := ⟨events, stop, [], [], 0, 0⟩
    let (root, g) := g.readTree (2 * events.length + 2)
    ⟨root, g.anchored, 100 * g.used, endingOf g.stop g.events⟩

/-- A byte order mark in front does not belong to the text, but has its place among the bytes. -/
def ofText (text : List Char) : Content :=
  match firstUnprintable? 0 text with
  | some offset => ⟨.broken (.unprintable offset), [], 0, some (.unprintable offset)⟩
  | none =>
    let (events, fault) := events (if text.head? = some '\ufeff' then text.drop 1 else text)
    ofEvents events (fault.map .fault)

/-- The node behind the number of an anchor: the last one, in the order of the text, that got it. -/
def find? (c : Content) (number : Nat) : Option Tree :=
  let step (best : Option Anchored) (a : Anchored) : Option Anchored :=
    if a.number ≠ number then best
    else
      match best with
      | some b => if b.order < a.order then some a else some b
      | none => some a
  (c.anchored.foldl step none).map Anchored.node

/-- Follows an alias to its node. The state counts how often that was done. -/
def follow (c : Content) (tree : Tree) : StateT Nat (Except Error) Tree := do
  match tree with
  | .aliasOf number =>
    let jumps ← get
    set (jumps + 1)
    if c.aliasLimit < jumps + 1 then throw .tooManyAliases
    return (c.find? number).getD tree
  | _ => return tree

end Content

/-! ## Paths in messages -/

/-- The place of a value in a document. The whole document has no path. -/
abbrev Path := Option String

namespace Path

def root : Path := none

def text (p : Path) : String := p.getD "."

def key (parent : Path) (name : String) : Path :=
  match parent with
  | none => some name
  | some p => some (p ++ "." ++ name)

def item (parent : Path) (index : Nat) : Path := some s!"{parent.text}[{index}]"

/-- Below an entry whose key is not a scalar. -/
def entry (parent : Path) : Tree → Path
  | .scalar _ text _ _ => parent.key text
  | _ => parent.key "?"

end Path

/-- How deep collections may be nested. -/
def depthLimit : Nat := 128

end CatalogGate.Yaml
