-- Programs that find an expression in a text by trying one way after the other. Jumps are counted from the
-- instruction that makes them.
import CatalogGate.Pattern.Expression.Basic
import CatalogGate.Unicode.Property

namespace CatalogGate.Pattern

inductive Instruction where
  | one (s : CharSet)
  | boundary (b : Boundary)
  /-- Goes one way and keeps the other one for later. -/
  | split (first second : Int)
  | jump (distance : Int)
  /-- Keeps the place. -/
  | save (slot : Nat)
  | restore (slot : Nat)
  | reset (slot : Nat)
  /-- Goes on if the number in a slot allows it, which grows by one, and leaves otherwise. -/
  | count (least : Nat) (most : Option Nat) (longFirst : Bool) (exit : Int) (slot : Nat)
  /-- As before, but every turn has to move on. -/
  | countMoving (least : Nat) (longFirst : Bool) (exit : Int) (slot last : Nat)
  | back (n : Nat)
  /-- What must not be found ahead or behind has been found. -/
  | refute
  /-- The text between the places in a slot and the next one. -/
  | same (slot : Nat)
  | isSaved (slot : Nat)
  | beginAtomic
  | endAtomic
  | searchStart
  /-- The so many instructions behind this one are plain. Their first way to the end counts. -/
  | straight (length : Nat)
  | found
deriving Repr, DecidableEq

abbrev Code := List Instruction

namespace Code

/-- Pieces of code of which one is run. -/
def choices : List Code → Code
  | [] => []
  | [code] => code
  | code :: rest =>
    let others := choices rest
    .split 1 (code.length + 2) :: code ++ .jump (others.length + 1) :: others

/-- One way or the other first. -/
def splitFirst (firstIsFirst : Bool) (first second : Int) : Instruction :=
  if firstIsFirst then .split first second else .split second first

/-- Code that is run up to `n` times. -/
def upTo (longFirst : Bool) (code : Code) : Nat → Code
  | 0 => []
  | n + 1 =>
    let further := upTo longFirst code n
    splitFirst longFirst 1 (code.length + further.length + 1) :: code ++ further

/-- Code that is run any number of times, and moves on each time. -/
def many (longFirst : Bool) (code : Code) : Code :=
  splitFirst longFirst 1 (code.length + 2) :: code ++ [.jump (-(code.length + 1))]

/-- Code that is run once or more often. -/
def several (longFirst : Bool) (code : Code) : Code := code ++ [splitFirst longFirst (-code.length) 1]

def times (n : Nat) (code : Code) : Code := (List.replicate n code).flatten

/-- Code that is repeated. Where it may stand still, it is run once before it is asked whether to repeat
it. -/
def repeated (least : Nat) (most : Option Nat) (longFirst moves : Bool) (code : Code) : Code :=
  match most with
  | some most => times least code ++ upTo longFirst code (most - least)
  | none =>
    if 0 < least then times (least - 1) code ++ several longFirst code
    else if moves then many longFirst code
    else
      let once := several longFirst code
      splitFirst longFirst 1 (once.length + 1) :: once

end Code

namespace Expression

/-! ## Code of plain expressions -/

mutual

def plainCode : Expression → Code
  | one s => [.one s]
  | boundary b => [.boundary b]
  | sequence parts => (plainCodes parts).flatten
  | choice parts => Code.choices (plainCodes parts)
  | group _ inner => inner.plainCode
  | repeated least most longFirst inner =>
    Code.repeated least most longFirst (0 < inner.minSize) inner.plainCode
  | _ => []

def plainCodes : List Expression → List Code
  | [] => []
  | e :: rest => e.plainCode :: plainCodes rest

end

/-- Code that goes its first way only. -/
def straightCode (e : Expression) : Option Code := do
  if sizeLimit < e.size then none
  let code := e.plainCode
  let isSplit := fun (i : Instruction) => match i with
    | .split .. => true
    | _ => false
  some (if code.any isSplit then .straight code.length :: code else code)

/-! ## Code of all expressions -/

/-- Code that takes new slots; there is none for what cannot be looked for behind a place. -/
abbrev Coding := StateT Nat Option

def newSlot : Coding Nat := modifyGet fun n => (n, n + 1)

/-- How many parts at the start are plain and of fixed size. -/
def fixedCount (referred : List Nat) (parts : List Expression) : Nat :=
  (parts.takeWhile fun e => e.isFixed && e.isPlain referred).length

/-- How many parts at the end are plain, and of fixed size if more follows. -/
def plainCount (referred : List Nat) (more : Bool) (parts : List Expression) : Nat :=
  (parts.reverse.takeWhile fun e => (!more || e.isFixed) && e.isPlain referred).length

/-- Looks for what a piece of code finds. -/
def lookCode (wanted : Bool) (code : Code) : Coding Code := do
  if wanted then
    let slot ← newSlot
    return .save slot :: code ++ [.restore slot]
  return .split 1 (code.length + 2) :: code ++ [.refute]

/-- Goes back before what is looked for behind a place. -/
def backCode (ahead : Bool) (e : Expression) (code : Code) : Coding Code := do
  if ahead then return code
  if !e.isFixed then failure
  return .back e.minSize :: code

/-- Repeats code of which a turn may be left in several ways. -/
def repeatedCode (least : Nat) (most : Option Nat) (longFirst moves : Bool) (code : Code) : Coding Code := do
  match least, most, moves with
  | 0, some 1, _ => return Code.splitFirst longFirst 1 (code.length + 1) :: code
  | least, none, false =>
    let slot ← newSlot
    let last ← newSlot
    return .reset slot :: .countMoving least longFirst (code.length + 2) slot last
      :: code ++ [.jump (-(code.length + 1))]
  | 0, none, true => return Code.many longFirst code
  | 1, none, true => return Code.several longFirst code
  | least, most, _ =>
    let slot ← newSlot
    return .reset slot :: .count least most longFirst (code.length + 2) slot
      :: code ++ [.jump (-(code.length + 1))]

mutual

/-- The code of an expression behind which more may follow. -/
def code (referred : List Nat) (more : Bool) (e : Expression) : Coding Code := do
  if !more && e.isPlain referred then return (← e.straightCode)
  match e with
  | empty => return []
  | one s => return [.one s]
  | boundary b => return [.boundary b]
  | sequence parts =>
    let first := fixedCount referred parts
    let last := plainCount referred more (parts.drop first)
    let middle ← codes referred true first (parts.length - first - last) parts
    let front ← straightCode (.sequence (parts.take first))
    let back ← straightCode (.sequence (parts.drop (parts.length - last)))
    return front ++ middle.flatten ++ back
  | choice parts => return Code.choices (← codes referred more 0 parts.length parts)
  | group number inner =>
    return .save (2 * number) :: (← inner.code referred more) ++ [.save (2 * number + 1)]
  | look ahead wanted inner => lookCodes referred ahead wanted (inner.code referred false) inner
  | repeated least most longFirst inner =>
    let often := !(least == 0 && most == some 1)
    repeatedCode least most longFirst (0 < inner.minSize) (← inner.code referred (more || often))
  | same number => return [.same (2 * number)]
  | atomic inner => return .beginAtomic :: (← inner.code referred false) ++ [.endAtomic]
  | startHere => return [.save 0]
  | searchStart => return [.searchStart]
  | isFound number => return [.isSaved (2 * number)]
  | conditional test yes no =>
    let test ← test.code referred more
    let yes ← yes.code referred more
    let no ← no.code referred more
    return .beginAtomic :: .split 1 (test.length + yes.length + 3) :: test ++ .endAtomic :: yes
      ++ .jump (no.length + 1) :: no

/-- The codes of the parts from a position on, so many of them. -/
def codes (referred : List Nat) (more : Bool) (first count : Nat) : List Expression → Coding (List Code)
  | [] => return []
  | e :: rest => do
    match first, count with
    | first + 1, count => codes referred more first count rest
    | 0, 0 => return []
    | 0, count + 1 => return (← e.code referred more) :: (← codes referred more 0 count rest)

/-- The code of a look-around, from the code of what is looked for. Alternatives of different sizes are
looked for behind a place one by one. -/
def lookCodes (referred : List Nat) (ahead wanted : Bool) (whole : Coding Code) (e : Expression) : Coding Code := do
  match e with
  | choice parts =>
    if ahead || e.isFixed then lookCode wanted (← backCode ahead e (← whole))
    else
      let looks ← lookEach referred wanted parts
      return if wanted then Code.choices looks else looks.flatten
  | e => lookCode wanted (← backCode ahead e (← whole))

/-- The codes of look-arounds behind a place, one for each expression. -/
def lookEach (referred : List Nat) (wanted : Bool) : List Expression → Coding (List Code)
  | [] => return []
  | e :: rest => do
    let code ← lookCode wanted (← backCode false e (← e.code referred false))
    return code :: (← lookEach referred wanted rest)

end

end Expression

structure Program where
  instructions : Array Instruction
  slots : Nat

namespace Program

/-- The program that finds an expression anywhere in a text. -/
def ofExpression? (e : Expression) (groups : Nat) (referred : List Nat) : Option Program := do
  let (code, slots) ← (e.code referred true).run (2 * groups + 2)
  let search : Code := [.split 3 1, .one (.complement .none), .jump (-2), .save 0]
  let done : Code := [.save 1, .found]
  some ⟨(search ++ code ++ done).toArray, slots⟩

/-! ## Running -/

/-- A way that is left for later. -/
structure Frame where
  position : Nat
  place : Nat
  slots : Array (Option Nat)
  /-- How many ways were left when each of the parts without return was entered. -/
  atomics : List Nat

structure Machine extends Frame where
  /-- The ways that are left, the last one first, and their number. -/
  left : List Frame
  count : Nat

inductive Step where
  | goOn (m : Machine)
  /-- This way does not lead on. -/
  | fail (m : Machine)
  | found

inductive Outcome where
  | found
  | absent
  /-- Too many ways had to be tried. -/
  | gaveUp
deriving Repr, DecidableEq

def holdsAt (text : Array Char) (b : Boundary) (place : Nat) : Bool :=
  b.holds Unicode.Property.word (if place = 0 then none else text[place - 1]?) text[place]?

def jumpFrom (position : Nat) (distance : Int) : Nat := (position + distance).toNat

/-- The place to which the first way through plain code leads, from the ways that are left. No way is tried
twice. -/
def follow (code : Array Instruction) (text : Array Char) (first stop : Nat) :
    Nat → Array Bool → List (Nat × Nat) → Option Nat
  | 0, _, _ => none
  | _, _, [] => none
  | fuel + 1, seen, (position, place) :: left =>
    if position = stop then some place
    else
      let i := place * (stop - first) + (position - first)
      if seen.getD i false then follow code text first stop fuel seen left
      else
        let seen := seen.setIfInBounds i true
        let next := match code[position]? with
          | some (.one s) => if text[place]?.any s.contains then [(position + 1, place + 1)] else []
          | some (.boundary b) => if holdsAt text b place then [(position + 1, place)] else []
          | some (.split a b) => [(jumpFrom position a, place), (jumpFrom position b, place)]
          | some (.jump a) => [(jumpFrom position a, place)]
          | _ => []
        follow code text first stop fuel seen (next ++ left)

/-- The place behind the text between two places if it comes again here. -/
def again? (text : Array Char) (low high place : Nat) : Option Nat :=
  let found := text.extract low high
  if text.extract place (place + found.size) == found then some (place + found.size) else none

/-- One step of a machine. -/
def step (code : Array Instruction) (text : Array Char) (m : Machine) : Step :=
  let next := { m with position := m.position + 1 }
  let goTo (distance : Int) (m : Machine) : Machine := { m with position := jumpFrom m.position distance }
  let keep (distance : Int) (m : Machine) : Machine :=
    { m with
      left := { m.toFrame with position := jumpFrom m.position distance } :: m.left
      count := m.count + 1 }
  let set (slot : Nat) (value : Nat) (m : Machine) : Machine :=
    { m with slots := m.slots.setIfInBounds slot (some value) }
  let slot (i : Nat) : Option Nat := (m.slots[i]?).join
  let given (b : Bool) : Step := if b then .goOn next else .fail m
  let turn (least : Nat) (longFirst : Bool) (exit : Int) (n : Nat) (m : Machine) : Step :=
    if n < least then .goOn (goTo 1 m)
    else if longFirst then .goOn (goTo 1 (keep exit m))
    else .goOn (goTo exit (keep 1 m))
  match code[m.position]? with
  | none => .fail m
  | some .found => .found
  | some (.one s) =>
    if text[m.place]?.any s.contains then .goOn { next with place := m.place + 1 } else .fail m
  | some (.boundary b) => given (holdsAt text b m.place)
  | some (.split first second) => .goOn (goTo first (keep second m))
  | some (.jump distance) => .goOn (goTo distance m)
  | some (.save i) => .goOn (set i m.place next)
  | some (.restore i) => .goOn { next with place := (slot i).getD m.place }
  | some (.reset i) => .goOn (set i 0 next)
  | some (.count least most longFirst exit i) =>
    let n := (slot i).getD 0
    if most = some n then .goOn (goTo exit m) else turn least longFirst exit n (set i (n + 1) m)
  | some (.countMoving least longFirst exit i last) =>
    let n := (slot i).getD 0
    if 0 < n ∧ slot last = some m.place then .fail m
    else
      let m := set i (n + 1) m
      turn least longFirst exit n (if n < least then m else set last m.place m)
  | some (.back n) => if n ≤ m.place then .goOn { next with place := m.place - n } else .fail m
  | some .refute =>
    let kept := (m.left.dropWhile fun frame => frame.position != m.position + 1).drop 1
    .fail { m with left := kept, count := kept.length }
  | some (.same i) =>
    match slot i, slot (i + 1) with
    | some low, some high =>
      match again? text low high m.place with
      | some place => .goOn { next with place }
      | none => .fail m
    | _, _ => .fail m
  | some (.isSaved i) => given (slot i).isSome
  | some .beginAtomic => .goOn { next with atomics := m.count :: m.atomics }
  | some .endAtomic =>
    let kept := min m.count (m.atomics.headD m.count)
    .goOn { next with left := m.left.drop (m.count - kept), count := kept, atomics := m.atomics.drop 1 }
  | some .searchStart => given (m.place = 0)
  | some (.straight length) =>
    let first := m.position + 1
    let size := (text.size + 1) * length
    match follow code text first (first + length) (2 * size + 2) (Array.replicate size false) [(first, m.place)] with
    | some place => .goOn { m with position := first + length, place }
    | none => .fail m

/-- How many ways are tried at most. -/
def wayLimit : Nat := 1000000

/-- How many steps are made at most. -/
def stepLimit : Nat := 1000000000

/-- Runs a machine, which may try so many further ways, for so many steps. -/
def runFor (code : Array Instruction) (text : Array Char) : Nat → Nat → Machine → Outcome
  | 0, _, _ => .gaveUp
  | fuel + 1, ways, m =>
    match step code text m with
    | .found => .found
    | .goOn m => runFor code text fuel ways m
    | .fail m =>
      match m.left, ways with
      | [], _ => .absent
      | _ :: _, 0 => .gaveUp
      | frame :: left, ways + 1 => runFor code text fuel ways ⟨frame, left, m.count - 1⟩

def run (p : Program) (text : List Char) : Outcome :=
  runFor p.instructions text.toArray stepLimit wayLimit ⟨⟨0, 0, Array.replicate p.slots none, []⟩, [], 0⟩

end Program

end CatalogGate.Pattern
