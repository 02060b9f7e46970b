-- Paths as pointers: every step behind a slash, with tildes and slashes in it escaped.
import CatalogGate.Json.Path
import CatalogGate.Text.Number

namespace CatalogGate.Json.Pointer

def escape (c : Char) : List Char :=
  if c = '~' then ['~', '0'] else if c = '/' then ['~', '1'] else [c]

/-- The pointer of a path. -/
def ofPath (path : Path) : List Char := path.flatMap fun s => '/' :: s.text.toList.flatMap escape

/-! ## Reading -/

/-- The tokens behind the slashes. What stands before the first one does not count. -/
def tokens (pointer : List Char) : List (List Char) :=
  (pointer.foldr (fun c (tokens : List (List Char)) =>
    if c = '/' then [] :: tokens
    else
      match tokens with
      | token :: more => (c :: token) :: more
      | [] => [[c]]) [[]]).drop 1

/-- Replaces a tilde and a mark behind it. -/
def unescapeMark (mark replacement : Char) : List Char → List Char
  | c :: d :: rest =>
    if c = '~' ∧ d = mark then replacement :: unescapeMark mark replacement rest
    else c :: unescapeMark mark replacement (d :: rest)
  | cs => cs

def unescape (token : List Char) : List Char := unescapeMark '0' '~' (unescapeMark '1' '/' token)

/-- The step that a token means at a value: in an array a number is a position, all else is a name. -/
def stepAt (node : Option Json) (token : List Char) : Step :=
  match node, Text.count? token with
  | some (.array _), some position => .index position
  | _, _ => .key (String.ofList token)

/-- The steps that tokens mean from a value on, if there is one. -/
def stepsFrom (node : Option Json) : List (List Char) → Path
  | [] => []
  | token :: rest =>
    let step := stepAt node (unescape token)
    step :: stepsFrom (node.bind (step? step)) rest

/-- The path that a pointer means in a value. -/
def toPath (root : Json) (pointer : List Char) : Path := stepsFrom (some root) (tokens pointer)

/-! ## Laws -/

theorem unescapeMark_cons_ne {mark replacement c : Char} (h : c ≠ '~') (rest : List Char) :
    unescapeMark mark replacement (c :: rest) = c :: unescapeMark mark replacement rest := by
  cases rest with
  | nil => simp [unescapeMark]
  | cons d rest => simp [unescapeMark, h]

end CatalogGate.Json.Pointer
