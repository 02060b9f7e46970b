-- What one line of a block-style YAML text starts: items of sequences, a key, and perhaps a block scalar.
import CatalogGate.Text.Blank

namespace CatalogGate.Document

/-- Which kind of entry a mark on a line starts. -/
inductive Mark where
  | key (name : List Char)
  | item
deriving Repr, DecidableEq

/-! ## Quoted keys -/

/-- What stands before the closing quote and what stands behind it. A backslash protects the next
character in double quotes, and two single quotes do not close. -/
def splitAtClosing (quote : Char) (read : List Char) : List Char → Option (List Char × List Char)
  | [] => none
  | [c] =>
    if quote = '"' ∧ c = '\\' then none
    else if c = quote then some (read.reverse, [])
    else none
  | c :: d :: rest =>
    if quote = '"' ∧ c = '\\' then splitAtClosing quote (d :: c :: read) rest
    else if c = quote then
      if quote = '\'' ∧ d = '\'' then splitAtClosing quote (d :: c :: read) rest
      else some (read.reverse, d :: rest)
    else splitAtClosing quote (c :: read) (d :: rest)

/-- Replaces two characters that stand side by side, from left to right. -/
def replacePair (a b : Char) (replacement : Char) : List Char → List Char
  | c :: d :: rest =>
    if c = a ∧ d = b then replacement :: replacePair a b replacement rest
    else c :: replacePair a b replacement (d :: rest)
  | cs => cs

/-- The key between quotes. -/
def unquote (quote : Char) (inner : List Char) : List Char :=
  if quote = '\'' then replacePair '\'' '\'' '\'' inner
  else replacePair '\\' '\\' '\\' (replacePair '\\' '"' '"' inner)

/-- A quoted key and the text behind its colon. -/
def splitQuotedKey (quote : Char) (body : List Char) : Option (List Char × List Char) :=
  match splitAtClosing quote [] body with
  | none => none
  | some (inner, rest) =>
    match Text.trimStart rest with
    | ':' :: value =>
      if value.isEmpty ∨ value.head? = some ' ' then some (unquote quote inner, value) else none
    | _ => none

/-! ## Plain keys -/

/-- What stands before and behind the first colon that a blank follows, or that ends the line. -/
def splitAtColon (read : List Char) : List Char → Option (List Char × List Char)
  | [] => none
  | [c] => if c = ':' then some (read.reverse, []) else none
  | c :: d :: rest =>
    if c = ':' ∧ d = ' ' then some (read.reverse, d :: rest) else splitAtColon (c :: read) (d :: rest)

/-- The text before a comment, which starts with a blank and a number sign. -/
def beforeComment : List Char → List Char
  | c :: d :: rest => if c = ' ' ∧ d = '#' then [] else c :: beforeComment (d :: rest)
  | cs => cs

def holdsComment (cs : List Char) : Bool := beforeComment cs != cs

def splitPlainKey (cs : List Char) : Option (List Char × List Char) :=
  match splitAtColon [] cs with
  | none => none
  | some (key, value) =>
    let key := Text.trimEnd key
    if key.isEmpty || holdsComment key then none else some (key, value)

/-- A key and the text behind its colon. -/
def splitKey (cs : List Char) : Option (List Char × List Char) :=
  match cs with
  | '{' :: _ => none
  | '[' :: _ => none
  | '?' :: ' ' :: _ => none
  | '"' :: body => splitQuotedKey '"' body
  | '\'' :: body => splitQuotedKey '\'' body
  | _ => splitPlainKey cs

/-- Whether the value of a key is a block scalar on the lines below. -/
def opensBlock (value : List Char) : Bool :=
  match Text.trim (beforeComment value) with
  | c :: rest =>
    (c == '|' || c == '>') && rest.all fun d => d == '+' || d == '-' || ('1' ≤ d && d ≤ '9')
  | [] => false

/-! ## Lines -/

/-- The marks of a line with their columns, and the column of a key whose value is a block scalar. -/
def marksFrom : Nat → Nat → List Char → List (Mark × Nat) × Option Nat
  | 0, _, _ => ([], none)
  | fuel + 1, column, cs =>
    match cs with
    | ['-'] => ([(.item, column)], none)
    | '-' :: ' ' :: rest =>
      let content := rest.dropWhile (· = ' ')
      let (marks, block) := marksFrom fuel (column + 2 + (rest.length - content.length)) content
      ((.item, column) :: marks, block)
    | _ =>
      match splitKey cs with
      | some (key, value) => ([(.key key, column)], if opensBlock value then some column else none)
      | none => ([], none)

/-- Whether a line holds neither keys nor items, however it goes on. -/
def isSkipped (content : List Char) : Bool :=
  content.all Text.isSpace || content.head? == some '#' || content.head? == some '%'
    || "---".toList.isPrefixOf content || "...".toList.isPrefixOf content

end CatalogGate.Document
