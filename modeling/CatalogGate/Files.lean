-- Reading files by their paths, and why that can fail.
namespace CatalogGate.Files

inductive Fault where
  | missing
  | isFolder
  /-- The path goes on behind a file. -/
  | notFolder
  | nameTooLong
  /-- The path holds the character that ends paths. -/
  | endInPath
  | notText
  | other (text : String)
deriving Repr, DecidableEq

def Fault.message : Fault → String
  | missing => "No such file or directory (os error 2)"
  | isFolder => "Is a directory (os error 21)"
  | notFolder => "Not a directory (os error 20)"
  | nameTooLong => "File name too long (os error 36)"
  | endInPath => "file name contained an unexpected NUL byte"
  | notText => "stream did not contain valid UTF-8"
  | other text => text

/-- A way to read files. -/
abbrev Reader := String → Except Fault ByteArray

/-! ## Trees of files -/

/-- Files and folders below one folder, by the names on the way to them. Folders on the way to a file need
not be listed. -/
structure Tree where
  files : List (List String × ByteArray)
  folders : List (List String)

namespace Tree

/-- The bytes of a file. The last one with a path counts. -/
def file? (t : Tree) (path : List String) : Option ByteArray :=
  (t.files.reverse.find? (·.1 == path)).map Prod.snd

def isFolder (t : Tree) (path : List String) : Bool :=
  path.isEmpty || t.folders.any path.isPrefixOf
    || t.files.any fun file => path.isPrefixOf file.1 && path.length < file.1.length

/-- Follows the names of a path from a place. -/
def walk (t : Tree) (here : List String) : List String → Except Fault (List String)
  | [] => .ok here
  | name :: rest =>
    if !t.isFolder here then .error .notFolder
    else if name == "" || name == "." then t.walk here rest
    else if name == ".." then t.walk here.dropLast rest
    else if 255 < name.utf8ByteSize then .error .nameTooLong
    else
      let next := here ++ [name]
      if t.isFolder next || (t.file? next).isSome then t.walk next rest else .error .missing

/-- The names between the slashes of a path. -/
def names (path : String) : List String := (path.toList.splitOn '/').map String.ofList

/-- The greatest size of a path in bytes. -/
def maxPathBytes : Nat := 4095

/-- Reads by paths from the folder. What lies outside of it is not there. -/
def read (t : Tree) : Reader := fun path =>
  if path.contains '\x00' then .error .endInPath
  else if maxPathBytes < path.utf8ByteSize then .error .nameTooLong
  else if path.isEmpty || path.startsWith "/" then .error .missing
  else do
    let place ← t.walk [] (names path)
    match t.file? place with
    | some bytes => return bytes
    | none => throw .isFolder

end Tree

end CatalogGate.Files
