-- Merge keys: the entries of the mapping under `<<` become entries of the mapping around it, unless it
-- has their keys already.
import CatalogGate.Yaml.Error

namespace CatalogGate.Yaml.Node

def mergeKey : Node := .string "<<"

mutual

/-- How many levels of collections and tags a value has. -/
def depth : Node → Nat
  | sequence items => depthOfItems items + 1
  | mapping entries => depthOfEntries entries + 1
  | tagged _ value => depth value + 1
  | _ => 0

def depthOfItems : List Node → Nat
  | [] => 0
  | v :: rest => max (depth v) (depthOfItems rest)

def depthOfEntries : List (Node × Node) → Nat
  | [] => 0
  | (k, v) :: rest => max (max (depth k) (depth v)) (depthOfEntries rest)

end

/-- The entries that a value of `<<` adds. -/
def entriesToMerge : Node → Except MergeProblem (List (Node × Node))
  | mapping entries => .ok entries
  | sequence items => do
    let parts ← items.mapM fun
      | mapping entries => .ok entries
      | sequence _ => .error .sequenceElement
      | tagged _ _ => .error .tagged
      | _ => .error .scalarElement
    return parts.flatten
  | tagged _ _ => .error .tagged
  | _ => .error .scalar

/-- Applies the merge key of one mapping. -/
def mergeEntries (entries : List (Node × Node)) : Except MergeProblem (List (Node × Node)) :=
  match takeOut mergeKey entries with
  | none => .ok entries
  | some (value, rest) => do return (← entriesToMerge value).foldl addNew rest

/-- Applies merge keys from the outside in, the last value of a collection first. -/
def mergeFrom : Nat → Node → Except MergeProblem Node
  | 0, value => .ok value
  | fuel + 1, sequence items => do
    let merged ← items.reverse.mapM (mergeFrom fuel)
    return sequence merged.reverse
  | fuel + 1, mapping entries => do
    let entries ← mergeEntries entries
    let merged ← entries.reverse.mapM fun (k, v) => do return (k, ← mergeFrom fuel v)
    return mapping merged.reverse
  | fuel + 1, tagged tag value => do return tagged tag (← mergeFrom fuel value)
  | _ + 1, value => .ok value

/-- A value with all its merge keys applied. Merging never makes a value deeper. -/
def merged (value : Node) : Except MergeProblem Node := mergeFrom (value.depth + 1) value

end CatalogGate.Yaml.Node
