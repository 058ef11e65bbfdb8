/-!
# YAML values

Scalars stay texts. Whether one stood without quotes is kept, as only then can it be null. A
node may have a label and a tag, and a reference stands for the node with its label.
-/

namespace RowExpr

/-- What a tag says of a node. -/
inductive Yaml.Tag
  | null
  /-- A tag that is no more than a name. -/
  | named (name : String)
  | other
  deriving DecidableEq, Repr, Inhabited

structure Yaml.Properties where
  label : Option Nat := none
  tag : Option Yaml.Tag := none
  deriving DecidableEq, Repr, Inhabited

inductive Yaml
  | reference (label : Nat)
  | scalar (properties : Yaml.Properties) (text : String) (plain : Bool)
  | seq (properties : Yaml.Properties) (items : List Yaml)
  | map (properties : Yaml.Properties) (entries : List (Yaml × Yaml))
  deriving Repr, Inhabited

namespace Yaml

/-- What stands where nothing was written. -/
def blank : Yaml := scalar {} "" true

def properties : Yaml → Properties
  | reference _ => {}
  | scalar p _ _ | seq p _ | map p _ => p

/-- A node under its label, where it has one. -/
def ownLabel (y : Yaml) : List (Nat × Yaml) := (y.properties.label.map (·, y)).toList

mutual

/-- The nodes with a label, in the order in which they begin. -/
def labelled : Yaml → List (Nat × Yaml)
  | reference _ => []
  | scalar p text plain => ownLabel (scalar p text plain)
  | seq p items => ownLabel (seq p items) ++ labelledItems items
  | map p entries => ownLabel (map p entries) ++ labelledEntries entries

def labelledItems : List Yaml → List (Nat × Yaml)
  | [] => []
  | y :: rest => labelled y ++ labelledItems rest

def labelledEntries : List (Yaml × Yaml) → List (Nat × Yaml)
  | [] => []
  | (key, y) :: rest => labelled key ++ labelled y ++ labelledEntries rest

end

/-- A value, and its nodes with a label, the last one first. -/
structure Tree where
  root : Yaml
  labels : List (Nat × Yaml)
  deriving Repr, Inhabited

def Tree.ofRoot (root : Yaml) : Tree := ⟨root, root.labelled.reverse⟩

/-- The node that a node stands for. Where two nodes have a label, it is the later one's. -/
def Tree.resolve (tree : Tree) : Yaml → Yaml
  | reference label => (tree.labels.lookup label).getD (reference label)
  | y => y

end Yaml

end RowExpr
