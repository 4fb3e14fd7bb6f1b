import ShootPlan.Yaml.Token
/-!
The nodes of a YAML document. An alias and the node that it stands for share a number.
-/
namespace ShootPlan.Yaml

structure Properties where
  tag : Option Octets := none
  /-- The number of its anchor. -/
  mark : Option Nat := none
  deriving DecidableEq, Repr

inductive Node where
  | alias (mark : Nat)
  | scalar (props : Properties) (style : Style) (text : String)
  | sequence (props : Properties) (items : List Node)
  | mapping (props : Properties) (entries : List (Node × Node))
  deriving Inhabited, Repr

namespace Node

/-- The node of nothing. -/
def empty : Node := .scalar {} .plain ""

/-- The node itself or the marked one that it is an alias of; the first with a number has it. -/
def target (marks : List (Nat × Node)) : Node → Node
  | .alias mark => (marks.lookup mark).getD (.alias mark)
  | node => node

mutual

/-- The marked nodes in a node with their numbers, in the order in which they begin. -/
def marked : Node → List (Nat × Node)
  | .alias _ => []
  | .scalar props style text => (props.mark.map (·, .scalar props style text)).toList
  | .sequence props items =>
    (props.mark.map (·, .sequence props items)).toList ++ markedItems items
  | .mapping props entries =>
    (props.mark.map (·, .mapping props entries)).toList ++ markedEntries entries

def markedItems : List Node → List (Nat × Node)
  | [] => []
  | item :: rest => item.marked ++ markedItems rest

def markedEntries : List (Node × Node) → List (Nat × Node)
  | [] => []
  | (key, value) :: rest => key.marked ++ value.marked ++ markedEntries rest

end

mutual

/-- How many scalars, aliases and ends of collections the node is made of. -/
def weight : Node → Nat
  | .alias _ => 1
  | .scalar .. => 1
  | .sequence _ items => 2 + weightOfItems items
  | .mapping _ entries => 2 + weightOfEntries entries

def weightOfItems : List Node → Nat
  | [] => 0
  | item :: rest => item.weight + weightOfItems rest

def weightOfEntries : List (Node × Node) → Nat
  | [] => 0
  | (key, value) :: rest => key.weight + value.weight + weightOfEntries rest

end

end Node

end ShootPlan.Yaml
