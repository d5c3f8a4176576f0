import TimeSeries.NameMap

set_option autoImplicit false

/-!
# Provenance

How a value was derived, as a tree: leaves name fetched series, literals and supplied tables; the
other nodes name an operator or a function over its operands, in order.
-/
namespace TimeSeries

/-- What a source tells about a series. -/
structure SourceInfo where
  source : String
  description : Option String
  attributes : NameMap String

/-- A leaf has a name, and what its source told when it was fetched; a node has its operands. -/
inductive Provenance where
  | leaf (id : String) (info : Option SourceInfo) (operation : String)
  | node (operation : String) (operands : List Provenance)

namespace Provenance

def fetched (id : String) (info : SourceInfo) : Provenance := .leaf id (some info) "fetch"

def operation : Provenance → String
  | leaf _ _ operation => operation
  | node operation _ => operation

def id? : Provenance → Option String
  | leaf id _ _ => some id
  | node _ _ => none

def info? : Provenance → Option SourceInfo
  | leaf _ info _ => info
  | node _ _ => none

def operands : Provenance → List Provenance
  | leaf _ _ _ => []
  | node _ operands => operands

def isLeaf (tree : Provenance) : Bool := tree.operands.isEmpty

mutual

def nodeCount : Provenance → Nat
  | leaf _ _ _ => 1
  | node _ operands => 1 + nodeCounts operands

def nodeCounts : List Provenance → Nat
  | [] => 0
  | tree :: rest => tree.nodeCount + nodeCounts rest

end

mutual

def operationCount : Provenance → Nat
  | leaf _ _ _ => 0
  | node _ [] => 0
  | node _ (first :: rest) => 1 + (first.operationCount + operationCounts rest)

def operationCounts : List Provenance → Nat
  | [] => 0
  | tree :: rest => tree.operationCount + operationCounts rest

end

mutual

/-- The number of nodes on the longest way down. -/
def depth : Provenance → Nat
  | leaf _ _ _ => 1
  | node _ operands => 1 + depths operands

def depths : List Provenance → Nat
  | [] => 0
  | tree :: rest => max tree.depth (depths rest)

end

mutual

def leafIds : Provenance → List String
  | leaf id _ _ => [id]
  | node _ operands => leafIdsOf operands

def leafIdsOf : List Provenance → List String
  | [] => []
  | tree :: rest => tree.leafIds ++ leafIdsOf rest

end

mutual

/-- Every node with its distance from the root, which is at distance `level`; parents come first. -/
def preorder (level : Nat) : Provenance → List (Nat × Provenance)
  | leaf id info operation => [(level, leaf id info operation)]
  | node operation operands =>
    (level, node operation operands) :: preorderOf (level + 1) operands

def preorderOf (level : Nat) : List Provenance → List (Nat × Provenance)
  | [] => []
  | tree :: rest => tree.preorder level ++ preorderOf level rest

end

/-- The line of a node: its operation, then its name and its source where it has them. -/
def line (level : Nat) (tree : Provenance) : String :=
  let indent := String.ofList (List.replicate (2 * level) ' ')
  let name := (tree.id?.map (" " ++ ·)).getD ""
  let source := (tree.info?.map fun info => s!" [{info.source}]").getD ""
  indent ++ tree.operation ++ name ++ source ++ "\n"

def display (tree : Provenance) : String :=
  String.join ((tree.preorder 0).map fun (level, tree) => tree.line level)

end Provenance

end TimeSeries
