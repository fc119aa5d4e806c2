import RelationQuery.Relation.Graph

/-!
The place of each edge in a query. Reading the edges in order, a to-many edge that no chain has
taken yet is gathered into an array, with all of its chain; every other edge that no chain has
taken is a join of the root.
-/

namespace RelationQuery

structure Placement where
  /-- the edges joined to the root -/
  plain : List Nat := []
  /-- the edges that are gathered into an array of the root -/
  aggregations : List Nat := []
  /-- the edges within these arrays -/
  consumed : List Nat := []
  deriving DecidableEq, Repr

namespace Placement

def step (g : Graph) (p : Placement) (e : Edge) : Placement :=
  if p.consumed.contains e.id then p
  else if e.many then
    { p with
      aggregations := p.aggregations ++ [e.id]
      consumed := p.consumed ++ (g.chain e.id).map Edge.id }
  else { p with plain := p.plain ++ [e.id] }

/-- The places of a graph's edges, each list in ascending order. -/
def ofGraph (g : Graph) : Placement :=
  let p := g.edges.toList.foldl (step g) {}
  { p with consumed := (List.range g.size).filter p.consumed.contains }

/-- Whether an edge is among the places of an ascending list, found by halving it. -/
def listed (places : List Nat) (id : Nat) : Bool := places.toArray.binSearchContains id (· < ·)

def isPlain (p : Placement) (id : Nat) : Bool := listed p.plain id

def isAggregation (p : Placement) (id : Nat) : Bool := listed p.aggregations id

def isConsumed (p : Placement) (id : Nat) : Bool := listed p.consumed id

end Placement

end RelationQuery
