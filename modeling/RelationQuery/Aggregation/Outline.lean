import RelationQuery.Relation.Graph

/-!
Outlines: which edges belong to which level of nested arrays. The chain of a to-many edge holds
its own level and every level below it, in the order of declaration. An edge is on the level
whose to-many edge it was declared from, directly or by way of edges that are not to-many
themselves; a to-many edge starts a level of its own, nested in that one.
-/

namespace RelationQuery

/-- A level: its to-many edge, the edges joined to it, and the levels nested in it. -/
structure Outline where
  root : Edge
  members : List Edge
  nested : List Outline

namespace Outline

/-- A level as it is read off a chain. -/
structure Walk where
  /-- the edges that following ones of this level may be declared from -/
  owners : List Nat
  members : List Edge := []
  nested : List Nat := []

/-- Takes in the next edge of the chain, if it was declared from this level. -/
def Walk.step (w : Walk) (e : Edge) : Walk :=
  if e.anchor.any w.owners.contains then
    if e.many then { w with nested := w.nested ++ [e.id] }
    else { w with owners := w.owners ++ [e.id], members := w.members ++ [e] }
  else w

def walk (g : Graph) (id : Nat) : Walk := (g.chain id).foldl Walk.step { owners := [id] }

/-- The outline below an edge, for levels at most `fuel` deep. -/
def build (g : Graph) : Nat → Edge → Outline
  | 0, root => ⟨root, [], []⟩
  | fuel + 1, root =>
    let w := walk g root.id
    ⟨root, w.members, (w.nested.filterMap g.edge?).map (build g fuel)⟩

/-- The outline below an edge. A nested level starts further on in the graph, so there are no more
levels than edges. -/
def ofEdge (g : Graph) (root : Edge) : Outline := build g g.size root

end Outline

end RelationQuery
