import RelationQuery.Relation.Edge

/-!
Relationship graphs. Edges stand in the order of declaration. The edges below a to-many relation
form a chain, linked in both directions: a new edge always goes to the end of the chain that it
belongs to, so chains never branch and their edges ascend.
-/

namespace RelationQuery

/-- How deep the relations of entities are followed into each other. -/
def maxDepth : Nat := 8

structure Graph where
  root : Table
  edges : Array Edge := #[]
  /-- the edges whose target's relations were left out, being too deep -/
  overflowed : List Nat := []

namespace Graph

def size (g : Graph) : Nat := g.edges.size

def edge? (g : Graph) (id : Nat) : Option Edge := g.edges[id]?

/-- The edge after this one on its chain. -/
def next? (g : Graph) (id : Nat) : Option Nat := (g.edge? id).bind Edge.next

def update (g : Graph) (id : Nat) (f : Edge → Edge) : Graph :=
  { g with edges := g.edges.modify id f }

@[simp] theorem size_update (g : Graph) (id : Nat) (f : Edge → Edge) :
    (g.update id f).size = g.size := by
  simp [update, size]

/-- Follows a chain to its end, for at most `fuel` steps. -/
def tailFrom (g : Graph) : Nat → Nat → Nat
  | 0, id => id
  | fuel + 1, id =>
    match g.next? id with
    | some next => g.tailFrom fuel next
    | none => id

/-- The last edge of a chain. -/
def tail (g : Graph) (id : Nat) : Nat := g.tailFrom g.size id

/-- Appends an edge, to the end of the chain of the edge it follows. -/
def push (g : Graph) (follows : Option Nat) (e : Edge) : Graph :=
  let id := g.size
  match follows with
  | none => { g with edges := g.edges.push { e with id, prev := none, next := none } }
  | some before =>
    let last := g.tail before
    let linked := g.update last fun e => { e with next := some id }
    { linked with edges := linked.edges.push { e with id, prev := some last, next := none } }

/-- The new edge is the last one. -/
@[simp] theorem size_push (g : Graph) (follows : Option Nat) (e : Edge) :
    (g.push follows e).size = g.size + 1 := by
  cases follows <;> simp [push, update, size]

@[simp] theorem root_push (g : Graph) (follows : Option Nat) (e : Edge) :
    (g.push follows e).root = g.root := by
  cases follows <;> rfl

/-- Notes that the relations below an edge were left out, once for each edge. -/
def markOverflowed (g : Graph) (id : Nat) : Graph :=
  if g.overflowed.contains id then g else { g with overflowed := g.overflowed ++ [id] }

@[simp] theorem edges_markOverflowed (g : Graph) (id : Nat) :
    (g.markOverflowed id).edges = g.edges := by
  unfold markOverflowed
  split <;> rfl

/-- The edges after this one on its chain, for at most `fuel` steps and only while they ascend. -/
def chainFrom (g : Graph) : Nat → Nat → List Edge
  | 0, _ => []
  | fuel + 1, id =>
    match (g.next? id).bind g.edge? with
    | some e => if e.id ≤ id then [] else e :: g.chainFrom fuel e.id
    | none => []

/-- The edges after this one on its chain. -/
def chain (g : Graph) (id : Nat) : List Edge := g.chainFrom g.size id

end Graph

end RelationQuery
