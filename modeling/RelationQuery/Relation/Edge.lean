import RelationQuery.Relation.Selection

/-!
The edges of a relationship graph. An edge leads from the table it was declared at to the table
it brings in. Edges are named by their position in the order of declaration.
-/

namespace RelationQuery

/-- One comparison that ties the rows of an edge together. `left` belongs to the source and
`right` to the target, unless it is qualified. -/
structure Condition where
  left : String
  op : Comparison
  right : String
  deriving DecidableEq, Repr

/-- What ties the rows of an edge together: conditions or a shared column, never both. -/
inductive Predicate where
  | absent
  | conditions (terms : List Condition)
  | shared (column : String)
  deriving DecidableEq, Repr

namespace Predicate

def isEmpty : Predicate → Bool
  | .absent => true
  | .conditions terms => terms.isEmpty
  | .shared column => column.isEmpty

def terms : Predicate → List Condition
  | .conditions terms => terms
  | _ => []

/-- Adds a condition; a shared column gives way to it. -/
def add (c : Condition) : Predicate → Predicate
  | .conditions terms => .conditions (terms ++ [c])
  | _ => .conditions [c]

end Predicate

structure Edge where
  id : Nat := 0
  kind : JoinKind
  source : Table
  target : Table
  predicate : Predicate := .absent
  columns : List Selection := []
  /-- the name given to this branch of the output -/
  label : Option String := none
  /-- whether one source row may have several target rows -/
  many : Bool := false
  /-- whether the target is the pivot table of a many-to-many relation -/
  bridge : Bool := false
  /-- the entity at the target, if one is known -/
  entity : Option Entity := none
  /-- the edge at whose target this one was declared -/
  anchor : Option Nat := none
  /-- the edge before this one on its chain -/
  prev : Option Nat := none
  /-- the edge after this one on its chain -/
  next : Option Nat := none
  deriving DecidableEq, Repr

namespace Edge

/-- The name of this branch in the output: its label, else its table. -/
def displayName (e : Edge) : String := Text.bareName (e.label.getD e.target.name)

/-- Whether rows are multiplied along this edge or before it. -/
def inChain (e : Edge) : Bool := e.many || e.prev.isSome

/-- Changes the kind of join. A cross join has no predicate. -/
def withKind (e : Edge) (kind : JoinKind) : Edge :=
  if kind = .cross then { e with kind, predicate := .absent } else { e with kind }

/-- Turns a caller's column into one of the target. -/
def select (e : Edge) (selection : Selection) : Selection :=
  match e.entity with
  | some entity => entity.select selection
  | none => selection

def addColumns (e : Edge) (columns : List Selection) : Edge :=
  { e with columns := e.columns ++ columns.map e.select }

end Edge

end RelationQuery
