import RelationQuery.Relation.Edge
import RelationQuery.Relation.Error

/-!
How an edge is tied to its source in SQL: as a join of its own, or, where its rows are gathered
into an array, as the correlation of that array with the row around it.
-/

namespace RelationQuery

/-- What relates an array to the row it belongs to: `outer op inner`. -/
structure Correlation where
  outer : Column
  op : Comparison
  inner : Column
  deriving DecidableEq, Repr

/-- The comparison itself. -/
def Correlation.term (c : Correlation) : Column × Comparison × Column := (c.outer, c.op, c.inner)

namespace Edge

/-- A condition with its columns under the aliases of source and target. -/
def resolve (e : Edge) (c : Condition) : Correlation :=
  ⟨Column.resolve c.left e.source.asName, c.op, Column.resolve c.right e.target.asName⟩

/-- The edge as a join. Every join but a cross join has to be tied. -/
def join (e : Edge) : Except CompileError JoinClause :=
  let clause (tie : JoinTie) : JoinClause := ⟨e.kind, .table e.target, tie⟩
  let untied := CompileError.untiedJoin e.target.name e.target.asName
  if e.kind = .cross then .ok (clause .free)
  else match e.predicate with
    | .conditions [] | .absent => .error untied
    | .conditions terms =>
      .ok (clause (.conditions (terms.map fun c => (e.resolve c).term)))
    | .shared column => if column.isEmpty then .error untied else .ok (clause (.shared column))

def unresolvable (e : Edge) (obstacle : Obstacle) : CompileError :=
  .unresolvable e.target.name obstacle

/-- The edge as a correlation, which is one comparison. -/
def correlation (e : Edge) : Except CompileError Correlation :=
  match e.predicate with
  | .conditions [c] => .ok (e.resolve c)
  | .conditions (_ :: _ :: _) => .error (e.unresolvable .severalConditions)
  | .shared column =>
    if column.isEmpty then .error (e.unresolvable .noPredicate)
    else .ok ⟨.qualified e.source.asName column, .eq, .qualified e.target.asName column⟩
  | .conditions [] | .absent => .error (e.unresolvable .noPredicate)

end Edge

end RelationQuery
