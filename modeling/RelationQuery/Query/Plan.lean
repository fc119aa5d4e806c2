import RelationQuery.Aggregation.Render
import RelationQuery.Query.Criteria
import RelationQuery.Query.Placement

/-!
Plans: what a query is made of, whatever the database. The root entity's columns come first, then
join by join and array by array in the order of declaration. No two columns may end up under one
key of a record; the root's own fields are not compared with each other.
-/

namespace RelationQuery

/-- What an edge contributes to the root of a query. -/
inductive Part where
  | join (clause : JoinClause) (items : List SelectItem)
  | aggregation (level : Level)

structure Plan where
  root : Entity
  parts : List Part
  criteria : Criteria

/-- A query ready to be run, with what is needed to read its rows. -/
structure CompiledQuery where
  statement : Statement
  /-- the columns that hold arrays, in the order they are selected -/
  relations : List String
  /-- how the keys of records are spelt -/
  fieldCase : FieldCase
  deriving DecidableEq

namespace Plan

/-- Takes the record keys of names, one after the other, none twice. -/
def takeKeys (root : Entity) (taken : List String) : List String → Except CompileError (List String)
  | [] => .ok taken
  | name :: rest =>
    let key := root.fieldCase.apply name
    if taken.contains key then .error (.duplicateKey key root.table)
    else takeKeys root (taken ++ [key]) rest

/-- The parts of edges, where `taken` are the record keys of what comes before them. -/
def gather (root : Entity) (g : Graph) (p : Placement) (taken : List String) :
    List Edge → Except CompileError (List Part)
  | [] => return []
  | e :: rest => do
    if p.plain.contains e.id then
      let clause ← e.join
      let taken ← takeKeys root taken (e.columns.map Selection.outputName)
      let parts ← gather root g p taken rest
      return .join clause (e.columns.map (Selection.item e.target.asName)) :: parts
    else if p.aggregations.contains e.id then
      match ← g.level e.id with
      | none => gather root g p taken rest
      | some level =>
        let taken ← takeKeys root taken [level.name]
        let parts ← gather root g p taken rest
        return .aggregation level :: parts
    else gather root g p taken rest

/-- The error of a graph that was cut off, for the first edge where it was. -/
def overflow? (g : Graph) : Option CompileError :=
  g.overflowed.head?.map fun id =>
    .unresolvable (((g.edge? id).map (·.target.name)).getD "") .tooDeep

/-- Plans a query for the records of `root` with the relations of a graph. -/
def ofGraph (root : Entity) (g : Graph) (criteria : Criteria) : Except CompileError Plan :=
  match overflow? g with
  | some error => .error error
  | none => do
    let taken := root.fields.map root.fieldCase.apply
    let parts ← gather root g (.ofGraph g) taken g.edges.toList
    return { root, parts, criteria }

/-- The items that a part adds to the select list. -/
def items (t : Target) : Part → List SelectItem
  | .join _ items => items
  | .aggregation level => [.expression (level.selectExpression t) (some level.name)]

def joinClause (t : Target) : Part → JoinClause
  | .join clause _ => clause
  | .aggregation level => level.joinClause t

def relation? : Part → Option String
  | .join _ _ => none
  | .aggregation level => some level.name

def select (t : Target) (plan : Plan) : Select :=
  { source := plan.root.tableRef
    items := plan.root.fields.map (fun field => .column (plan.root.column field) none) ++
      plan.parts.flatMap (items t)
    joins := plan.parts.map (joinClause t)
    filters := plan.criteria.filters plan.root
    groupBy := plan.criteria.groupBy.map plan.root.column
    orderBy := plan.criteria.orderBy.map fun (field, direction) =>
      (plan.root.column field, direction)
    limit := plan.criteria.limit
    offset := plan.criteria.offset }

def compile (t : Target) (plan : Plan) : CompiledQuery :=
  { statement := (plan.select t).render t.dialect
    relations := plan.parts.filterMap relation?
    fieldCase := plan.root.fieldCase }

end Plan

/-- Compiles a query for the records of `root` with the relations of a graph. -/
def Graph.compile (g : Graph) (root : Entity) (criteria : Criteria) (t : Target) :
    Except CompileError CompiledQuery :=
  (Plan.ofGraph root g criteria).map (Plan.compile t)

end RelationQuery
