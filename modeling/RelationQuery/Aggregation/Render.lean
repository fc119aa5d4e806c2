import RelationQuery.Aggregation.Level

/-!
Levels as SQL, in two forms. A level below the root of a query is a derived table with one row
for each key, joined to the root by that key. A level nested in another is a scalar subquery that
compares its key with the row around it.
-/

namespace RelationQuery.Level

/-- The rows of a level, by its key. -/
def rows (l : Level) : Select :=
  { source := l.table, joins := l.joins, groupBy := [l.correlation.inner] }

/-- The array of the rows whose key belongs to the row around them. -/
def scalarSelect (l : Level) (aggregate : String) : Select :=
  { l.rows with
    items := [.expression aggregate none]
    filters := [.columns l.correlation.outer l.correlation.op l.correlation.inner] }

/-- Every key with the array of its rows. -/
def derivedSelect (l : Level) (aggregate : String) : Select :=
  { l.rows with
    items := [
      .column l.correlation.inner (some l.correlation.inner.name),
      .expression aggregate (some l.name)] }

mutual

/-- The scalar form. -/
def scalar (t : Target) : Level → String
  | ⟨table, kind, name, correlation, joins, columns, nested⟩ =>
    let object : ObjectTemplate := ⟨columns.entries ++ nestedSlots t nested⟩
    let level : Level := ⟨table, kind, name, correlation, joins, columns, nested⟩
    ((level.scalarSelect (object.aggregate t)).render t.dialect).sql

/-- The arrays of nested levels, under their names. -/
def nestedSlots (t : Target) : List Level → List (String × Slot)
  | [] => []
  | level :: rest => (level.name, .subquery (level.scalar t)) :: nestedSlots t rest

end

/-- The objects of a level. -/
def object (t : Target) (l : Level) : ObjectTemplate :=
  ⟨l.columns.entries ++ nestedSlots t l.nested⟩

/-- The derived form. -/
def derived (t : Target) (l : Level) : String :=
  ((l.derivedSelect ((l.object t).aggregate t)).render t.dialect).sql

/-- The column of the derived table that the root's rows are compared with. -/
def key (l : Level) : String := l.correlation.inner.name

/-- The derived form as a table under the level's name. -/
def fragment (t : Target) (l : Level) : String :=
  "(" ++ l.derived t ++ ") AS " ++ t.dialect.quoteName l.name

/-- What the root selects of the derived table: the array, empty where the relation has no rows. -/
def selectExpression (t : Target) (l : Level) : String :=
  t.dialect.jsonAsText
    ("COALESCE(" ++ (Column.qualified l.name l.name).sql t.dialect ++ ", " ++ t.json.emptyArray
      ++ ")")

/-- The join of the derived table. -/
def joinClause (t : Target) (l : Level) : JoinClause :=
  { kind := l.kind
    source := .derived (l.derived t) l.name
    tie := .conditions
      [(l.correlation.outer, l.correlation.op, .qualified l.name l.key)] }

end RelationQuery.Level
