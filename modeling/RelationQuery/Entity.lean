import RelationQuery.Sql.Name

/-!
Entities: what is fixed about the records of one table.
-/

namespace RelationQuery

structure Entity where
  /-- the singular name that foreign keys and pivots are named after -/
  name : String
  table : String
  asName : String
  idColumn : String := "id"
  /-- the fields in the order they are selected, spelt in `fieldCase` -/
  fields : List String := []
  fieldCase : FieldCase := .snake
  deriving DecidableEq, Repr, Inhabited

namespace Entity

/-- The name in snake case: `blog_post` for `BlogPost`. -/
def baseName (e : Entity) : String := Text.snake e.name

/-- The column by which other tables refer to this entity: `blog_post_id`. -/
def foreignKey (e : Entity) : String := e.baseName ++ "_id"

def tableRef (e : Entity) : Table := ⟨e.table, e.asName⟩

/-- The column of a field. Columns are in snake case, whatever the case of the fields. -/
def columnName (e : Entity) (field : String) : String :=
  match e.fieldCase with
  | .camel => FieldCase.snake.applyQualified field
  | .snake => field

/-- The column of a field, under the entity's alias unless the field is qualified. -/
def column (e : Entity) (field : String) : Column := Column.resolve (e.columnName field) e.asName

end Entity

end RelationQuery
