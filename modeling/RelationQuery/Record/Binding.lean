import RelationQuery.Record.Basic
import RelationQuery.Sql.Write

/-!
Which columns of an entity's table JSON data sets, and to which values.
-/

namespace RelationQuery

/-- Data on its way to a statement: JSON, or the reason why there is none. -/
abbrev Payload := Except String Json

namespace Entity

/-- The columns that the members of an object set. The declared fields decide, in their order; an
entity that declares none takes every scalar member. -/
def bindings (e : Entity) (members : List (String × Json)) : List (String × Value) :=
  if e.fields.isEmpty then
    (members.filter fun (_, value) => value.isScalar).map fun (key, value) =>
      (e.columnName key, .ofJson value)
  else
    e.fields.filterMap fun field =>
      (Members.get? field members).map fun value => (e.columnName field, .ofJson value)

/-- The columns that data sets; it has to be an object. -/
def bind (e : Entity) : Payload → Except MappingError (List (String × Value))
  | .ok (.object members) => .ok (e.bindings members)
  | .ok json => .error (.notObject e.name json)
  | .error reason => .error (.refused reason)

/-- What a new row gets: everything but an id that is null. -/
def insertion (e : Entity) (columns : List (String × Value)) : Insert :=
  ⟨e.table, columns.filter fun (column, value) => !(column == e.idColumn && value.isNull)⟩

/-- The rows with an id. -/
def byId (e : Entity) (id : Value) : Filter := .eq (.bare e.idColumn) id

/-- What a row with an id gets: everything but the id. -/
def change (e : Entity) (id : Value) (columns : List (String × Value)) : Update :=
  ⟨e.table, columns.filter fun (column, _) => column != e.idColumn, [e.byId id]⟩

def removal (e : Entity) (id : Value) : Delete := ⟨e.table, [e.byId id]⟩

end Entity

end RelationQuery
