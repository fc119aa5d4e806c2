import RelationQuery.Record.Binding
import RelationQuery.Relation.Declaration
import RelationQuery.Store.Action

/-!
Reading and writing the records of entities. Every query is compiled in full before the database
is asked, so an error in a declaration never reaches it.
-/

namespace RelationQuery

structure Store where
  target : Target
  schema : Schema

namespace Store

/-- An action that goes on with what succeeded and ends with what failed. -/
def attempt {α β : Type} (e : Except StoreError α) (next : α → Action β) : Action β :=
  match e with
  | .ok a => next a
  | .error error => .done (.error error)

/-- The graph of an entity's own relations. -/
def graph (s : Store) (key : EntityKey) : Graph :=
  ((s.schema.relations key).declare s.schema (s.schema.entity key)).graph

def compile (s : Store) (key : EntityKey) (criteria : Criteria) :
    Except StoreError CompiledQuery :=
  ((s.graph key).compile (s.schema.entity key) criteria s.target).mapError .compile

/-- The records of a query's rows. -/
def decode (query : CompiledQuery) (rows : List Row) : Except StoreError (List Record) :=
  (rows.mapM (Record.ofRow query.relations query.fieldCase)).mapError .mapping

/-- The records that meet the criteria, with their relations. -/
def all (s : Store) (key : EntityKey) (criteria : Criteria) : Action (List Record) :=
  attempt (s.compile key criteria) fun query =>
    .fetch query.statement fun
      | .ok rows => .done (decode query rows)
      | .error reason => .done (.error (.execution query.statement reason))

/-- Asks for the one row with an id. -/
def criteriaById (e : Entity) (id : Value) : Criteria :=
  { terms := [.eq e.idColumn id], limit := some 1 }

/-- The record with an id. -/
def get (s : Store) (key : EntityKey) (id : Value) : Action Record :=
  (s.all key (criteriaById (s.schema.entity key) id)).mapResult fun
    | record :: _ => .ok record
    | [] => .error .notFound

/-- Executes a statement and goes on with the number of rows changed. -/
def execute {α : Type} (statement : Statement) (next : UInt64 → Action α) : Action α :=
  .execute statement fun
    | .ok count => next count
    | .error reason => .done (.error (.execution statement reason))

/-- Adds a row and answers its id. -/
def add (s : Store) (key : EntityKey) (data : Payload) : Action Int64 :=
  let e := s.schema.entity key
  attempt ((e.bind data).mapError .mapping) fun columns =>
    execute ((e.insertion columns).render s.target.dialect) fun _ =>
      .lastId fun id => .done (.ok id)

/-- Changes the row with an id and answers how many were changed. Without anything to assign the
database is not asked. -/
def update (s : Store) (key : EntityKey) (id : Value) (data : Payload) : Action UInt64 :=
  let e := s.schema.entity key
  attempt ((e.bind data).mapError .mapping) fun columns =>
    match (e.change id columns).render? s.target.dialect with
    | some statement => execute statement fun count => .done (.ok count)
    | none => .done (.ok 0)

/-- Removes the row with an id and answers how many were removed. -/
def delete (s : Store) (key : EntityKey) (id : Value) : Action UInt64 :=
  execute (((s.schema.entity key).removal id).render s.target.dialect) fun count =>
    .done (.ok count)

end Store

end RelationQuery
