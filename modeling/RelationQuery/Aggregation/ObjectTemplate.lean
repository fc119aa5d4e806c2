import RelationQuery.Relation.Error
import RelationQuery.Relation.Selection

/-!
The constructor of the JSON objects of one level: keys with what stands under them. Keys are
distinct; they are written as string literals.
-/

namespace RelationQuery

/-- What stands under a key. -/
inductive Slot where
  | column (column : Column)
  | raw (sql : String)
  /-- the array of a nested relation, as a written subquery -/
  | subquery (sql : String)
  deriving DecidableEq, Repr

structure ObjectTemplate where
  entries : List (String × Slot) := []
  deriving DecidableEq, Repr

namespace ObjectTemplate

def keys (o : ObjectTemplate) : List String := o.entries.map Prod.fst

/-- Appends an entry to the template of `level`, unless the key is taken. -/
def insert (level : String) (o : ObjectTemplate) (key : String) (slot : Slot) :
    Except CompileError ObjectTemplate :=
  if o.keys.contains key then .error (.duplicateKey key level)
  else .ok ⟨o.entries ++ [(key, slot)]⟩

/-- An entry is appended exactly where its key is free. -/
theorem insert_eq_ok_iff {level key : String} {slot : Slot} {o extended : ObjectTemplate} :
    o.insert level key slot = .ok extended ↔
      key ∉ o.keys ∧ extended = ⟨o.entries ++ [(key, slot)]⟩ := by
  unfold insert
  split <;> simp_all [eq_comm]

/-- Appends entries one after the other. -/
def insertAll (level : String) (o : ObjectTemplate) :
    List (String × Slot) → Except CompileError ObjectTemplate
  | [] => .ok o
  | (key, slot) :: rest => do
    let extended ← o.insert level key slot
    extended.insertAll level rest

/-- What is appended are the entries given, in their order. -/
theorem entries_insertAll {level : String} {o extended : ObjectTemplate}
    {entries : List (String × Slot)} (h : o.insertAll level entries = .ok extended) :
    extended.entries = o.entries ++ entries := by
  induction entries generalizing o with
  | nil => simp_all [insertAll]
  | cons entry rest ih =>
    unfold insertAll at h
    cases step : o.insert level entry.1 entry.2 with
    | error e => simp [step, bind, Except.bind] at h
    | ok next =>
      simp only [step, bind, Except.bind] at h
      rw [ih h, (insert_eq_ok_iff.1 step).2]
      simp

end ObjectTemplate

/-- A nested array, empty where the relation has no rows, as JSON. -/
def Target.embed (t : Target) (sql : String) : String :=
  let coalesced := "COALESCE((" ++ sql ++ "), " ++ t.json.emptyArray ++ ")"
  match t.json.embed with
  | some function => function ++ "(" ++ coalesced ++ ")"
  | none => coalesced

def Slot.render (t : Target) : Slot → String
  | .column c => c.sql t.dialect
  | .raw sql => sql
  | .subquery sql => t.embed sql

namespace ObjectTemplate

/-- `object('key', value, …)` -/
def render (t : Target) (o : ObjectTemplate) : String :=
  let arguments := o.entries.map fun (key, slot) => Text.quote '\x27' key ++ ", " ++ slot.render t
  t.json.object ++ "(" ++ ", ".intercalate arguments ++ ")"

/-- The array of the objects of all rows. Objects without entries are not built at all. -/
def aggregate (t : Target) (o : ObjectTemplate) : String :=
  if o.entries.isEmpty then t.json.emptyArray
  else t.json.arrayAgg ++ "(" ++ o.render t ++ ")"

end ObjectTemplate

def Selection.slot (asName : String) : Selection → Slot
  | .column name | .renamed name _ => .column (Column.resolve name asName)
  | .raw sql => .raw sql

end RelationQuery
