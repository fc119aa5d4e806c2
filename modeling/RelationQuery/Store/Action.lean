import RelationQuery.Record.Basic

/-!
Actions: what an operation asks of a database, call by call, and what it does with each answer.
An adapter answers the calls; running an action against one gives the result together with the
calls that were made.
-/

namespace RelationQuery

inductive StoreError where
  | compile (error : CompileError)
  /-- the adapter failed on a statement -/
  | execution (statement : Statement) (reason : String)
  | mapping (error : MappingError)
  | notFound

/-- The adapter's own words for a failure. -/
def adapterMessage (reason : String) : String := "Database error: " ++ reason

def StoreError.message : StoreError → String
  | .compile error => "Compile error: " ++ error.message
  | .execution statement reason =>
    "Execution error: " ++ adapterMessage reason ++ " (sql: " ++ statement.sql ++ ")"
  | .mapping error => "Mapping error: " ++ error.message
  | .notFound => "No rows found"

inductive Action (α : Type) where
  | done (result : Except StoreError α)
  /-- asks for rows -/
  | fetch (statement : Statement) (next : Except String (List Row) → Action α)
  /-- asks for a change, answered by the number of rows changed -/
  | execute (statement : Statement) (next : Except String UInt64 → Action α)
  /-- asks for the id of the last new row -/
  | lastId (next : Int64 → Action α)

/-- A database as an operation sees it, with a state of its own. A failure is told in words. -/
structure Adapter (σ : Type) where
  fetch : Statement → σ → Except String (List Row) × σ
  execute : Statement → σ → Except String UInt64 × σ
  lastId : σ → Int64

/-- A statement that was handed to an adapter. -/
inductive Call where
  | fetch (statement : Statement)
  | execute (statement : Statement)
  deriving DecidableEq

namespace Action

variable {α β σ : Type}

/-- Goes on with the result, without further calls. -/
def mapResult (f : α → Except StoreError β) : Action α → Action β
  | .done result => .done (result >>= f)
  | .fetch statement next => .fetch statement fun answer => (next answer).mapResult f
  | .execute statement next => .execute statement fun answer => (next answer).mapResult f
  | .lastId next => .lastId fun answer => (next answer).mapResult f

/-- The result, the statements handed to the adapter in order, and its state afterwards. -/
def run (adapter : Adapter σ) : Action α → σ → Except StoreError α × List Call × σ
  | .done result, state => (result, [], state)
  | .fetch statement next, state =>
    let (answer, state) := adapter.fetch statement state
    let (result, calls, state) := (next answer).run adapter state
    (result, .fetch statement :: calls, state)
  | .execute statement next, state =>
    let (answer, state) := adapter.execute statement state
    let (result, calls, state) := (next answer).run adapter state
    (result, .execute statement :: calls, state)
  | .lastId next, state => (next (adapter.lastId state)).run adapter state

/-- Going on with the result makes no further calls. -/
theorem run_mapResult (adapter : Adapter σ) (f : α → Except StoreError β) (action : Action α)
    (state : σ) :
    (action.mapResult f).run adapter state =
      ((action.run adapter state).1 >>= f, (action.run adapter state).2) := by
  induction action generalizing state with
  | done result => rfl
  | fetch statement next ih => simp [mapResult, run, ih]
  | execute statement next ih => simp [mapResult, run, ih]
  | lastId next ih => simp [mapResult, run, ih]

end Action

end RelationQuery
