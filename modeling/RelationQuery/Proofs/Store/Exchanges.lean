import Mathlib.Tactic.Common
import RelationQuery.Store.Basic

/-!
What passes between the operations of a store and its adapter. Beside the run of an action stands
the list of its exchanges: every request with the answer that the adapter gave to it, the question
for the last id included. An operation answers by itself or hands over one statement, once. Where
the adapter fails on it, the operation fails with this statement and the adapter's words, and asks
for nothing more.
-/

namespace RelationQuery

/-- A request to an adapter with its answer. -/
inductive Exchange where
  | fetch (statement : Statement) (answer : Except String (List Row))
  | execute (statement : Statement) (answer : Except String UInt64)
  | lastId (answer : Int64)

/-- The statement that was handed over, if one was. -/
def Exchange.call? : Exchange → Option Call
  | .fetch statement _ => some (.fetch statement)
  | .execute statement _ => some (.execute statement)
  | .lastId _ => none

namespace Action

variable {α β σ : Type}

/-- The exchanges of an action with an adapter, in order. -/
def exchanges (adapter : Adapter σ) : Action α → σ → List Exchange
  | .done _, _ => []
  | .fetch statement next, state =>
    let (answer, state) := adapter.fetch statement state
    .fetch statement answer :: (next answer).exchanges adapter state
  | .execute statement next, state =>
    let (answer, state) := adapter.execute statement state
    .execute statement answer :: (next answer).exchanges adapter state
  | .lastId next, state =>
    .lastId (adapter.lastId state) :: (next (adapter.lastId state)).exchanges adapter state

/-- The calls of a run are the statements of its exchanges. -/
lemma calls_run (adapter : Adapter σ) (action : Action α) (state : σ) :
    (action.run adapter state).2.1 =
      (action.exchanges adapter state).filterMap Exchange.call? := by
  induction action generalizing state with
  | done result => rfl
  | fetch statement next ih => simp [run, exchanges, ih, Exchange.call?]
  | execute statement next ih => simp [run, exchanges, ih, Exchange.call?]
  | lastId next ih => simp [run, exchanges, ih, Exchange.call?, List.filterMap_cons]

/-- Going on with the result makes no further requests. -/
lemma exchanges_mapResult (adapter : Adapter σ) (f : α → Except StoreError β)
    (action : Action α) (state : σ) :
    (action.mapResult f).exchanges adapter state = action.exchanges adapter state := by
  induction action generalizing state with
  | done result => rfl
  | fetch statement next ih => simp [mapResult, exchanges, ih]
  | execute statement next ih => simp [mapResult, exchanges, ih]
  | lastId next ih => simp [mapResult, exchanges, ih]

/-! ### What an action may ask for -/

/-- The action asks for nothing. -/
structure Settles (adapter : Adapter σ) (state : σ) (action : Action α)
    (result : Except StoreError α) : Prop where
  silent : action.exchanges adapter state = []
  calls : (action.run adapter state).2.1 = []
  result : (action.run adapter state).1 = result

/-- The action asks for the rows of one statement, and for nothing else. -/
structure Fetches (adapter : Adapter σ) (state : σ) (action : Action α) (statement : Statement)
    (finish : List Row → Except StoreError α) : Prop where
  once : action.exchanges adapter state =
    [.fetch statement (adapter.fetch statement state).1]
  calls : (action.run adapter state).2.1 = [.fetch statement]
  result : (action.run adapter state).1 =
    match (adapter.fetch statement state).1 with
    | .ok rows => finish rows
    | .error reason => .error (.execution statement reason)

/-- The action has one statement executed. Where this succeeds it may ask for what `after` says,
and where it fails for nothing else. -/
structure Executes (adapter : Adapter σ) (state : σ) (action : Action α) (statement : Statement)
    (after : σ → List Exchange) (finish : UInt64 → σ → Except StoreError α) : Prop where
  once : action.exchanges adapter state =
    .execute statement (adapter.execute statement state).1 ::
      match (adapter.execute statement state).1 with
      | .ok _ => after (adapter.execute statement state).2
      | .error _ => []
  calls : (action.run adapter state).2.1 = [.execute statement]
  result : (action.run adapter state).1 =
    match (adapter.execute statement state).1 with
    | .ok count => finish count (adapter.execute statement state).2
    | .error reason => .error (.execution statement reason)

variable {adapter : Adapter σ} {state : σ}

lemma settles_done (result : Except StoreError α) :
    Settles adapter state (.done result) result := ⟨rfl, rfl, rfl⟩

lemma Settles.mapResult {action : Action α} {result : Except StoreError α}
    (h : Settles adapter state action result) (f : α → Except StoreError β) :
    Settles adapter state (action.mapResult f) (result >>= f) where
  silent := by rw [exchanges_mapResult, h.silent]
  calls := by rw [run_mapResult, h.calls]
  result := by rw [run_mapResult, h.result]

lemma Fetches.mapResult {action : Action α} {statement : Statement}
    {finish : List Row → Except StoreError α} (h : Fetches adapter state action statement finish)
    (f : α → Except StoreError β) :
    Fetches adapter state (action.mapResult f) statement fun rows => finish rows >>= f where
  once := by rw [exchanges_mapResult, h.once]
  calls := by rw [run_mapResult, h.calls]
  result := by
    rw [run_mapResult, h.result]
    cases (adapter.fetch statement state).1 <;> rfl

end Action

open RelationQuery.Action

/-! ### Data without anything to assign -/

namespace Entity

variable {e : Entity} {members : List (String × Json)}

/-- Some member of the data sets a column other than the id: a declared field, or, where none is
declared, any scalar. -/
def Assigns (e : Entity) (members : List (String × Json)) : Prop :=
  if e.fields = [] then
    ∃ member ∈ members, member.2.isScalar = true ∧ e.columnName member.1 ≠ e.idColumn
  else
    ∃ field ∈ e.fields, (Members.get? field members).isSome = true ∧
      e.columnName field ≠ e.idColumn

lemma exists_bindings_iff : (∃ binding ∈ e.bindings members, binding.1 ≠ e.idColumn) ↔
    e.Assigns members := by
  unfold bindings Assigns
  by_cases hfields : e.fields = []
  · simp only [hfields, List.isEmpty_nil, if_true, List.mem_map, List.mem_filter]
    constructor
    · rintro ⟨_, ⟨member, ⟨hmember, hscalar⟩, rfl⟩, hcolumn⟩
      exact ⟨member, hmember, hscalar, hcolumn⟩
    · rintro ⟨member, hmember, hscalar, hcolumn⟩
      exact ⟨_, ⟨member, ⟨hmember, hscalar⟩, rfl⟩, hcolumn⟩
  · simp only [hfields, List.isEmpty_iff, if_false, List.mem_filterMap, Option.map_eq_some_iff,
      Option.isSome_iff_exists]
    constructor
    · rintro ⟨_, ⟨field, hfield, value, hvalue, rfl⟩, hcolumn⟩
      exact ⟨field, hfield, ⟨value, hvalue⟩, hcolumn⟩
    · rintro ⟨field, hfield, ⟨value, hvalue⟩, hcolumn⟩
      exact ⟨_, ⟨field, hfield, value, hvalue, rfl⟩, hcolumn⟩

lemma mem_assignments_change (id : Value) {columns : List (String × Value)}
    {binding : String × Value} : binding ∈ (e.change id columns).assignments ↔
      binding ∈ columns ∧ binding.1 ≠ e.idColumn := by
  simp [change]

/-- There is a statement exactly where something is assigned. -/
lemma isSome_render?_change (id : Value) (d : Dialect) :
    ((e.change id (e.bindings members)).render? d).isSome = true ↔ e.Assigns members := by
  rw [← exists_bindings_iff, Update.render?]
  cases hcolumns : (e.change id (e.bindings members)).assignments with
  | nil =>
    refine iff_of_false (by simp) ?_
    rintro ⟨binding, hassigned⟩
    have hmem := (mem_assignments_change id).mpr hassigned
    rw [hcolumns] at hmem
    cases hmem
  | cons binding rest =>
    have hmem : binding ∈ (e.change id (e.bindings members)).assignments := by
      rw [hcolumns]
      exact List.mem_cons_self
    exact iff_of_true (by simp) ⟨binding, (mem_assignments_change id).mp hmem⟩

end Entity

/-! ### The operations -/

namespace Store

variable {α σ : Type} {adapter : Adapter σ} {state : σ}

/-- The first record, or the error that there is none. -/
def first : List Record → Except StoreError Record
  | record :: _ => .ok record
  | [] => .error .notFound

/-- What the operations on an entity's records ask of an adapter. -/
structure AsksOnce (s : Store) (adapter : Adapter σ) (state : σ) (key : EntityKey) : Prop where
  /-- a query that does not compile is not asked for -/
  uncompiled : ∀ criteria error, s.compile key criteria = .error error →
    Settles adapter state (s.all key criteria) (.error error)
  all : ∀ criteria query, s.compile key criteria = .ok query →
    Fetches adapter state (s.all key criteria) query.statement (decode query)
  uncompiledById : ∀ id error,
    s.compile key (criteriaById (s.schema.entity key) id) = .error error →
    Settles adapter state (s.get key id) (.error error)
  get : ∀ id query, s.compile key (criteriaById (s.schema.entity key) id) = .ok query →
    Fetches adapter state (s.get key id) query.statement fun rows => decode query rows >>= first
  /-- data that is no object is neither added nor taken as a change -/
  refused : ∀ data : Payload, (∀ members, data ≠ .ok (.object members)) → ∃ error,
    Settles adapter state (s.add key data) (.error (.mapping error)) ∧
      ∀ id, Settles adapter state (s.update key id data) (.error (.mapping error))
  /-- the last id is asked for only behind a row that was added -/
  add : ∀ members, Executes adapter state (s.add key (.ok (.object members)))
    (((s.schema.entity key).insertion ((s.schema.entity key).bindings members)).render
      s.target.dialect)
    (fun added => [.lastId (adapter.lastId added)]) fun _ added => .ok (adapter.lastId added)
  unchanged : ∀ id members, ¬ (s.schema.entity key).Assigns members →
    Settles adapter state (s.update key id (.ok (.object members))) (.ok 0)
  update : ∀ id members, (s.schema.entity key).Assigns members → ∃ statement,
    ((s.schema.entity key).change id ((s.schema.entity key).bindings members)).render?
      s.target.dialect = some statement ∧
    Executes adapter state (s.update key id (.ok (.object members))) statement (fun _ => [])
      fun count _ => .ok count
  delete : ∀ id, Executes adapter state (s.delete key id)
    (((s.schema.entity key).removal id).render s.target.dialect) (fun _ => [])
    fun count _ => .ok count

lemma executes_execute {statement : Statement} {next : UInt64 → Action α}
    {after : σ → List Exchange} {finish : UInt64 → σ → Except StoreError α}
    (hafter : ∀ count state, (next count).exchanges adapter state = after state)
    (hquiet : ∀ state, (after state).filterMap Exchange.call? = [])
    (hfinish : ∀ count state, ((next count).run adapter state).1 = finish count state) :
    Executes adapter state (execute statement next) statement after finish := by
  have honce : (execute statement next).exchanges adapter state =
      .execute statement (adapter.execute statement state).1 ::
        match (adapter.execute statement state).1 with
        | .ok _ => after (adapter.execute statement state).2
        | .error _ => [] := by
    rw [execute, exchanges]
    rcases adapter.execute statement state with ⟨reason | count, changed⟩
    · rfl
    · exact congrArg _ (hafter count changed)
  refine ⟨honce, ?_, ?_⟩
  · rw [calls_run, honce, List.filterMap_cons]
    rcases (adapter.execute statement state).1 with reason | count
    · rfl
    · exact congrArg _ (hquiet _)
  · rw [execute, run]
    rcases adapter.execute statement state with ⟨reason | count, changed⟩
    · rfl
    · exact hfinish count changed

variable {s : Store} {key : EntityKey}

lemma settles_all {criteria : Criteria} {error : StoreError}
    (h : s.compile key criteria = .error error) :
    Settles adapter state (s.all key criteria) (.error error) := by
  rw [all, h]
  exact settles_done _

lemma fetches_all {criteria : Criteria} {query : CompiledQuery}
    (h : s.compile key criteria = .ok query) :
    Fetches adapter state (s.all key criteria) query.statement (decode query) := by
  have honce : (s.all key criteria).exchanges adapter state =
      [.fetch query.statement (adapter.fetch query.statement state).1] := by
    rw [all, h, attempt, exchanges]
    rcases adapter.fetch query.statement state with ⟨reason | rows, changed⟩ <;> rfl
  refine ⟨honce, by rw [calls_run, honce]; rfl, ?_⟩
  rw [all, h, attempt, run]
  rcases adapter.fetch query.statement state with ⟨reason | rows, changed⟩ <;> rfl

lemma get_eq (id : Value) :
    s.get key id = (s.all key (criteriaById (s.schema.entity key) id)).mapResult first := by
  rw [get]
  congr

/-- Data that is no object has a reason why it cannot be bound. -/
lemma bind_eq_error (e : Entity) {data : Payload} (h : ∀ members, data ≠ .ok (.object members)) :
    ∃ error, e.bind data = .error error := by
  rcases data with reason | json
  · exact ⟨_, rfl⟩
  cases json with
  | object members => exact absurd rfl (h members)
  | _ => exact ⟨_, rfl⟩

/-- **An operation asks at most once**: for nothing where a query does not compile, data is no
object or nothing is assigned, else for the one statement that was compiled or rendered. -/
theorem asks_once (s : Store) (adapter : Adapter σ) (state : σ) (key : EntityKey) :
    s.AsksOnce adapter state key where
  uncompiled _ _ h := settles_all h
  all _ _ h := fetches_all h
  uncompiledById id error h := by
    rw [get_eq]
    exact (settles_all h).mapResult first
  get id query h := by
    rw [get_eq]
    exact (fetches_all h).mapResult first
  refused data h := by
    obtain ⟨error, hbind⟩ := bind_eq_error (s.schema.entity key) h
    refine ⟨error, ?_, fun id => ?_⟩
    · rw [add, hbind]
      exact settles_done _
    · rw [update, hbind]
      exact settles_done _
  add members := executes_execute (fun _ _ => rfl) (fun _ => rfl) fun _ _ => rfl
  unchanged id members h := by
    rw [← Entity.isSome_render?_change id s.target.dialect, Bool.not_eq_true,
      Option.isSome_eq_false_iff, Option.isNone_iff_eq_none] at h
    simp only [update, Entity.bind, Except.mapError, attempt, h]
    exact settles_done _
  update id members h := by
    rw [← Entity.isSome_render?_change id s.target.dialect, Option.isSome_iff_exists] at h
    obtain ⟨statement, hstatement⟩ := h
    refine ⟨statement, hstatement, ?_⟩
    simp only [update, Entity.bind, Except.mapError, attempt, hstatement]
    exact executes_execute (fun _ _ => rfl) (fun _ => rfl) fun _ _ => rfl
  delete id := executes_execute (fun _ _ => rfl) (fun _ => rfl) fun _ _ => rfl

end Store

end RelationQuery
