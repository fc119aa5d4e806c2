import RelationQuery.Proofs.Aggregation.Keys
import RelationQuery.Proofs.Query.Parts

/-!
What is decided and what is written. A query can also be compiled in one pass, where every nested
array is written for the target as soon as its level is read, so that the template which refuses
keys already holds written text. Both ways come to the same query: the text never has a say in what
is refused, left out or named. So neither the target nor the criteria of the caller do.
-/

namespace RelationQuery

/-! ### Levels in one pass -/

/-- The level with its nested arrays written into its objects. -/
def Level.written (t : Target) (l : Level) : Level :=
  { l with columns := l.object t, nested := [] }

namespace Outline

mutual

/-- The level of an outline, each nested array written before the next level is read. -/
def write (t : Target) : Outline → Except CompileError (Option Level)
  | ⟨root, members, nested⟩ => do
    if !root.many then throw (root.unresolvable .notMany)
    if root.bridge && root.next.isNone then throw (root.unresolvable .bridgeWithoutTarget)
    let correlation ← root.correlation
    let name := name root members
    if !selectsColumns root members && nested.isEmpty then return none
    let joins ← members.mapM Edge.join
    let columns ← ObjectTemplate.insertAll name {} ((columnOrder root members).flatMap slots)
    let object ← writeNested t name columns nested
    return some ⟨root.target, root.kind, name, correlation, joins, object, []⟩

/-- Puts the arrays of nested levels into the objects of the level called `name`. -/
def writeNested (t : Target) (name : String) (object : ObjectTemplate) :
    List Outline → Except CompileError ObjectTemplate
  | [] => return object
  | outline :: rest => do
    match ← outline.write t with
    | none => writeNested t name object rest
    | some level =>
      let extended ← object.insert name level.name (.subquery (level.scalar t))
      writeNested t name extended rest

end

end Outline

namespace Level

variable (t : Target) (l : Level)

@[simp] lemma name_written : (l.written t).name = l.name := rfl

@[simp] lemma object_written : (l.written t).object t = l.object t := by
  simp [object, written, nestedSlots]

lemma scalar_eq :
    l.scalar t = ((l.scalarSelect ((l.object t).aggregate t)).render t.dialect).sql := by
  obtain ⟨table, kind, name, correlation, joins, columns, nested⟩ := l
  rw [scalar, object]

@[simp] lemma scalar_written : (l.written t).scalar t = l.scalar t := by
  rw [scalar_eq, scalar_eq, object_written]
  rfl

@[simp] lemma derived_written : (l.written t).derived t = l.derived t := by
  rw [derived, derived, object_written]
  rfl

@[simp] lemma joinClause_written : (l.written t).joinClause t = l.joinClause t := by
  rw [joinClause, joinClause, derived_written]
  rfl

end Level

namespace Outline

/-- The template that has taken in nested levels. -/
def filled (t : Target) (object : ObjectTemplate) (nested : List Level) : ObjectTemplate :=
  ⟨object.entries ++ Level.nestedSlots t nested⟩

lemma writeNested_eq {t : Target} {around : String} {outlines : List Outline}
    (ih : ∀ o ∈ outlines, o.write t = o.level.map (Option.map (Level.written t)))
    (object : ObjectTemplate) : writeNested t around object outlines =
      (levels around object.keys outlines).map (filled t object) := by
  induction outlines generalizing object with
  | nil =>
    obtain ⟨entries⟩ := object
    simp [writeNested, levels, filled, Level.nestedSlots, Except.map, pure, Except.pure]
  | cons o rest ihRest =>
    rw [List.forall_mem_cons] at ih
    rw [writeNested, levels, ih.1]
    cases o.level with
    | error error => rfl
    | ok result =>
      cases result with
      | none => exact ihRest ih.2 object
      | some l =>
        simp only [Except.map, Option.map_some, bind, Except.bind, Level.scalar_written,
          Level.name_written, ObjectTemplate.insert, throw, throwThe, MonadExceptOf.throw, pure,
          Except.pure]
        cases object.keys.contains l.name with
        | true => rfl
        | false =>
          -- the array is appended under its name, which is then taken on both sides
          have hkeys (slot : Slot) : ObjectTemplate.keys ⟨object.entries ++ [(l.name, slot)]⟩ =
              object.keys ++ [l.name] := by
            simp [ObjectTemplate.keys]
          simp only [Bool.false_eq_true, if_false]
          rw [ihRest ih.2, hkeys]
          cases levels around (object.keys ++ [l.name]) rest with
          | error error => rfl
          | ok others => simp [Except.map, filled, Level.nestedSlots]

/-- Writing as one goes comes to the level that is planned, written. -/
lemma write_eq (t : Target) (o : Outline) :
    o.write t = o.level.map (Option.map (Level.written t)) := by
  induction o using Outline.induction with
  | outline root members nested ih =>
    rw [write, level]
    simp only [bind, Except.bind, pure, Except.pure, throw, throwThe, MonadExceptOf.throw]
    split
    · rfl
    split
    · rfl
    cases root.correlation with
    | error error => rfl
    | ok correlation =>
      dsimp only
      split
      · rfl
      cases members.mapM Edge.join with
      | error error => rfl
      | ok joins =>
        dsimp only
        cases ObjectTemplate.insertAll (name root members) {}
            ((columnOrder root members).flatMap slots) with
        | error error => rfl
        | ok columns =>
          dsimp only
          rw [writeNested_eq ih]
          cases levels (name root members) columns.keys nested with
          | error error => rfl
          | ok inside => rfl

end Outline

/-! ### Queries in one pass -/

/-- The level that the edge `id` starts, written for a target. -/
def Graph.write (g : Graph) (t : Target) (id : Nat) : Except CompileError (Option Level) :=
  match g.edge? id with
  | some root => (Outline.ofEdge g root).write t
  | none => .ok none

lemma Graph.write_eq (g : Graph) (t : Target) (id : Nat) :
    g.write t id = (g.level id).map (Option.map (Level.written t)) := by
  rw [write, level]
  cases g.edge? id with
  | none => rfl
  | some root => exact Outline.write_eq t _

/-- A query while its edges are read. -/
structure Assembly where
  /-- the keys of records that are taken -/
  taken : List String
  select : Select
  relations : List String := []

namespace Assembly

/-- Adds a part of the query. -/
def add (t : Target) (a : Assembly) (taken : List String) (part : Part) : Assembly where
  taken := taken
  select := { a.select with
    items := a.select.items ++ Plan.items t part
    joins := a.select.joins ++ [Plan.joinClause t part] }
  relations := a.relations ++ (Plan.relation? part).toList

/-- Reads an edge, an array in the form that it is written in. -/
def step (t : Target) (root : Entity) (g : Graph) (p : Placement) (a : Assembly) (e : Edge) :
    Except CompileError Assembly := do
  if p.plain.contains e.id then
    let clause ← e.join
    let taken ← Plan.takeKeys root a.taken (e.columns.map Selection.outputName)
    return a.add t taken (.join clause (e.columns.map (Selection.item e.target.asName)))
  else if p.aggregations.contains e.id then
    match ← g.write t e.id with
    | none => return a
    | some level =>
      let taken ← Plan.takeKeys root a.taken [level.name]
      return a.add t taken (.aggregation level)
  else return a

/-- What has been read so far, apart from the keys. -/
def content (a : Assembly) : Select × List String := (a.select, a.relations)

/-- What there will be when the parts of a plan are added. -/
def extend (t : Target) (a : Assembly) (parts : List Part) : Select × List String :=
  ({ a.select with
      items := a.select.items ++ parts.flatMap (Plan.items t)
      joins := a.select.joins ++ parts.map (Plan.joinClause t) },
    a.relations ++ parts.filterMap Plan.relation?)

lemma extend_nil (t : Target) (a : Assembly) : a.extend t [] = a.content := by
  simp [extend, content]

lemma extend_add (t : Target) (a : Assembly) (taken : List String) (part : Part)
    (parts : List Part) : (a.add t taken part).extend t parts = a.extend t (part :: parts) := by
  cases hrelation : Plan.relation? part <;> simp [extend, add, hrelation]

lemma add_written (t : Target) (a : Assembly) (taken : List String) (l : Level) :
    a.add t taken (.aggregation (l.written t)) = a.add t taken (.aggregation l) := by
  rw [add, add, Plan.joinClause, Level.joinClause_written]
  rfl

/-- What an edge brings into a plan: nothing, or a part and the keys that are taken behind it. -/
def bring (root : Entity) (g : Graph) (p : Placement) (taken : List String) (e : Edge) :
    Except CompileError (Option (List String × Part)) := do
  if p.plain.contains e.id then
    let clause ← e.join
    let taken ← Plan.takeKeys root taken (e.columns.map Selection.outputName)
    return some (taken, .join clause (e.columns.map (Selection.item e.target.asName)))
  else if p.aggregations.contains e.id then
    match ← g.level e.id with
    | none => return none
    | some level =>
      let taken ← Plan.takeKeys root taken [level.name]
      return some (taken, .aggregation level)
  else return none

/-- Gathering goes on with what an edge brings. -/
lemma gather_cons (root : Entity) (g : Graph) (p : Placement) (taken : List String) (e : Edge)
    (rest : List Edge) : Plan.gather root g p taken (e :: rest) =
      match bring root g p taken e with
      | .error error => .error error
      | .ok none => Plan.gather root g p taken rest
      | .ok (some (next, part)) => (Plan.gather root g p next rest).map (part :: ·) := by
  rw [Plan.gather, bring]
  simp only [bind, Except.bind, pure, Except.pure]
  split
  · cases e.join with
    | error error => rfl
    | ok clause =>
      dsimp only
      cases Plan.takeKeys root taken (e.columns.map Selection.outputName) <;> rfl
  split
  · cases g.level e.id with
    | error error => rfl
    | ok result =>
      cases result with
      | none => rfl
      | some level =>
        dsimp only
        cases Plan.takeKeys root taken [level.name] <;> rfl
  · rfl

/-- The query goes on with what an edge brings, written for the target. -/
lemma step_eq (t : Target) (root : Entity) (g : Graph) (p : Placement) (a : Assembly) (e : Edge) :
    step t root g p a e =
      match bring root g p a.taken e with
      | .error error => .error error
      | .ok none => .ok a
      | .ok (some (next, part)) => .ok (a.add t next part) := by
  rw [step, bring, g.write_eq]
  simp only [bind, Except.bind, pure, Except.pure]
  split
  · cases e.join with
    | error error => rfl
    | ok clause =>
      dsimp only
      cases Plan.takeKeys root a.taken (e.columns.map Selection.outputName) <;> rfl
  split
  · cases g.level e.id with
    | error error => rfl
    | ok result =>
      cases result with
      | none => rfl
      | some level =>
        simp only [Except.map, Option.map_some, Level.name_written, add_written]
        cases Plan.takeKeys root a.taken [level.name] <;> rfl
  · rfl

/-- Reading the edges comes to what gathering their parts comes to. -/
lemma content_foldlM (t : Target) (root : Entity) (g : Graph) (p : Placement) (edges : List Edge)
    (a : Assembly) : (edges.foldlM (step t root g p) a).map content =
      (Plan.gather root g p a.taken edges).map (a.extend t) := by
  induction edges generalizing a with
  | nil => exact congrArg Except.ok (extend_nil t a).symm
  | cons e rest ih =>
    rw [List.foldlM_cons, gather_cons, step_eq]
    cases bring root g p a.taken e with
    | error error => rfl
    | ok brought =>
      cases brought with
      | none => exact ih a
      | some pair =>
        obtain ⟨next, part⟩ := pair
        -- what is behind the part extends the query that has the part already
        refine (ih (a.add t next part)).trans ?_
        show (Plan.gather root g p next rest).map _ =
          ((Plan.gather root g p next rest).map (part :: ·)).map _
        cases Plan.gather root g p next rest with
        | error error => rfl
        | ok parts => exact congrArg Except.ok (extend_add t a next part parts)

end Assembly

/-- The select with the criteria of a caller. -/
def Select.restrict (s : Select) (root : Entity) (criteria : Criteria) : Select :=
  { s with
    filters := criteria.filters root
    groupBy := criteria.groupBy.map root.column
    orderBy := criteria.orderBy.map fun (field, direction) => (root.column field, direction)
    limit := criteria.limit
    offset := criteria.offset }

namespace Graph

/-- Compiles a query in one pass over the edges. -/
def assemble (g : Graph) (root : Entity) (criteria : Criteria) (t : Target) :
    Except CompileError CompiledQuery :=
  match Plan.overflow? g with
  | some error => .error error
  | none => do
    let start : Assembly := {
      taken := root.fields.map root.fieldCase.apply
      select := {
        source := root.tableRef
        items := root.fields.map fun field => .column (root.column field) none } }
    let a ← g.edges.toList.foldlM (Assembly.step t root g (.ofGraph g)) start
    return ⟨(a.select.restrict root criteria).render t.dialect, a.relations, root.fieldCase⟩

variable (g : Graph) (root : Entity)

lemma assemble_eq (criteria : Criteria) (t : Target) :
    g.assemble root criteria t = g.compile root criteria t := by
  rw [assemble, compile, Plan.ofGraph]
  cases Plan.overflow? g with
  | some error => rfl
  | none =>
    dsimp only
    set start : Assembly := {
      taken := root.fields.map root.fieldCase.apply
      select := {
        source := root.tableRef
        items := root.fields.map fun field => .column (root.column field) none } }
    have hfold := Assembly.content_foldlM t root g (.ofGraph g) g.edges.toList start
    have htaken : start.taken = root.fields.map root.fieldCase.apply := rfl
    rw [htaken] at hfold
    simp only [bind, Except.bind, pure, Except.pure]
    cases hparts : Plan.gather root g (.ofGraph g) (root.fields.map root.fieldCase.apply)
        g.edges.toList with
    | error error =>
      rw [hparts] at hfold
      cases hread : g.edges.toList.foldlM (Assembly.step t root g (.ofGraph g)) start with
      | error other =>
        rw [hread] at hfold
        cases hfold
        rfl
      | ok a =>
        rw [hread] at hfold
        cases hfold
    | ok parts =>
      rw [hparts] at hfold
      cases hread : g.edges.toList.foldlM (Assembly.step t root g (.ofGraph g)) start with
      | error other =>
        rw [hread] at hfold
        cases hfold
      | ok a =>
        rw [hread] at hfold
        have hcontent := Except.ok.inj hfold
        have hselect : a.select = (start.extend t parts).1 := congrArg Prod.fst hcontent
        have hrelations : a.relations = (start.extend t parts).2 := congrArg Prod.snd hcontent
        simp only [hselect, hrelations, Except.map, Assembly.extend, start, List.nil_append]
        rfl

/-- What is decided about a query, its text apart. -/
lemma decisions_compile (criteria : Criteria) (t : Target) :
    (g.compile root criteria t).map (fun query => (query.relations, query.fieldCase)) =
      match Plan.overflow? g with
      | some error => .error error
      | none => (Plan.gather root g (.ofGraph g) (root.fields.map root.fieldCase.apply)
          g.edges.toList).map fun parts => (parts.filterMap Plan.relation?, root.fieldCase) := by
  rw [compile, Plan.ofGraph]
  cases Plan.overflow? g with
  | some error => rfl
  | none =>
    dsimp only
    cases Plan.gather root g (.ofGraph g) (root.fields.map root.fieldCase.apply)
      g.edges.toList <;> rfl

/-- What is decided about a level, its text apart. -/
lemma decisions_write (t : Target) (id : Nat) :
    (g.write t id).map (Option.map fun l => (l.name, l.key, l.correlation, l.kind)) =
      (g.level id).map (Option.map fun l => (l.name, l.key, l.correlation, l.kind)) := by
  rw [write_eq]
  cases g.level id with
  | error error => rfl
  | ok result => cases result <;> rfl

/-- **What compiles depends on the graph alone.** Whatever the target and the criteria, a query is
refused with the same error or has the same relations and the same convention for its keys, and a
level is refused with the same error, left out, or has the same name, key, correlation and kind of
join: also where their texts are written for the target while the edges are read. -/
theorem decided_alike (criteria criteria' : Criteria) (t t' : Target) :
    (g.assemble root criteria t = g.compile root criteria t ∧
      (g.compile root criteria t).map (fun query => (query.relations, query.fieldCase)) =
        (g.compile root criteria' t').map fun query => (query.relations, query.fieldCase)) ∧
    ∀ id, g.write t id = (g.level id).map (Option.map (Level.written t)) ∧
      (g.write t id).map (Option.map fun l => (l.name, l.key, l.correlation, l.kind)) =
        (g.write t' id).map (Option.map fun l => (l.name, l.key, l.correlation, l.kind)) := by
  refine ⟨⟨g.assemble_eq root criteria t, ?_⟩, fun id => ⟨g.write_eq t id, ?_⟩⟩
  · rw [decisions_compile, decisions_compile]
  · rw [decisions_write, decisions_write]

end Graph

end RelationQuery
