import RelationQuery.Proofs.Members
import RelationQuery.Proofs.Record.Columns
import RelationQuery.Proofs.Store.Exchanges

/-!
What is written of JSON data. Adding a record and changing one name a column once, with the value
of one member of the data, whenever the members that are meant for columns are meant for different
ones. Declared fields that stand for different columns see to that. Without declared fields every
scalar member is taken, and in camel case several keys may be spellings of one column: then the
column is named once for each of them.
-/

namespace RelationQuery

lemma Value.isNull_ofJson {json : Json} : (ofJson json).isNull = true ↔ json = .null := by
  cases json with
  | integer n =>
    rw [ofJson, ofInteger]
    cases int64? n <;> simp [isNull]
  | _ => simp [ofJson, isNull]

namespace Entity

variable {e : Entity} {members : List (String × Json)} {m m' : String × Json}

/-! ### Taken members -/

/-- The column that a member is meant for, with the value that it is set to. -/
def binding (e : Entity) (m : String × Json) : String × Value := (e.columnName m.1, .ofJson m.2)

/-- A member of the data is meant for a column: it is named by a declared field or, where none is
declared, a scalar. -/
def Takes (e : Entity) (m : String × Json) : Prop :=
  if e.fields = [] then m.2.isScalar = true else m.1 ∈ e.fields

/-- The members that are meant for columns, in the order of these. -/
def taken (e : Entity) (members : List (String × Json)) : List (String × Json) :=
  if e.fields = [] then members.filter fun m => m.2.isScalar
  else e.fields.filterMap fun field => (Members.get? field members).map fun value => (field, value)

lemma bindings_eq (e : Entity) (members : List (String × Json)) :
    e.bindings members = (e.taken members).map e.binding := by
  unfold bindings taken
  by_cases hfields : e.fields = []
  · simp [hfields, binding]
  · rw [if_neg (by simpa using hfields), if_neg hfields, List.map_filterMap]
    simp [binding, Function.comp_def]

lemma mem_taken (hkeys : (members.map Prod.fst).Nodup) :
    m ∈ e.taken members ↔ m ∈ members ∧ e.Takes m := by
  unfold taken Takes
  split
  · rw [List.mem_filter]
  · simp only [List.mem_filterMap, Option.map_eq_some_iff, Members.get?_eq_some_iff hkeys]
    constructor
    · rintro ⟨field, hfield, value, hmem, rfl⟩
      exact ⟨hmem, hfield⟩
    · rintro ⟨hmem, hfield⟩
      exact ⟨m.1, hfield, m.2, hmem, rfl⟩

lemma nodup_taken (hkeys : (members.map Prod.fst).Nodup) (hfields : e.fields.Nodup) :
    (e.taken members).Nodup := by
  unfold taken
  split
  · exact hkeys.of_map.filter _
  · refine hfields.filterMap fun field field' m hm hm' => ?_
    obtain ⟨_, -, rfl⟩ := Option.map_eq_some_iff.mp hm
    obtain ⟨_, -, hsame⟩ := Option.map_eq_some_iff.mp hm'
    exact (congrArg Prod.fst hsame).symm

/-! ### Columns that are named once -/

/-- Every column of a statement is named once, with the value of exactly one of the members that
are meant for columns. -/
structure NamesOnce (e : Entity) (members : List (String × Json))
    (written : List (String × Value)) : Prop where
  distinct : (written.map Prod.fst).Nodup
  source : ∀ pair ∈ written, ∃! m, m ∈ members ∧ e.Takes m ∧ e.binding m = pair

/-- What adding and changing a record write of its data. -/
structure WritesOnce (e : Entity) (members : List (String × Json)) : Prop where
  inserted : e.NamesOnce members (e.insertion (e.bindings members)).values
  assigned : ∀ id, e.NamesOnce members (e.change id (e.bindings members)).assignments
  /-- of the declared fields nothing but a null id is left out of a new record -/
  insertsFields : ∀ m ∈ members, m.1 ∈ e.fields →
    e.binding m ∈ (e.insertion (e.bindings members)).values ∨
      e.columnName m.1 = e.idColumn ∧ m.2 = .null
  /-- and nothing but the id of a change -/
  assignsFields : ∀ id, ∀ m ∈ members, m.1 ∈ e.fields →
    e.binding m ∈ (e.change id (e.bindings members)).assignments ∨
      e.columnName m.1 = e.idColumn
  keepsId : ∀ id, e.idColumn ∉ (e.change id (e.bindings members)).assignments.map Prod.fst

/-- Scalar members of an entity without declared fields are meant for different columns, unless
one is a null id. -/
def ToldApart (e : Entity) (members : List (String × Json)) : Prop :=
  e.fields = [] → ∀ m ∈ members, ∀ m' ∈ members, m.2.isScalar = true → m'.2.isScalar = true →
    e.columnName m.1 = e.columnName m'.1 →
      m = m' ∨ e.columnName m.1 = e.idColumn ∧ (m.2 = .null ∨ m'.2 = .null)

section Filter

variable (hkeys : (members.map Prod.fst).Nodup) (hfields : e.fields.Nodup)
  (test : String × Value → Bool)
include hkeys hfields

/-- Of the bindings that pass a test, each has a column of its own exactly if the members behind
them do. -/
lemma nodup_filter_iff : (((e.bindings members).filter test).map Prod.fst).Nodup ↔
    ∀ m ∈ e.taken members, ∀ m' ∈ e.taken members, test (e.binding m) = true →
      test (e.binding m') = true → e.columnName m.1 = e.columnName m'.1 → m = m' := by
  have hcolumns : ((e.bindings members).filter test).map Prod.fst =
      ((e.taken members).filter (test ∘ e.binding)).map fun m => e.columnName m.1 := by
    rw [bindings_eq, List.filter_map, List.map_map]
    rfl
  rw [hcolumns, List.nodup_map_iff_inj_on ((nodup_taken hkeys hfields).filter _)]
  simp only [List.mem_filter, Function.comp_apply, and_imp]
  exact ⟨fun h m hm m' hm' ht ht' => h m hm ht m' hm' ht',
    fun h m hm ht m' hm' ht' => h m hm m' hm' ht ht'⟩

/-- Columns that are named once have one source each. -/
lemma namesOnce_filter_iff : e.NamesOnce members ((e.bindings members).filter test) ↔
    (((e.bindings members).filter test).map Prod.fst).Nodup := by
  refine ⟨NamesOnce.distinct, fun h => ⟨h, fun pair hpair => ?_⟩⟩
  rw [nodup_filter_iff hkeys hfields] at h
  rw [bindings_eq, List.mem_filter, List.mem_map] at hpair
  obtain ⟨⟨m, htaken, rfl⟩, htest⟩ := hpair
  obtain ⟨hmem, htakes⟩ := (mem_taken hkeys).mp htaken
  refine ⟨m, ⟨hmem, htakes, rfl⟩, ?_⟩
  rintro m' ⟨hmem', htakes', hsame⟩
  have htaken' := (mem_taken hkeys).mpr ⟨hmem', htakes'⟩
  exact h m' htaken' m htaken (hsame ▸ htest) htest (congrArg Prod.fst hsame)

end Filter

/-- A new record gets everything but a null id. -/
lemma inserts_iff : (!((e.binding m).1 == e.idColumn && (e.binding m).2.isNull)) = true ↔
    (e.columnName m.1 = e.idColumn → m.2 ≠ .null) := by
  rw [Bool.not_eq_true', Bool.and_eq_false_imp, beq_iff_eq, binding, ← Bool.not_eq_true,
    Value.isNull_ofJson]

section Distinct

variable (hkeys : (members.map Prod.fst).Nodup) (hcolumns : (e.fields.map e.columnName).Nodup)
include hkeys

lemma binding_mem_bindings (hm : m ∈ members) (hfield : m.1 ∈ e.fields) :
    e.binding m ∈ e.bindings members := by
  have htakes : e.Takes m := by
    rw [Takes, if_neg (List.ne_nil_of_mem hfield)]
    exact hfield
  rw [bindings_eq]
  exact List.mem_map_of_mem ((mem_taken hkeys).mpr ⟨hm, htakes⟩)

include hcolumns

/-- Members that are told apart are not meant for one column, null ids aside. -/
lemma ToldApart.eq (h : e.ToldApart members) (hm : m ∈ e.taken members)
    (hm' : m' ∈ e.taken members) (hcolumn : e.columnName m.1 = e.columnName m'.1)
    (hnull : e.columnName m.1 = e.idColumn → m.2 ≠ .null ∧ m'.2 ≠ .null) : m = m' := by
  rw [mem_taken hkeys, Takes] at hm hm'
  by_cases hfields : e.fields = []
  · rw [if_pos hfields] at hm hm'
    rcases h hfields m hm.1 m' hm'.1 hm.2 hm'.2 hcolumn with hsame | ⟨hid, hmnull | hmnull'⟩
    · exact hsame
    · exact absurd hmnull (hnull hid).1
    · exact absurd hmnull' (hnull hid).2
  · rw [if_neg hfields] at hm hm'
    have hfield : m.1 = m'.1 := List.inj_on_of_nodup_map hcolumns hm.2 hm'.2 hcolumn
    exact List.inj_on_of_nodup_map hkeys hm.1 hm'.1 hfield

lemma namesOnce_insertion_iff :
    e.NamesOnce members (e.insertion (e.bindings members)).values ↔ e.ToldApart members := by
  rw [insertion, namesOnce_filter_iff hkeys hcolumns.of_map, nodup_filter_iff hkeys hcolumns.of_map]
  simp only [inserts_iff]
  constructor
  · intro h hfields m hm m' hm' hscalar hscalar' hcolumn
    have htaken : ∀ m ∈ members, m.2.isScalar = true → m ∈ e.taken members := by
      intro m hm hscalar
      refine (mem_taken hkeys).mpr ⟨hm, ?_⟩
      rw [Takes, if_pos hfields]
      exact hscalar
    by_cases hnull : e.columnName m.1 = e.idColumn ∧ (m.2 = .null ∨ m'.2 = .null)
    · exact .inr hnull
    · exact .inl (h m (htaken m hm hscalar) m' (htaken m' hm' hscalar')
        (fun hid hmnull => hnull ⟨hid, .inl hmnull⟩)
        (fun hid hmnull => hnull ⟨hcolumn.trans hid, .inr hmnull⟩) hcolumn)
  · intro h m hm m' hm' hm_kept hm'_kept hcolumn
    exact h.eq hkeys hcolumns hm hm' hcolumn fun hid =>
      ⟨hm_kept hid, hm'_kept (hcolumn.symm.trans hid)⟩

lemma namesOnce_change (h : e.ToldApart members) (id : Value) :
    e.NamesOnce members (e.change id (e.bindings members)).assignments := by
  rw [change, namesOnce_filter_iff hkeys hcolumns.of_map, nodup_filter_iff hkeys hcolumns.of_map]
  intro m hm m' hm' hother _ hcolumn
  exact h.eq hkeys hcolumns hm hm' hcolumn fun hid => absurd hid (by simpa [binding] using hother)

lemma writesOnce_iff : e.WritesOnce members ↔ e.ToldApart members := by
  rw [← namesOnce_insertion_iff hkeys hcolumns]
  refine ⟨WritesOnce.inserted, fun h => ?_⟩
  have happart := (namesOnce_insertion_iff hkeys hcolumns).mp h
  refine ⟨h, namesOnce_change hkeys hcolumns happart, fun m hm hfield => ?_,
    fun id m hm hfield => ?_, fun id hmem => ?_⟩
  · by_cases hnull : e.columnName m.1 = e.idColumn ∧ m.2 = .null
    · exact .inr hnull
    · exact .inl (List.mem_filter.mpr ⟨binding_mem_bindings hkeys hm hfield,
        inserts_iff.mpr fun hid hmnull => hnull ⟨hid, hmnull⟩⟩)
  · by_cases hid : e.columnName m.1 = e.idColumn
    · exact .inr hid
    · exact .inl ((mem_assignments_change id).mpr ⟨binding_mem_bindings hkeys hm hfield, hid⟩)
  · obtain ⟨pair, hpair, hid⟩ := List.mem_map.mp hmem
    exact ((mem_assignments_change id).mp hpair).2 hid

end Distinct

/-- Two spellings of one column in camel case. -/
lemma forall_toldApart_iff : (∀ members : List (String × Json), (members.map Prod.fst).Nodup →
      e.ToldApart members) ↔ (e.fields = [] → e.fieldCase = .snake) := by
  constructor
  · intro h hfields
    cases hcase : e.fieldCase with
    | snake => rfl
    | camel =>
      have hcolumn : ∀ name, e.columnName name = FieldCase.snake.applyQualified name := by
        intro name
        rw [columnName, hcase]
      have hsame := h [("aB", .bool true), ("a_b", .bool true)] (by decide) hfields
        ("aB", .bool true) (by simp) ("a_b", .bool true) (by simp) rfl rfl
        (by rw [hcolumn, hcolumn]; decide)
      simp at hsame
  · intro h members hkeys hfields m hm m' hm' _ _ hcolumn
    rw [columnName, columnName, h hfields] at hcolumn
    exact .inl (List.inj_on_of_nodup_map hkeys hm hm' hcolumn)

end Entity

/-! ### Operations -/

namespace Store

open RelationQuery.Action

/-- A record that is added or changed is handed over in one statement that sets what the data binds;
a change that assigns nothing is not handed over. -/
structure HandsOver (s : Store) (key : EntityKey) (members : List (String × Json)) : Prop where
  add : ∀ {σ : Type} (adapter : Adapter σ) (state : σ),
    ((s.add key (.ok (.object members))).run adapter state).2.1 =
      [.execute (((s.schema.entity key).insertion
        ((s.schema.entity key).bindings members)).render s.target.dialect)]
  update : ∀ {σ : Type} (adapter : Adapter σ) (state : σ) (id : Value),
    ((s.update key id (.ok (.object members))).run adapter state).2.1 =
      (((s.schema.entity key).change id
        ((s.schema.entity key).bindings members)).render? s.target.dialect).toList.map .execute

/-- Where nothing is called for afterwards, one statement is all that is handed over. -/
lemma calls_execute {α σ : Type} {adapter : Adapter σ} {statement : Statement}
    {next : UInt64 → Action α} {state : σ}
    (h : ∀ count state, ((next count).run adapter state).2.1 = []) :
    ((execute statement next).run adapter state).2.1 = [.execute statement] := by
  rw [execute, run]
  rcases adapter.execute statement state with ⟨reason | count, changed⟩
  · rfl
  · exact congrArg _ (h count changed)

lemma handsOver (s : Store) (key : EntityKey) (members : List (String × Json)) :
    s.HandsOver key members where
  add _ _ := calls_execute fun _ _ => rfl
  update adapter state id := by
    simp only [update, Entity.bind, Except.mapError, attempt]
    cases ((s.schema.entity key).change id
      ((s.schema.entity key).bindings members)).render? s.target.dialect with
    | none => rfl
    | some statement => exact calls_execute fun _ _ => rfl

/-- **Where columns are named once**: what is handed over for a new or a changed record with
declared fields, which stand for different columns, names none twice, whatever the data. Without
declared fields this is so exactly where the members of the data are told apart; they always are
exactly if fields are in snake case, as columns are. -/
theorem writes_once_iff (s : Store) (key : EntityKey)
    (hcolumns : ((s.schema.entity key).fields.map (s.schema.entity key).columnName).Nodup) :
    let e := s.schema.entity key
    (∀ members : List (String × Json), (members.map Prod.fst).Nodup →
      s.HandsOver key members ∧ (e.WritesOnce members ↔ e.ToldApart members)) ∧
    ((∀ members : List (String × Json), (members.map Prod.fst).Nodup → e.WritesOnce members) ↔
      (e.fields = [] → e.fieldCase = .snake)) := by
  intro e
  have hiff : ∀ members : List (String × Json), (members.map Prod.fst).Nodup →
      (e.WritesOnce members ↔ e.ToldApart members) :=
    fun _ hkeys => Entity.writesOnce_iff hkeys hcolumns
  refine ⟨fun members hkeys => ⟨s.handsOver key members, hiff members hkeys⟩, ?_⟩
  rw [← Entity.forall_toldApart_iff]
  exact forall₂_congr hiff

end Store

/-- Events with declared fields, and other entities without any, all in camel case. -/
def Schema.journal : Schema where
  entity key := {
    name := key, table := key ++ "s", asName := "the_" ++ key
    fields := if key = "event" then ["id", "createdAt", "kind"] else []
    fieldCase := .camel }
  relations _ := .done

theorem Store.writes_once_events :
    let s : Store := ⟨.ofDialect .sqlite, .journal⟩
    let e := s.schema.entity "event"
    let data := [("createdAt", Json.integer 1), ("created_at", .integer 2), ("id", .null)]
    (e.fields.map e.columnName).Nodup ∧ (data.map Prod.fst).Nodup ∧
      s.HandsOver "event" data ∧ e.WritesOnce data ∧
      e.insertion (e.bindings data) = ⟨"events", [("created_at", .integer 1)]⟩ := by
  intro s e data
  have hcolumns : (e.fields.map e.columnName).Nodup := by decide +kernel
  have hkeys : (data.map Prod.fst).Nodup := by decide
  obtain ⟨hdata, hall⟩ := writes_once_iff s "event" hcolumns
  have hfields : e.fields = [] → e.fieldCase = .snake := fun h => absurd h (by decide)
  exact ⟨hcolumns, hkeys, (hdata data hkeys).1, hall.mpr hfields data hkeys, by decide +kernel⟩

/-- Both members of the data are taken, and both are meant for `created_at`. -/
theorem Store.spellings_written_twice :
    let e := Schema.journal.entity "log"
    let data := [("createdAt", Json.integer 1), ("created_at", .integer 2)]
    e.fields = [] ∧ (data.map Prod.fst).Nodup ∧ ¬ e.WritesOnce data ∧
      (e.insertion (e.bindings data)).values.map Prod.fst = ["created_at", "created_at"] ∧
      ∀ id, (e.change id (e.bindings data)).assignments.map Prod.fst =
        ["created_at", "created_at"] := by
  intro e data
  have hcolumns : (e.insertion (e.bindings data)).values.map Prod.fst =
      ["created_at", "created_at"] := by decide +kernel
  have hassigned : (e.change .null (e.bindings data)).assignments.map Prod.fst =
      ["created_at", "created_at"] := by decide +kernel
  refine ⟨rfl, by decide, fun h => ?_, hcolumns, fun _ => hassigned⟩
  have hdistinct := h.inserted.distinct
  rw [hcolumns] at hdistinct
  exact absurd hdistinct (by decide)

end RelationQuery
