import RelationQuery.Proofs.Query.RecordKeys
import RelationQuery.Proofs.Text.Undotted
import RelationQuery.Store.Basic

/-!
The columns of an entity's table, as reading and writing name them. A query selects a field's
column under the bare name that is left when the qualifier is split off, and it finds the row of
an id in the same way. What is written goes to the name as a whole, and the row to be changed or
removed is found by the id column as it is declared. Both name the same columns exactly where there
is no qualifier to split off, and no case to convert in the name of the id column.
-/

namespace RelationQuery

namespace Text

lemma splitLastDot_fst_eq_none_iff {text : List Char} :
    (splitLastDot text).1 = none ↔ '.' ∉ text := by
  constructor
  · intro h
    induction text with
    | nil => exact List.not_mem_nil
    | cons c rest ih =>
      unfold splitLastDot at h
      split at h
      · cases h
      · rename_i hrest
        rw [hrest] at ih
        split at h
        · cases h
        · rename_i hdot
          rw [List.mem_cons, not_or]
          exact ⟨Ne.symm hdot, ih rfl⟩
  · intro h
    rw [splitLastDot_eq_of_not_mem h]

lemma splitQualified_fst_eq_none_iff {name : String} :
    (splitQualified name).1 = none ↔ Undotted name := by
  rw [splitQualified, Option.map_eq_none_iff, splitLastDot_fst_eq_none_iff, Undotted]

lemma undotted_bareName (name : String) : Undotted (bareName name) := by
  rw [Undotted, bareName, splitQualified, String.toList_ofList]
  exact dot_not_mem_splitLastDot name.toList

lemma bareName_eq_self_iff {name : String} : bareName name = name ↔ Undotted name := by
  constructor
  · intro h
    rw [← h]
    exact undotted_bareName name
  · intro h
    rw [bareName, splitQualified_of_undotted h]

/-- The bare name is converted, the qualifier stays. -/
lemma splitQualified_applyQualified {fieldCase : FieldCase} {name : String}
    (h : Undotted (fieldCase.apply (bareName name))) :
    splitQualified (fieldCase.applyQualified name) =
      ((splitQualified name).1, fieldCase.apply (bareName name)) := by
  rw [bareName] at h
  rw [FieldCase.applyQualified, bareName]
  cases hsplit : splitQualified name with
  | mk qualifier bare =>
    rw [hsplit] at h
    cases qualifier with
    | none => exact splitQualified_of_undotted h
    | some qualifier =>
      have hdot : (qualifier ++ "." ++ fieldCase.apply bare).toList =
          qualifier.toList ++ '.' :: (fieldCase.apply bare).toList := by
        simp
      simp only
      rw [splitQualified, hdot, splitLastDot_append _ h]
      simp

lemma splitQualified_applyQualified_snake (name : String) :
    splitQualified (FieldCase.snake.applyQualified name) =
      ((splitQualified name).1, snake (bareName name)) :=
  splitQualified_applyQualified (undotted_snake _)

end Text

/-- The column that a filter restricts; the left one of two. -/
def Filter.subject : Filter → Column
  | .compare column _ _ => column
  | .columns left _ _ => left
  | .like column _ => column
  | .oneOf column _ => column
  | .isNull column _ => column
  | .between column _ _ => column

namespace Entity

variable {e : Entity}

lemma name_column (e : Entity) (field : String) :
    (e.column field).name = Text.bareName (e.columnName field) := rfl

lemma bareName_columnName (e : Entity) (field : String) : Text.bareName (e.columnName field) =
    match e.fieldCase with
    | .camel => Text.snake (Text.bareName field)
    | .snake => Text.bareName field := by
  unfold columnName
  cases e.fieldCase with
  | snake => rfl
  | camel =>
    simp only
    rw [Text.bareName, Text.splitQualified_applyQualified_snake]

lemma undotted_columnName {field : String} :
    Text.Undotted (e.columnName field) ↔ Text.Undotted field := by
  unfold columnName
  cases e.fieldCase with
  | snake => exact Iff.rfl
  | camel =>
    rw [← Text.splitQualified_fst_eq_none_iff, Text.splitQualified_applyQualified_snake,
      Text.splitQualified_fst_eq_none_iff]

/-- A field is written to the column that it is selected from. -/
lemma name_column_eq_columnName_iff {field : String} :
    (e.column field).name = e.columnName field ↔ Text.Undotted field := by
  rw [name_column, Text.bareName_eq_self_iff, undotted_columnName]

/-- The id is looked up by the column that it is declared under. -/
lemma name_column_eq_self_iff {name : String} : (e.column name).name = name ↔
    Text.Undotted name ∧ (e.fieldCase = .camel → Text.snake name = name) := by
  rw [name_column, bareName_columnName]
  cases e.fieldCase with
  | snake => simp [Text.bareName_eq_self_iff]
  | camel =>
    simp only [forall_const]
    constructor
    · intro h
      have hundotted : Text.Undotted name := by
        rw [← h]
        exact Text.undotted_snake _
      rw [Text.bareName_eq_self_iff.mpr hundotted] at h
      exact ⟨hundotted, h⟩
    · rintro ⟨hundotted, hsnake⟩
      rw [Text.bareName_eq_self_iff.mpr hundotted, hsnake]

/-! ### Reading and writing -/

/-- The columns that a query selects for the fields of its own entity. -/
def selected (e : Entity) (plan : Plan) (t : Target) : List (String × String) :=
  e.fields.zip ((plan.select t).items.map SelectItem.resultName)

/-- What data sets are the columns that every query selects for the same fields. -/
def FieldsAlike (e : Entity) : Prop :=
  ∀ g criteria plan t, Plan.ofGraph e g criteria = .ok plan → ∀ members,
    e.fields ≠ [] → e.bindings members = (e.selected plan t).filterMap fun (field, column) =>
      (Members.get? field members).map fun value => (column, .ofJson value)

/-- The row of an id is looked up, changed and removed by one column. -/
def IdAlike (e : Entity) : Prop :=
  ∀ g id plan t, Plan.ofGraph e g (Store.criteriaById e id) = .ok plan → ∀ columns,
    let readBy := (plan.select t).filters.map fun filter => filter.subject.name
    (e.change id columns).filters.map (fun filter => filter.subject.name) = readBy ∧
      (e.removal id).filters.map (fun filter => filter.subject.name) = readBy

variable {g : Graph} {criteria : Criteria} {plan : Plan}

/-- The columns of an entity's own fields come first, whatever else is selected. -/
lemma selected_eq (hplan : Plan.ofGraph e g criteria = .ok plan) (t : Target) :
    e.selected plan t = e.fields.map fun field => (field, (e.column field).name) := by
  obtain ⟨rfl, -, -⟩ := Plan.gathers_of_ofGraph hplan
  have hitems : (plan.select t).items.map SelectItem.resultName =
      plan.root.fields.map (fun field => (plan.root.column field).name) ++
        (plan.parts.flatMap (Plan.items t)).map SelectItem.resultName := by
    simp [Plan.select, SelectItem.resultName]
  rw [selected, hitems]
  induction plan.root.fields with
  | nil => rfl
  | cons field rest ih =>
    rw [List.map_cons, List.cons_append, List.zip_cons_cons, ih, List.map_cons]

/-- A query without relations can always be planned. -/
lemma ofGraph_bare (e : Entity) (criteria : Criteria) :
    Plan.ofGraph e { root := e.tableRef } criteria = .ok ⟨e, [], criteria⟩ := rfl

lemma bindings_of_fields (hfields : e.fields ≠ []) (members : List (String × Json)) :
    e.bindings members = e.fields.filterMap fun field =>
      (Members.get? field members).map fun value => (e.columnName field, .ofJson value) := by
  rw [bindings, if_neg (by simpa using hfields)]

lemma fieldsAlike_iff : e.FieldsAlike ↔
    ∀ field ∈ e.fields, (e.column field).name = e.columnName field := by
  constructor
  · intro h field hfield
    -- data that holds this field alone
    have hsame := h _ {} _ (.ofDialect .sqlite) (ofGraph_bare e {}) [(field, .null)]
      (List.ne_nil_of_mem hfield)
    rw [bindings_of_fields (List.ne_nil_of_mem hfield), selected_eq (ofGraph_bare e {}),
      List.filterMap_map] at hsame
    have hwritten : (e.columnName field, Value.null) ∈ e.fields.filterMap fun other =>
        (Members.get? other [(field, Json.null)]).map fun value =>
          (e.columnName other, Value.ofJson value) := by
      refine List.mem_filterMap.mpr ⟨field, hfield, ?_⟩
      simp [Members.get?_cons, Value.ofJson]
    rw [hsame, List.mem_filterMap] at hwritten
    obtain ⟨other, -, hother⟩ := hwritten
    obtain rfl | hne := eq_or_ne other field
    · simp only [Function.comp_apply, Members.get?_cons, if_true, Option.map_some,
        Option.some.injEq, Prod.mk.injEq] at hother
      exact hother.1
    · simp [Members.get?_cons, hne, Members.get?_nil] at hother
  · intro h g criteria plan t hplan members hfields
    rw [bindings_of_fields hfields, selected_eq hplan, List.filterMap_map]
    refine List.filterMap_congr fun field hfield => ?_
    simp [h field hfield]

lemma filters_byId {id : Value} (hplan : Plan.ofGraph e g (Store.criteriaById e id) = .ok plan)
    (t : Target) : (plan.select t).filters = [.eq (e.column e.idColumn) id] := by
  obtain ⟨rfl, hcriteria, -⟩ := Plan.gathers_of_ofGraph hplan
  rw [Plan.select, hcriteria]
  rfl

lemma idAlike_iff : e.IdAlike ↔ (e.column e.idColumn).name = e.idColumn := by
  constructor
  · intro h
    have hsame := (h _ .null _ (.ofDialect .sqlite) (ofGraph_bare e _) []).2
    rw [filters_byId (ofGraph_bare e _)] at hsame
    exact (List.cons.inj hsame).1.symm
  · intro h g id plan t hplan columns
    rw [filters_byId hplan]
    simp only [change, removal, byId, Filter.eq, Filter.subject, Column.bare, List.map_cons,
      List.map_nil, h, and_self]

/-- **Where reading and writing agree**: on the fields exactly where none has a qualifier, and on
the id exactly where its column has none and is spelt in snake case if the fields are not. -/
theorem alike_iff (e : Entity) :
    (e.FieldsAlike ↔ ∀ field ∈ e.fields, Text.Undotted field) ∧
      (e.IdAlike ↔ Text.Undotted e.idColumn ∧
        (e.fieldCase = .camel → Text.snake e.idColumn = e.idColumn)) := by
  constructor
  · rw [fieldsAlike_iff]
    exact forall₂_congr fun _ _ => name_column_eq_columnName_iff
  · rw [idAlike_iff, name_column_eq_self_iff]

/-- `u.Email` is selected as `Email` and set as `u.Email`; the id `itemId` is looked up as `item_id`
and otherwise used as it stands. -/
theorem qualified_field_not_alike :
    let mixed : Entity := {
      name := "mixed", table := "mixed", asName := "mx", fields := ["ID", "u.Email"] }
    let items : Entity := {
      name := "item", table := "items", asName := "i", idColumn := "itemId"
      fields := ["itemId"], fieldCase := .camel }
    ¬ mixed.FieldsAlike ∧ ¬ items.IdAlike := by
  intro mixed items
  rw [fieldsAlike_iff, idAlike_iff]
  decide

end Entity

end RelationQuery
