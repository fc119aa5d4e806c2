import RelationQuery.Proofs.Query.Parts
import RelationQuery.Proofs.Record.Decoding

/-!
The keys that plans reserve against the keys that records use. A plan takes one key for every
column it adds to the root's own, and none twice. For the root's own fields it reserves the keys
of the names that they are declared under, while records use those of their columns, which have
no qualifier. Rows are decoded without loss exactly if this difference lets no two columns meet.
-/

namespace RelationQuery

/-- The name that the item's column has in the answer. -/
def SelectItem.resultName : SelectItem → String
  | .column c asName => asName.getD c.name
  | .expression sql asName => asName.getD sql

namespace Plan

/-- The columns of the answer that come from a part. -/
def partColumns : Part → List ResultColumn
  | .join _ items => items.map fun item => ⟨item.resultName, false⟩
  | .aggregation level => [⟨level.name, true⟩]

/-- The columns of the answer that come from the root's own fields. -/
def fieldColumns (root : Entity) : List ResultColumn :=
  root.fields.map fun field => ⟨(root.column field).name, false⟩

/-- The columns of the answer. -/
def columns (plan : Plan) : List ResultColumn :=
  fieldColumns plan.root ++ plan.parts.flatMap partColumns

lemma map_resultName (t : Target) (plan : Plan) :
    (plan.select t).items.map SelectItem.resultName = plan.columns.map ResultColumn.name := by
  have hparts : (plan.parts.flatMap (items t)).map SelectItem.resultName =
      (plan.parts.flatMap partColumns).map ResultColumn.name := by
    induction plan.parts with
    | nil => rfl
    | cons part rest ih =>
      rw [List.flatMap_cons, List.flatMap_cons, List.map_append, List.map_append, ih]
      cases part <;> simp [items, partColumns, SelectItem.resultName]
  simp [select, columns, fieldColumns, hparts, SelectItem.resultName]

/-- The columns that hold arrays are those that the query names as relations. -/
lemma relations_compile (t : Target) (plan : Plan) : (plan.compile t).relations =
    (plan.columns.filter ResultColumn.array).map ResultColumn.name := by
  have hfields : (fieldColumns plan.root).filter ResultColumn.array = [] := by
    simp [fieldColumns]
  rw [columns, List.filter_append, hfields, List.nil_append, compile]
  induction plan.parts with
  | nil => rfl
  | cons part rest ih =>
    rw [List.filterMap_cons, List.flatMap_cons, List.filter_append, List.map_append, ← ih]
    cases part <;> simp [relation?, partColumns]

/-- What the rows of the answer may be: arrays where relations are. -/
structure Answers (plan : Plan) (t : Target) (row : Row) : Prop where
  columns : row.columns = (plan.select t).items.map SelectItem.resultName
  length : row.values.length = row.columns.length
  arrays : ∀ cell ∈ plan.columns.zip row.values, cell.1.array = true → cell.2.items?.isSome = true

/-- All rows are decoded, each into a record that keeps all of its cells. -/
def Faithful (plan : Plan) (t : Target) : Prop :=
  ∀ row, plan.Answers t row → ∃ record,
    Record.ofRow (plan.compile t).relations (plan.compile t).fieldCase row = .ok record ∧
      record.Decodes plan.root.fieldCase (plan.columns.zip row.values)

/-! ### Keys -/

section Keys

variable {root : Entity}

/-- The key of a column in a record. -/
def recordKey (root : Entity) (column : ResultColumn) : String := root.fieldCase.apply column.name

lemma resultName_item (asName : String) (s : Selection) :
    (s.item asName).resultName = s.outputName := by
  cases s <;> rfl

/-- The parts of a plan have distinct keys, other than those taken before. -/
lemma Gathers.keys {g : Graph} {p : Placement} {taken : List String} {edges : List Edge}
    {parts : List Part} (h : Gathers root g p taken edges parts) :
    Keys.Fresh taken ((parts.flatMap partColumns).map (recordKey root)) := by
  -- the keys of a part are those it has taken, so they precede what the parts behind it may take
  have step : ∀ {taken next names : List String} {part : Part} {rest : List Part},
      takeKeys root taken names = .ok next →
      (partColumns part).map (recordKey root) = names.map root.fieldCase.apply →
      Keys.Fresh next ((rest.flatMap partColumns).map (recordKey root)) →
      Keys.Fresh taken (((part :: rest).flatMap partColumns).map (recordKey root)) := by
    intro taken next names part rest hkeys hpart hrest
    obtain ⟨rfl, hfresh⟩ := takeKeys_spec hkeys
    rw [List.flatMap_cons, List.map_append, hpart, Keys.fresh_append]
    exact ⟨hfresh, hrest⟩
  induction h with
  | nil => exact Keys.fresh_nil
  | join _ _ hkeys _ ih =>
    refine step hkeys ?_ ih
    simp [partColumns, recordKey, resultName_item]
  | array _ _ _ hkeys _ ih => exact step hkeys (by simp [partColumns, recordKey]) ih
  | silent _ _ _ _ ih => exact ih
  | inside _ _ _ ih => exact ih

end Keys

variable {root : Entity} {g : Graph} {criteria : Criteria} {plan : Plan}

/-- No column of the root's own meets another one, neither as a field under one key nor as the
relation of its name. -/
structure Clear (plan : Plan) : Prop where
  own : ((fieldColumns plan.root).map (recordKey plan.root)).Nodup
  parts : ∀ own ∈ fieldColumns plan.root, ∀ column ∈ plan.parts.flatMap partColumns,
    if column.array then own.name ≠ column.name
    else recordKey plan.root own ≠ recordKey plan.root column

lemma cells_eq {row : Row} {t : Target} (h : plan.Answers t row) :
    row.cells = (plan.columns.zip row.values).map fun cell => (cell.1.name, cell.2) := by
  rw [Row.cells, h.columns, map_resultName, List.zip_map_left]
  rfl

/-! ### Rows that are lost otherwise -/

/-- Cells that tell one column from all others: true in that one, null in these. -/
def probe (before : List ResultColumn) (own : ResultColumn) (after : List ResultColumn) :
    List (ResultColumn × Value) :=
  before.map (·, .null) ++ (own, .bool true) :: after.map (·, .null)

lemma answers_probe {t : Target} {before after : List ResultColumn} {own : ResultColumn}
    (hcolumns : plan.columns = before ++ own :: after) (hown : own.array = false) :
    let values := (probe before own after).map Prod.snd
    plan.Answers t ⟨(plan.select t).items.map SelectItem.resultName, values⟩ ∧
      plan.columns.zip values = probe before own after := by
  have hfst : plan.columns = (probe before own after).map Prod.fst := by
    simp [hcolumns, probe, Function.comp_def]
  have hzip : plan.columns.zip ((probe before own after).map Prod.snd) =
      probe before own after := by
    rw [hfst, List.zip_map']
    exact List.map_id _
  refine ⟨⟨rfl, by simp [map_resultName, hfst], ?_⟩, hzip⟩
  intro cell hcell harray
  have hprobe : cell ∈ probe before own after := by
    rw [← hzip]
    exact hcell
  simp only [probe, List.mem_append, List.mem_cons, List.mem_map] at hprobe
  rcases hprobe with ⟨c, -, rfl⟩ | rfl | ⟨c, -, rfl⟩
  · rfl
  · rw [hown] at harray
    cases harray
  · rfl

/-- A column that holds no array meets no other column. -/
lemma clear_of_split {t : Target} (h : plan.Faithful t) {before after : List ResultColumn}
    {own : ResultColumn} (hcolumns : plan.columns = before ++ own :: after)
    (hown : own.array = false) : ∀ column ∈ after,
      if column.array then own.name ≠ column.name
      else recordKey plan.root own ≠ recordKey plan.root column := by
  obtain ⟨hanswers, hzip⟩ := answers_probe (t := t) hcolumns hown
  obtain ⟨record, hrecord, hdecodes⟩ := h _ hanswers
  have hcells := cells_eq hanswers
  simp only [hzip] at hdecodes hcells
  intro column hcolumn
  have hownCell : (own, Value.bool true) ∈ probe before own after :=
    List.mem_append_right _ List.mem_cons_self
  have hcolumnCell : (column, Value.null) ∈ probe before own after :=
    List.mem_append_right _ (List.mem_cons_of_mem _ (List.mem_map_of_mem hcolumn))
  split
  · rename_i harray
    intro hsame
    -- the value true would have to be an array
    have hcell := List.mem_map_of_mem (f := fun cell : ResultColumn × Value =>
      (cell.1.name, cell.2)) hownCell
    rw [← hcells] at hcell
    have hnamed : (plan.compile t).relations.contains own.name = true := by
      rw [relations_compile, List.contains_iff_mem, hsame, hcolumns]
      refine List.mem_map_of_mem (List.mem_filter.mpr ⟨?_, harray⟩)
      exact List.mem_append_right _ (List.mem_cons_of_mem _ hcolumn)
    obtain ⟨items, hitems⟩ := Record.exists_items hrecord _ hcell hnamed
    cases hitems
  · rename_i harray
    intro hsame
    have htrue := hdecodes.field _ hownCell hown
    have hnull := hdecodes.field _ hcolumnCell (by simpa using harray)
    simp only [recordKey] at hsame
    simp only [hsame] at htrue
    rw [hnull] at htrue
    cases htrue

lemma clear_of_faithful {t : Target} (h : plan.Faithful t) : plan.Clear := by
  have hown : ∀ c ∈ fieldColumns plan.root, c.array = false := by simp [fieldColumns]
  have hsplit : ∀ before own after, fieldColumns plan.root = before ++ own :: after →
      ∀ column ∈ after ++ plan.parts.flatMap partColumns,
        if column.array then own.name ≠ column.name
        else recordKey plan.root own ≠ recordKey plan.root column := by
    intro before own after hfields
    have hcolumns : plan.columns = before ++ own :: (after ++ plan.parts.flatMap partColumns) := by
      rw [columns, hfields, List.append_assoc, List.cons_append]
    refine clear_of_split h hcolumns (hown own ?_)
    rw [hfields]
    exact List.mem_append_right _ List.mem_cons_self
  refine { own := ?_, parts := ?_ }
  · rw [List.Nodup, List.pairwise_map, List.pairwise_iff_getElem]
    intro i j hi hj hij
    have hmem : (fieldColumns plan.root)[j] ∈ (fieldColumns plan.root).drop (i + 1) :=
      List.mem_drop_iff_getElem.mpr ⟨j - (i + 1), by omega, by congr 1; omega⟩
    have hdrop := (List.take_append_drop i (fieldColumns plan.root)).symm
    rw [List.drop_eq_getElem_cons hi] at hdrop
    have := hsplit _ _ _ hdrop _ (List.mem_append_left _ hmem)
    rwa [if_neg (by simp [hown _ (List.getElem_mem hj)])] at this
  · intro own hfield column hcolumn
    obtain ⟨before, after, hfields⟩ := List.append_of_mem hfield
    exact hsplit before own after hfields column (List.mem_append_right _ hcolumn)

lemma faithful_of_clear {t : Target} (hplan : ofGraph root g criteria = .ok plan)
    (h : plan.Clear) :
    plan.Faithful t := by
  obtain ⟨rfl, -, hgathers⟩ := gathers_of_ofGraph hplan
  obtain ⟨hkeys, -⟩ := hgathers.keys
  have hown : ∀ c ∈ fieldColumns plan.root, c.array = false := by simp [fieldColumns]
  intro row hrow
  have hlength : plan.columns.length = row.values.length := by
    rw [hrow.length, hrow.columns, map_resultName, List.length_map]
  have hnames : ∀ c ∈ plan.columns, (plan.compile t).relations.contains c.name = c.array := by
    intro c hc
    rw [relations_compile, Bool.eq_iff_iff, List.contains_iff_mem, List.mem_map]
    constructor
    · rintro ⟨c', hc', hsame⟩
      obtain ⟨hmem, harray⟩ := List.mem_filter.mp hc'
      have hpart : c' ∈ plan.parts.flatMap partColumns := by
        refine (List.mem_append.mp hmem).resolve_left fun hfield => ?_
        rw [hown c' hfield] at harray
        cases harray
      rcases List.mem_append.mp hc with hfield | hpart'
      · have := h.parts c hfield c' hpart
        rw [if_pos harray] at this
        exact absurd hsame.symm this
      · have heq := List.inj_on_of_nodup_map hkeys hpart' hpart (by simp [recordKey, hsame])
        rwa [heq]
    · exact fun harray => ⟨c, List.mem_filter.mpr ⟨hc, harray⟩, rfl⟩
  have hcolumns : (plan.columns.zip row.values).map Prod.fst = plan.columns :=
    List.map_fst_zip (Nat.le_of_eq hlength)
  have hmem : ∀ cell ∈ plan.columns.zip row.values, cell.1 ∈ plan.columns := by
    intro cell hcell
    rw [← hcolumns]
    exact List.mem_map_of_mem hcell
  refine Record.ofRow_decodes (cells_eq hrow) (fun cell hcell => hnames _ (hmem cell hcell))
    hrow.arrays ?_ ?_
  · have hfields :
        (fieldColumns plan.root).filter (fun c => !c.array) = fieldColumns plan.root := by
      rw [List.filter_eq_self]
      exact fun c hc => by simp [hown c hc]
    rw [Record.keys_fieldPairs, hcolumns, columns, List.filter_append, hfields, List.map_append]
    refine List.nodup_append.mpr ⟨h.own, (List.filter_sublist.map _).nodup hkeys, ?_⟩
    intro key hkey other hother
    obtain ⟨c, hc, rfl⟩ := List.mem_map.mp hkey
    obtain ⟨c', hc', rfl⟩ := List.mem_map.mp hother
    obtain ⟨hpart, harray⟩ := List.mem_filter.mp hc'
    have := h.parts c hc c' hpart
    rw [if_neg (by simpa using harray)] at this
    exact this
  · have hfields : (fieldColumns plan.root).filter ResultColumn.array = [] := by
      rw [List.filter_eq_nil_iff]
      exact fun c hc => by simp [hown c hc]
    rw [Record.keys_relationPairs, hcolumns, columns, List.filter_append, hfields, List.nil_append]
    exact (List.filter_sublist.map _).nodup hkeys

/-- The check suffices where the root's own fields are kept under the keys that they reserve. -/
theorem faithful_of_reserved (t : Target) (hplan : ofGraph root g criteria = .ok plan)
    (hown : ((fieldColumns root).map (recordKey root)).Nodup)
    (hreserved : ∀ field ∈ root.fields,
      root.fieldCase.apply (root.column field).name = root.fieldCase.apply field) :
    plan.Faithful t := by
  obtain ⟨rfl, -, hgathers⟩ := gathers_of_ofGraph hplan
  refine faithful_of_clear hplan { own := hown, parts := ?_ }
  intro own hfield column hcolumn
  obtain ⟨field, hmem, rfl⟩ := List.mem_map.mp hfield
  have hkey : recordKey plan.root column ≠ plan.root.fieldCase.apply field := by
    intro hsame
    refine hgathers.keys.2 _ (List.mem_map_of_mem hcolumn) ?_
    rw [hsame]
    exact List.mem_map_of_mem hmem
  rw [← hreserved field hmem] at hkey
  split
  · intro hname
    exact hkey (by rw [recordKey, ← hname])
  · exact hkey.symm

/-- **Where rows are decoded without loss**: exactly where no column of the root's own meets
another one, either under the key that its name has without the qualifier or as a relation. -/
theorem faithful_iff (t : Target) (hplan : ofGraph root g criteria = .ok plan) :
    plan.Faithful t ↔ plan.Clear :=
  ⟨clear_of_faithful, faithful_of_clear hplan⟩

/-- The users with one more column, of the table that they log in to. -/
def withLogins (fields : List String) (column : String) : Entity × Graph :=
  let root : Entity := { name := "user", table := "users", asName := "u", fields }
  let login : Edge := {
    kind := .left
    source := root.tableRef
    target := ⟨"logins", "l"⟩
    predicate := .conditions [⟨"id", .eq, "user_id"⟩]
    columns := [.column column] }
  (root, ({ root := root.tableRef } : Graph).push none login)

theorem faithful_withLogins :
    let users := withLogins ["id", "email"] "seen"
    ∃ plan, ofGraph users.1 users.2 {} = .ok plan ∧ plan.Faithful (.ofDialect .sqlite) := by
  intro users
  obtain ⟨plan, hplan, hclear⟩ : ∃ plan, ofGraph users.1 users.2 {} = .ok plan ∧ plan.Clear :=
    ⟨_, rfl, { own := by decide, parts := by decide }⟩
  exact ⟨plan, hplan, (faithful_iff _ hplan).mpr hclear⟩

/-- A field with a qualifier reserves `u_email` and is kept as `email`, where it is lost. -/
theorem qualified_field_lost :
    let users := withLogins ["id", "u.email"] "email"
    (users.1.fields.map users.1.fieldCase.apply).Nodup ∧
      ((fieldColumns users.1).map (recordKey users.1)).Nodup ∧
      ∃ plan, ofGraph users.1 users.2 {} = .ok plan ∧ ¬ plan.Faithful (.ofDialect .sqlite) := by
  refine ⟨by decide, by decide, _, rfl, fun h => ?_⟩
  have hparts := (clear_of_faithful h).parts
  revert hparts
  decide

end Plan

end RelationQuery
