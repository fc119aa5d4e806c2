import RelationQuery.Proofs.Record.WriteBack
import RelationQuery.Proofs.Text.Conventions

/-!
Fields in camel case and their columns. A field whose words start with two letters each stands for
the column that these words make in snake case: a query reads this column wherever it names the
field, records keep its value under the field, and data given for the field is written to it.
-/

namespace RelationQuery

/-! ### Records -/

namespace Record

variable {relations : List String} {fieldCase : FieldCase}

/-- A cell is kept as the field of a key. -/
def Names (relations : List String) (fieldCase : FieldCase) (key : String)
    (cell : String × Value) : Prop :=
  cell.1 ∉ relations ∧ fieldCase.apply cell.1 = key

instance (key : String) : DecidablePred (Names relations fieldCase key) := fun _ =>
  inferInstanceAs (Decidable (_ ∧ _))

lemma field?_insertCell {record next : Record} {cell : String × Value}
    (h : insertCell relations fieldCase record cell = .ok next) (key : String) :
    next.field? key =
      if Names relations fieldCase key cell then some cell.2.toJson else record.field? key := by
  unfold insertCell at h
  split at h
  · rename_i hcontains
    rw [if_neg fun hnames => hnames.1 (List.contains_iff_mem.mp hcontains)]
    cases hitems : decodeRelation cell.1 cell.2 with
    | error error => simp [hitems, bind, Except.bind] at h
    | ok items =>
      simp only [hitems, bind, Except.bind, pure, Except.pure, Except.ok.injEq] at h
      rw [← h, field?, field?]
  · rename_i hcontains
    simp only [pure, Except.pure, Except.ok.injEq] at h
    rw [← h, field?, field?]
    by_cases hkey : fieldCase.apply cell.1 = key
    · rw [if_pos ⟨fun hmem => hcontains (List.contains_iff_mem.mpr hmem), hkey⟩, ← hkey,
        Members.get?_insert_self]
    · rw [if_neg fun hnames => hkey hnames.2, Members.get?_insert_of_ne (Ne.symm hkey)]

/-- **What records keep under a key**: of several cells the last one. -/
theorem field?_ofRow {row : Row} {record : Record}
    (h : ofRow relations fieldCase row = .ok record) (key : String) :
    record.field? key =
      (row.cells.filter (Names relations fieldCase key)).getLast?.map (·.2.toJson) := by
  rw [ofRow] at h
  generalize row.cells = cells at h ⊢
  induction cells using List.reverseRecOn generalizing record with
  | nil =>
    cases h
    rfl
  | append_singleton cells cell ih =>
    rw [List.foldlM_append] at h
    cases hbefore : cells.foldlM (insertCell relations fieldCase) {} with
    | error error => simp [hbefore, bind, Except.bind] at h
    | ok before =>
      have hlast : insertCell relations fieldCase before cell = .ok record := by
        rw [hbefore] at h
        simp only [List.foldlM_cons, List.foldlM_nil, bind_pure] at h
        exact h
      rw [field?_insertCell hlast, ih hbefore, List.filter_append, List.filter_singleton]
      by_cases hnames : Names relations fieldCase key cell <;> simp [hnames]

end Record

/-! ### Queries -/

namespace Plan

/-- Wherever a query names a field of its root, it reads one column of the root's table. -/
structure Reads (plan : Plan) (t : Target) (field column : String) : Prop where
  item : ∀ i : Nat, plan.root.fields[i]? = some field →
    (plan.select t).items[i]? = some (.column (.qualified plan.root.asName column) none)
  filter : ∀ (i : Nat) (term : Term), plan.criteria.terms[i]? = some term → term.column = field →
    (plan.select t).filters[i]? = some (term.filter (.qualified plan.root.asName column))
  dates : ∀ range, plan.criteria.dates = some range → range.field = field →
    (plan.select t).filters.getLast? =
      some (.between (.qualified plan.root.asName column) range.low range.high)
  group : ∀ i : Nat, plan.criteria.groupBy[i]? = some field →
    (plan.select t).groupBy[i]? = some (.qualified plan.root.asName column)
  order : ∀ (i : Nat) (direction : Direction), plan.criteria.orderBy[i]? = some (field, direction) →
    (plan.select t).orderBy[i]? = some (.qualified plan.root.asName column, direction)

/-- The column comes back under its own name, and records keep it under the field: its value, or
that of the last one of the columns that are spelt alike. -/
structure Keeps (plan : Plan) (t : Target) (field column : String) : Prop where
  named : ∀ row, plan.Answers t row → ∀ i : Nat, plan.root.fields[i]? = some field →
    row.columns[i]? = some column
  kept : ∀ row record, plan.Answers t row →
    Record.ofRow (plan.compile t).relations (plan.compile t).fieldCase row = .ok record →
      ∃ value, (row.cells.filter fun cell => plan.root.fieldCase.apply cell.1 = field).getLast? =
        some value ∧ record.field? field = some value.2.toJson

variable {plan : Plan} {t : Target} {field column : String}

lemma reads_of_column
    (h : plan.root.column field = .qualified plan.root.asName column) :
    plan.Reads t field column where
  item i hi := by
    have hlength : i < plan.root.fields.length := (List.getElem?_eq_some_iff.mp hi).1
    rw [select, List.getElem?_append_left (by simpa using hlength), List.getElem?_map, hi, ← h]
    rfl
  filter i term hi hterm := by
    have hlength : i < plan.criteria.terms.length := (List.getElem?_eq_some_iff.mp hi).1
    rw [select, Criteria.filters, List.getElem?_append_left (by simpa using hlength),
      List.getElem?_map, hi, ← h, ← hterm]
    rfl
  dates range hrange hfield := by
    rw [select, Criteria.filters, hrange, ← h, ← hfield]
    exact List.getLast?_concat
  group i hi := by
    rw [select, List.getElem?_map, hi, ← h]
    rfl
  order i direction hi := by
    rw [select, List.getElem?_map, hi, ← h]
    rfl

variable {root : Entity} {g : Graph} {criteria : Criteria}

lemma keeps_of_canonical (hplan : ofGraph root g criteria = .ok plan)
    (hfield : field ∈ root.fields) (hcanonical : root.Canonical field)
    (hcolumn : (root.column field).name = column) : plan.Keeps t field column := by
  obtain ⟨rfl, -, -⟩ := gathers_of_ofGraph hplan
  have hnamed : ∀ row, plan.Answers t row → ∀ i : Nat, plan.root.fields[i]? = some field →
      row.columns[i]? = some column := by
    intro row hrow i hi
    have hlength : i < plan.root.fields.length := (List.getElem?_eq_some_iff.mp hi).1
    rw [hrow.columns, map_resultName, columns, List.getElem?_map,
      List.getElem?_append_left (by simpa [fieldColumns] using hlength), fieldColumns,
      List.getElem?_map, hi, ← hcolumn]
    rfl
  refine ⟨hnamed, fun row record hrow hrecord => ?_⟩
  have hnames : ∀ cell ∈ row.cells, decide (Record.Names (plan.compile t).relations
      (plan.compile t).fieldCase field cell) =
        decide (plan.root.fieldCase.apply cell.1 = field) := by
    intro cell _
    rw [decide_eq_decide]
    exact and_iff_right_of_imp fun hname => not_mem_relations hplan hfield hcanonical hname
  -- the field's own column is one of those that are kept under it
  have hown : ∃ cell ∈ row.cells, plan.root.fieldCase.apply cell.1 = field := by
    obtain ⟨i, hi⟩ := List.getElem?_of_mem hfield
    obtain ⟨hlength, hi⟩ := List.getElem?_eq_some_iff.mp (hnamed row hrow i hi)
    have hvalue : i < row.values.length := hrow.length ▸ hlength
    refine ⟨(row.columns[i], row.values[i]), ?_, ?_⟩
    · rw [Row.cells, ← List.getElem_zip (h := by simp [hlength, hvalue])]
      exact List.getElem_mem _
    · rw [hi, ← hcolumn, hcanonical.name_column, hcanonical.apply_columnName]
  rw [Record.field?_ofRow hrecord, List.filter_congr hnames]
  cases hlast : (row.cells.filter fun cell =>
      plan.root.fieldCase.apply cell.1 = field).getLast? with
  | none =>
    obtain ⟨cell, hcell, hkey⟩ := hown
    rw [List.getLast?_eq_none_iff, List.filter_eq_nil_iff] at hlast
    exact absurd (decide_eq_true hkey) (hlast cell hcell)
  | some value => exact ⟨value, rfl, rfl⟩

end Plan

/-! ### Camel case -/

namespace Entity

variable {e : Entity} {words : List String}

lemma canonical_camel (hcase : e.fieldCase = .camel) (hne : words ≠ [])
    (hwords : ∀ word ∈ words, Text.Telling word.toList) :
    e.Canonical (Text.camel ("_".intercalate words)) := by
  refine ⟨Text.undotted_camel (Text.ascii_intercalate hwords), fun hsnake => ?_, fun _ => ?_⟩
  · rw [hcase] at hsnake
    cases hsnake
  · rw [Text.snake_camel hne hwords]

lemma columnName_camel (hcase : e.fieldCase = .camel) (hne : words ≠ [])
    (hwords : ∀ word ∈ words, Text.Telling word.toList) :
    e.columnName (Text.camel ("_".intercalate words)) = "_".intercalate words := by
  have hundotted := (canonical_camel hcase hne hwords).1
  rw [columnName, hcase]
  simp only [FieldCase.applyQualified, Text.splitQualified_of_undotted hundotted, FieldCase.apply]
  exact Text.snake_camel hne hwords

/-- **Fields in camel case stand for columns in snake case**, in queries, in records and in what is
written. -/
theorem maps_camel (hcase : e.fieldCase = .camel) (hne : words ≠ [])
    (hwords : ∀ word ∈ words, Text.Telling word.toList)
    (hfield : Text.camel ("_".intercalate words) ∈ e.fields) :
    let column := "_".intercalate words
    let field := Text.camel column
    Text.snake field = column ∧
      (∀ g criteria plan t, Plan.ofGraph e g criteria = .ok plan →
        plan.Reads t field column ∧ plan.Keeps t field column) ∧
      ∀ members, e.bindings members = e.fields.filterMap fun name =>
        (Members.get? name members).map fun value =>
          (if name = field then column else e.columnName name, .ofJson value) := by
  intro column field
  have hcanonical : e.Canonical field := canonical_camel hcase hne hwords
  have hname : e.columnName field = column := columnName_camel hcase hne hwords
  refine ⟨Text.snake_camel hne hwords, fun g criteria plan t hplan => ⟨?_, ?_⟩, fun members => ?_⟩
  · have hcolumn : e.column field = .qualified e.asName column := by
      rw [Entity.column, hname]
      exact Column.resolve_of_undotted (Text.undotted_intercalate hwords) _
    obtain ⟨rfl, -, -⟩ := Plan.gathers_of_ofGraph hplan
    exact Plan.reads_of_column hcolumn
  · exact Plan.keeps_of_canonical hplan hfield hcanonical (hcanonical.name_column.trans hname)
  · rw [bindings_of_fields (List.ne_nil_of_mem hfield)]
    refine List.filterMap_congr fun name _ => ?_
    split
    · rename_i hsame
      rw [hsame, hname]
    · rfl

/-- The posts of one day, asked for by the field that stands for the column `created_at`. -/
def createdOn (day : Value) : Criteria where
  terms := [.eq "createdAt" day]
  dates := some ⟨"createdAt", day, day⟩
  groupBy := ["createdAt"]
  orderBy := [("createdAt", .descending)]

theorem maps_createdAt :
    let words := ["created", "at"]
    Plan.camelPost.fieldCase = .camel ∧ words ≠ [] ∧
      (∀ word ∈ words, Text.Telling word.toList) ∧
      Text.camel ("_".intercalate words) ∈ Plan.camelPost.fields ∧
      Text.snake "createdAt" = "created_at" ∧
      (∃ plan, Plan.ofGraph Plan.camelPost .ofThread (createdOn .null) = .ok plan ∧
        plan.Reads (.ofDialect .sqlite) "createdAt" "created_at" ∧
        plan.Keeps (.ofDialect .sqlite) "createdAt" "created_at") ∧
      Plan.camelPost.bindings [("createdAt", .text "now"), ("id", .integer 7)] =
        [("id", .integer 7), ("created_at", .text "now")] := by
  intro words
  have hwords : ∀ word ∈ words, Text.Telling word.toList := by decide
  have hcolumn : "_".intercalate words = "created_at" := by decide
  have hname : Text.camel ("_".intercalate words) = "createdAt" := by decide
  have hfield : Text.camel ("_".intercalate words) ∈ Plan.camelPost.fields := by
    rw [hname]
    decide
  obtain ⟨hsnake, hquery, hwrite⟩ := maps_camel rfl (List.cons_ne_nil _ _) hwords hfield
  rw [hname, hcolumn] at hsnake
  rw [hname, hcolumn] at hquery
  obtain ⟨plan, hplan⟩ : ∃ plan,
      Plan.ofGraph Plan.camelPost .ofThread (createdOn .null) = .ok plan := ⟨_, rfl⟩
  have hmapped := hquery _ _ plan (.ofDialect .sqlite) hplan
  refine ⟨rfl, List.cons_ne_nil _ _, hwords, hfield, hsnake, ⟨plan, hplan, hmapped⟩, ?_⟩
  rw [hwrite]
  decide +kernel

end Entity

end RelationQuery
