import RelationQuery.Proofs.Aggregation.Emission
import RelationQuery.Proofs.Record.Columns
import RelationQuery.Proofs.Text.Respelling

/-!
Records that are written back. The JSON of a record has the value of each declared field under the
field's own name, whatever relations were loaded with it, so the columns that it sets are the
entity's own cells of the row. JSON data has no bytes: a blob is read as an array of numbers, and
arrays are written as their text.
-/

namespace RelationQuery

/-! ### Values -/

namespace Value

/-- JSON has no infinities and no NaNs. -/
def Finite : Value → Prop
  | .real x => x.isFinite = true
  | _ => True

/-- What a value is after it was read as JSON: a blob is the text of the array of its bytes. -/
def reread : Value → Value
  | .blob bytes => .text ("[" ++ ",".intercalate (bytes.map fun b => toString b.toNat) ++ "]")
  | value => value

end Value

/-- Items are written one after the other, with commas between them. -/
lemma Json.itemChars_eq (items : List Json) :
    Json.itemChars items = List.intercalate [','] (items.map Json.chars) := by
  induction items with
  | nil => rfl
  | cons item rest ih =>
    cases rest with
    | nil => simp [Json.itemChars, List.intercalate_singleton]
    | cons next rest =>
      rw [List.map_cons, List.map_cons, List.intercalate_cons_cons, ← List.map_cons, ← ih,
        Json.itemChars, List.append_assoc]
      rfl

lemma Value.ofInteger_toInt (n : Int64) : Value.ofInteger n.toInt = .integer n := by
  have hrange : Int64.minValue.toInt ≤ n.toInt ∧ n.toInt ≤ Int64.maxValue.toInt :=
    ⟨n.le_toInt, n.toInt_le⟩
  rw [Value.ofInteger, Value.int64?, if_pos hrange, Int64.ofInt_toInt]

/-- **Values survive JSON**, but for blobs. -/
theorem Value.ofJson_toJson {value : Value} (h : value.Finite) :
    Value.ofJson value.toJson = value.reread := by
  cases value with
  | null => rfl
  | bool b => rfl
  | text s => rfl
  | integer n => exact Value.ofInteger_toInt n
  | real x =>
    have hfinite : x.isFinite = true := h
    rw [Value.toJson, if_pos hfinite]
    rfl
  | blob bytes =>
    rw [Value.toJson, Value.ofJson, Value.reread]
    · congr 1
      rw [Json.write, Json.chars, Json.itemChars_eq, ← String.toList_inj, String.toList_ofList,
        String.toList_append, String.toList_append, String.toList_intercalate, List.map_map,
        List.map_map]
      rfl
    all_goals simp

/-! ### Fields -/

namespace Entity

variable {e : Entity} {field : String}

/-- A declared field is spelt as its records spell it: in snake case, or in the camel case that its
column is brought into. -/
def Canonical (e : Entity) (field : String) : Prop :=
  Text.Undotted field ∧ (e.fieldCase = .snake → Text.snake field = field) ∧
    (e.fieldCase = .camel → Text.camel (Text.snake field) = field)

instance (e : Entity) (field : String) : Decidable (e.Canonical field) :=
  inferInstanceAs (Decidable (_ ∧ _ ∧ _))

lemma Canonical.name_column (h : e.Canonical field) :
    (e.column field).name = e.columnName field :=
  name_column_eq_columnName_iff.mpr h.1

/-- The record key of a field's column is the field. -/
lemma Canonical.apply_columnName (h : e.Canonical field) :
    e.fieldCase.apply (e.columnName field) = field := by
  obtain ⟨hundotted, hsnake, hcamel⟩ := h
  unfold columnName
  cases hcase : e.fieldCase with
  | snake => exact hsnake hcase
  | camel =>
    simp only [FieldCase.applyQualified, Text.splitQualified_of_undotted hundotted]
    exact hcamel hcase

/-- The record key that a plan reserves for a field is the field. -/
lemma Canonical.apply_self (h : e.Canonical field) : e.fieldCase.apply field = field := by
  obtain ⟨-, hsnake, hcamel⟩ := h
  cases hcase : e.fieldCase with
  | snake => exact hsnake hcase
  | camel =>
    have hchars : Text.camelChars (Text.snakeChars field.toList) = field.toList := by
      have := congrArg String.toList (hcamel hcase)
      simpa [Text.camel, Text.snake] using this
    rw [FieldCase.apply, Text.camel, Text.camelChars_eq_self hchars, String.ofList_toList]

end Entity

/-! ### Relations -/

/-- Relations are kept under the keys of the columns that are named as relations. -/
lemma Record.mem_keys_relations {relations : List String} {fieldCase : FieldCase}
    {cells : List (String × Value)} {record result : Record}
    (h : cells.foldlM (Record.insertCell relations fieldCase) record = .ok result) {key : String}
    (hkey : key ∈ result.relations.map Prod.fst) :
    key ∈ record.relations.map Prod.fst ∨ ∃ name ∈ relations, key = fieldCase.apply name := by
  induction cells generalizing record with
  | nil =>
    cases h
    exact .inl hkey
  | cons cell rest ih =>
    rw [List.foldlM_cons] at h
    cases hstep : Record.insertCell relations fieldCase record cell with
    | error error => simp [hstep, bind, Except.bind] at h
    | ok next =>
      simp only [hstep, bind, Except.bind] at h
      rcases ih h with hnext | hnamed
      · unfold Record.insertCell at hstep
        split at hstep
        · rename_i hcontains
          cases hitems : Record.decodeRelation cell.1 cell.2 with
          | error error => simp [hitems, bind, Except.bind] at hstep
          | ok items =>
            simp only [hitems, bind, Except.bind, pure, Except.pure, Except.ok.injEq] at hstep
            subst hstep
            rcases Members.mem_keys_insert.mp hnext with rfl | hold
            · exact .inr ⟨cell.1, List.contains_iff_mem.mp hcontains, rfl⟩
            · exact .inl hold
        · cases hstep
          exact .inl hnext
      · exact .inr hnamed

/-- The members of a record's object: relations take the places of fields of their names. -/
def Record.members (r : Record) : List (String × Json) :=
  Members.insertAll r.fields (r.relations.map fun (name, items) => (name, .array items))

lemma Record.get?_members {r : Record} {name : String} (h : name ∉ r.relations.map Prod.fst) :
    Members.get? name r.members = r.field? name := by
  rw [members, Members.get?_insertAll_of_not_mem, field?]
  rwa [List.map_map]

/-! ### Rows -/

namespace Plan

variable {root : Entity} {g : Graph} {criteria : Criteria} {plan : Plan} {t : Target} {row : Row}

lemma faithful_of_canonical (hplan : ofGraph root g criteria = .ok plan)
    (hdistinct : root.fields.Nodup) (hcanonical : ∀ field ∈ root.fields, root.Canonical field) :
    plan.Faithful t := by
  have hkey : ∀ field ∈ root.fields, root.fieldCase.apply (root.column field).name = field := by
    intro field hfield
    rw [(hcanonical field hfield).name_column, (hcanonical field hfield).apply_columnName]
  refine faithful_of_reserved t hplan ?_ fun field hfield => ?_
  · have hkeys : (fieldColumns root).map (recordKey root) = root.fields := by
      rw [fieldColumns, List.map_map]
      exact (List.map_congr_left hkey).trans (List.map_id _)
    rwa [hkeys]
  · rw [hkey field hfield, (hcanonical field hfield).apply_self]

/-- No relation has a name that is spelt as a declared field. -/
lemma not_mem_relations (hplan : ofGraph root g criteria = .ok plan) {field : String}
    (hfield : field ∈ root.fields) (hcanonical : root.Canonical field) {name : String}
    (hname : root.fieldCase.apply name = field) : name ∉ (plan.compile t).relations := by
  obtain ⟨rfl, -, hgathers⟩ := gathers_of_ofGraph hplan
  intro hrelation
  rw [relations_compile] at hrelation
  obtain ⟨column, hcolumn, rfl⟩ := List.mem_map.mp hrelation
  obtain ⟨hmem, harray⟩ := List.mem_filter.mp hcolumn
  have hpart : column ∈ plan.parts.flatMap partColumns := by
    refine (List.mem_append.mp hmem).resolve_left fun hown => ?_
    obtain ⟨own, -, rfl⟩ := List.mem_map.mp hown
    cases harray
  -- the relation has taken its key, which the field had reserved before
  refine hgathers.keys.2 _ (List.mem_map_of_mem hpart) ?_
  rw [recordKey, hname]
  exact List.mem_map.mpr ⟨_, hfield, hcanonical.apply_self⟩

/-- No relation takes the place of a declared field. -/
lemma not_mem_keys_relations (hplan : ofGraph root g criteria = .ok plan)
    (hcanonical : ∀ field ∈ root.fields, root.Canonical field) {record : Record}
    (hrecord : Record.ofRow (plan.compile t).relations (plan.compile t).fieldCase row = .ok record)
    {field : String} (hfield : field ∈ root.fields) :
    field ∉ record.relations.map Prod.fst := by
  obtain ⟨rfl, -, -⟩ := gathers_of_ofGraph hplan
  intro hkey
  rcases Record.mem_keys_relations hrecord hkey with hnone | ⟨name, hname, hsame⟩
  · cases hnone
  · exact not_mem_relations hplan hfield (hcanonical field hfield) hsame.symm hname

/-- The entity's own columns are the first ones of an answer. -/
lemma take_cells (hroot : plan.root = root) (values : List Value) :
    (plan.columns.zip values).take root.fields.length =
      (root.fields.zip values).map fun (field, value) =>
        (⟨(root.column field).name, false⟩, value) := by
  subst hroot
  rw [columns, fieldColumns]
  induction plan.root.fields generalizing values with
  | nil => rfl
  | cons field rest ih =>
    cases values with
    | nil => rfl
    | cons value values =>
      simp only [List.map_cons, List.cons_append, List.zip_cons_cons, List.length_cons,
        List.take_succ_cons, ih]

lemma length_fields_le (hplan : ofGraph root g criteria = .ok plan) (hrow : plan.Answers t row) :
    root.fields.length ≤ row.values.length := by
  have hcolumns := congrArg List.length (map_resultName t plan)
  rw [hrow.length, hrow.columns, hcolumns, List.length_map, columns, List.length_append,
    fieldColumns, List.length_map, (gathers_of_ofGraph hplan).1]
  exact Nat.le_add_right _ _

/-- Every declared field is found in the object of the record. -/
lemma get?_members_of_decodes (hplan : ofGraph root g criteria = .ok plan)
    (hcanonical : ∀ field ∈ root.fields, root.Canonical field) {record : Record}
    (hrecord : Record.ofRow (plan.compile t).relations (plan.compile t).fieldCase row = .ok record)
    (hdecodes : record.Decodes plan.root.fieldCase (plan.columns.zip row.values)) :
    ∀ pair ∈ root.fields.zip row.values,
      Members.get? pair.1 record.members = some pair.2.toJson := by
  rintro ⟨field, value⟩ hpair
  have hfield : field ∈ root.fields := (List.of_mem_zip hpair).1
  have hcell : (⟨(root.column field).name, false⟩, value) ∈ plan.columns.zip row.values := by
    refine List.mem_of_mem_take (i := root.fields.length) ?_
    rw [take_cells (gathers_of_ofGraph hplan).1]
    exact List.mem_map.mpr ⟨_, hpair, rfl⟩
  have hvalue := hdecodes.field _ hcell rfl
  rw [(gathers_of_ofGraph hplan).1, (hcanonical field hfield).name_column,
    (hcanonical field hfield).apply_columnName] at hvalue
  rw [Record.get?_members (not_mem_keys_relations hplan hcanonical hrecord hfield), hvalue]

/-- **Reading and writing back changes nothing** but blobs. Of the record of a row, the entity's
own columns are set to the values that the row has in them, in their order, and nothing else is. -/
theorem written_back (hplan : ofGraph root g criteria = .ok plan) (hfields : root.fields ≠ [])
    (hdistinct : root.fields.Nodup) (hcanonical : ∀ field ∈ root.fields, root.Canonical field)
    (hrow : plan.Answers t row) (hfinite : ∀ value ∈ row.values, value.Finite) :
    ∃ record,
      Record.ofRow (plan.compile t).relations (plan.compile t).fieldCase row = .ok record ∧
      root.bind (.ok record.toJson) = .ok ((row.cells.take root.fields.length).map
        fun (column, value) => (column, value.reread)) := by
  obtain ⟨record, hrecord, hdecodes⟩ := faithful_of_canonical hplan hdistinct hcanonical row hrow
  refine ⟨record, hrecord, ?_⟩
  have hmember := get?_members_of_decodes hplan hcanonical hrecord hdecodes
  have hroot := (gathers_of_ofGraph hplan).1
  have hown : root.fields = (root.fields.zip row.values).map Prod.fst :=
    (List.map_fst_zip (length_fields_le hplan hrow)).symm
  show Except.ok (root.bindings record.members) = _
  rw [cells_eq hrow, ← List.map_take, take_cells hroot, Entity.bindings_of_fields hfields,
    List.map_map, List.map_map]
  congr 1
  calc root.fields.filterMap (fun field => (Members.get? field record.members).map fun value =>
        (root.columnName field, Value.ofJson value))
    _ = ((root.fields.zip row.values).map Prod.fst).filterMap fun field =>
          (Members.get? field record.members).map fun value =>
            (root.columnName field, Value.ofJson value) := by rw [← hown]
    _ = (root.fields.zip row.values).filterMap fun pair =>
          some ((root.column pair.1).name, pair.2.reread) := by
      rw [List.filterMap_map]
      refine List.filterMap_congr fun pair hpair => ?_
      obtain ⟨hfield, hvalue⟩ := List.of_mem_zip hpair
      rw [Function.comp_apply, hmember pair hpair, Option.map_some,
        Value.ofJson_toJson (hfinite _ hvalue), (hcanonical _ hfield).name_column]
    _ = _ := by
      rw [List.filterMap_eq_map']
      rfl

/-- A post whose fields are in camel case. -/
def camelPost : Entity := {
  Schema.unrelated.entity "post" with
  fields := ["id", "createdAt", "isDraft", "rating", "subtitle", "coverImage"]
  fieldCase := .camel }

/-- A row of a post and its comments, with a value of each kind. -/
def camelPostRow : Row where
  columns := ["id", "created_at", "is_draft", "rating", "subtitle", "cover_image", "comments"]
  values := [.integer 7, .text "2024-05-01", .bool true, .real ⟨0x3FF8000000000000⟩, .null,
    .blob [255, 216], .text "[\x7b\"body\":\"first\"\x7d]"]

theorem written_back_camelPost :
    camelPost.fields ≠ [] ∧ camelPost.fields.Nodup ∧
      (∀ field ∈ camelPost.fields, camelPost.Canonical field) ∧
      (∀ value ∈ camelPostRow.values, value.Finite) ∧
      ∃ plan, ofGraph camelPost .ofThread {} = .ok plan ∧
        plan.Answers (.ofDialect .sqlite) camelPostRow ∧
        ∃ record, Record.ofRow (plan.compile (.ofDialect .sqlite)).relations
            (plan.compile (.ofDialect .sqlite)).fieldCase camelPostRow = .ok record ∧
          camelPost.bind (.ok record.toJson) = .ok [("id", .integer 7),
            ("created_at", .text "2024-05-01"), ("is_draft", .bool true),
            ("rating", .real ⟨0x3FF8000000000000⟩), ("subtitle", .null),
            ("cover_image", .text "[255,216]")] := by
  have hfields : camelPost.fields ≠ [] := by decide
  have hdistinct : camelPost.fields.Nodup := by decide
  have hcanonical : ∀ field ∈ camelPost.fields, camelPost.Canonical field := by decide +kernel
  have hfinite : ∀ value ∈ camelPostRow.values, value.Finite := by
    simp [camelPostRow, Value.Finite, Binary64.isFinite]
    decide
  obtain ⟨plan, hplan, hcolumns⟩ : ∃ plan, ofGraph camelPost .ofThread {} = .ok plan ∧
      plan.columns = [⟨"id", false⟩, ⟨"created_at", false⟩, ⟨"is_draft", false⟩,
        ⟨"rating", false⟩, ⟨"subtitle", false⟩, ⟨"cover_image", false⟩, ⟨"comments", true⟩] :=
    ⟨_, rfl, by decide +kernel⟩
  have hrow : plan.Answers (.ofDialect .sqlite) camelPostRow := by
    refine { columns := ?_, length := rfl, arrays := ?_ }
    · rw [map_resultName, hcolumns]
      rfl
    · rw [hcolumns]
      decide +kernel
  obtain ⟨record, hrecord, hbind⟩ :=
    written_back hplan hfields hdistinct hcanonical hrow hfinite
  refine ⟨hfields, hdistinct, hcanonical, hfinite, plan, hplan, hrow, record, hrecord, ?_⟩
  rw [hbind]
  rfl

/-- A photo of two bytes is written back as a text of five characters. -/
theorem blob_not_written_back :
    let user : Entity := {
      name := "user", table := "users", asName := "u", fields := ["id", "photo"] }
    let row : Row := ⟨["id", "photo"], [.integer 1, .blob [1, 2]]⟩
    user.fields.Nodup ∧ (∀ field ∈ user.fields, user.Canonical field) ∧
      (∀ value ∈ row.values, value.Finite) ∧
      ∃ plan, ofGraph user { root := user.tableRef } {} = .ok plan ∧
        plan.Answers (.ofDialect .sqlite) row ∧
        ∃ record, Record.ofRow (plan.compile (.ofDialect .sqlite)).relations
            (plan.compile (.ofDialect .sqlite)).fieldCase row = .ok record ∧
          user.bind (.ok record.toJson) = .ok [("id", .integer 1), ("photo", .text "[1,2]")] ∧
          user.bind (.ok record.toJson) ≠ .ok row.cells := by
  intro user row
  have hbind : ∃ record, Record.ofRow [] .snake row = .ok record ∧
      user.bind (.ok record.toJson) = .ok [("id", .integer 1), ("photo", .text "[1,2]")] := by
    refine ⟨_, rfl, congrArg Except.ok ?_⟩
    decide +kernel
  obtain ⟨record, hrecord, hbind⟩ := hbind
  refine ⟨by decide, by decide +kernel, by simp [row, Value.Finite], _, rfl,
    { columns := by decide, length := rfl, arrays := by decide }, record, hrecord, hbind, ?_⟩
  rw [hbind]
  intro h
  have := Except.ok.inj h
  revert this
  decide +kernel

end Plan

end RelationQuery
