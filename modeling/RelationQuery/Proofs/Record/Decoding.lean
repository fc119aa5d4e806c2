import RelationQuery.Proofs.Members
import RelationQuery.Record.Basic

/-!
What records keep of rows. Cells go to the fields or to the relations of a record, each under its
key; where the keys of the fields are distinct and those of the relations are, every cell is
found again in the record.
-/

namespace RelationQuery

/-- The items of the array that a relation's column holds, if it holds one. -/
def Value.items? : Value → Option (List Json)
  | .null => some []
  | .text s => Json.readArray? s
  | _ => none

/-- A column of an answer, and whether it holds the array of a relation. -/
structure ResultColumn where
  name : String
  array : Bool
  deriving DecidableEq

namespace Record

/-- Every cell is in the record, as field or as relation, and nothing else is. -/
structure Decodes (fieldCase : FieldCase) (cells : List (ResultColumn × Value))
    (record : Record) : Prop where
  count : record.fields.length + record.relations.length = cells.length
  field : ∀ cell ∈ cells, cell.1.array = false →
    record.field? (fieldCase.apply cell.1.name) = some cell.2.toJson
  relation : ∀ cell ∈ cells, cell.1.array = true → ∃ items, cell.2.items? = some items ∧
    record.relation? (fieldCase.apply cell.1.name) =
      some (items.map (Json.convertKeys fieldCase))

lemma decodeRelation_eq_ok_iff {column : String} {value : Value} {items : List Json} :
    decodeRelation column value = .ok items ↔ value.items? = some items := by
  cases value with
  | text text => cases h : Json.readArray? text <;> simp [decodeRelation, Value.items?, h]
  | _ => simp [decodeRelation, Value.items?]

variable {relations : List String} {fieldCase : FieldCase} {cells : List (ResultColumn × Value)}

/-- Rows are refused unless all columns named after relations hold arrays. -/
lemma exists_items {cells : List (String × Value)} {record result : Record}
    (h : cells.foldlM (insertCell relations fieldCase) record = .ok result) :
    ∀ cell ∈ cells, relations.contains cell.1 = true → ∃ items, cell.2.items? = some items := by
  induction cells generalizing record with
  | nil => simp
  | cons cell rest ih =>
    rw [List.foldlM_cons] at h
    cases hstep : insertCell relations fieldCase record cell with
    | error error => simp [hstep, bind, Except.bind] at h
    | ok next =>
      simp only [hstep, bind, Except.bind] at h
      rw [List.forall_mem_cons]
      refine ⟨fun hcontains => ?_, ih h⟩
      simp only [insertCell, hcontains, if_true] at hstep
      cases hitems : decodeRelation cell.1 cell.2 with
      | error error => simp [hitems, bind, Except.bind] at hstep
      | ok items => exact ⟨items, decodeRelation_eq_ok_iff.mp hitems⟩

/-- What the cells of fields are kept as. -/
def fieldPairs (fieldCase : FieldCase) (cells : List (ResultColumn × Value)) :
    List (String × Json) :=
  (cells.filter fun cell => !cell.1.array).map fun cell =>
    (fieldCase.apply cell.1.name, cell.2.toJson)

/-- What the cells of relations are kept as. -/
def relationPairs (fieldCase : FieldCase) (cells : List (ResultColumn × Value)) :
    List (String × List Json) :=
  (cells.filter fun cell => cell.1.array).map fun cell =>
    (fieldCase.apply cell.1.name, (cell.2.items?.getD []).map (Json.convertKeys fieldCase))

lemma keys_fieldPairs : (fieldPairs fieldCase cells).map Prod.fst =
    ((cells.map Prod.fst).filter fun column => !column.array).map fun column =>
      fieldCase.apply column.name := by
  rw [fieldPairs, List.map_map, List.filter_map, List.map_map]
  rfl

lemma keys_relationPairs : (relationPairs fieldCase cells).map Prod.fst =
    ((cells.map Prod.fst).filter ResultColumn.array).map fun column =>
      fieldCase.apply column.name := by
  rw [relationPairs, List.map_map, List.filter_map, List.map_map]
  rfl

lemma foldlM_insertCell {record : Record}
    (hnames : ∀ cell ∈ cells, relations.contains cell.1.name = cell.1.array)
    (hitems : ∀ cell ∈ cells, cell.1.array = true → cell.2.items?.isSome = true) :
    (cells.map fun cell => (cell.1.name, cell.2)).foldlM (insertCell relations fieldCase) record =
      .ok { fields := Members.insertAll record.fields (fieldPairs fieldCase cells)
            relations := Members.insertAll record.relations (relationPairs fieldCase cells) } := by
  induction cells generalizing record with
  | nil => rfl
  | cons cell rest ih =>
    rw [List.forall_mem_cons] at hnames hitems
    rw [List.map_cons, List.foldlM_cons]
    cases harray : cell.1.array with
    | true =>
      obtain ⟨items, hvalue⟩ := Option.isSome_iff_exists.mp (hitems.1 harray)
      have hdecode : decodeRelation cell.1.name cell.2 = .ok items :=
        decodeRelation_eq_ok_iff.mpr hvalue
      simp only [insertCell, hnames.1, harray, if_true, hdecode, bind, Except.bind, pure,
        Except.pure]
      rw [ih hnames.2 hitems.2]
      simp [fieldPairs, relationPairs, harray, hvalue, Members.insertAll_cons]
    | false =>
      simp only [insertCell, hnames.1, harray, Bool.false_eq_true, if_false, bind, Except.bind,
        pure, Except.pure]
      rw [ih hnames.2 hitems.2]
      simp [fieldPairs, relationPairs, harray, Members.insertAll_cons]

/-- **Decoding keeps every cell**, where relations are known by their names and no two fields have
one key, nor two relations. -/
theorem ofRow_decodes {row : Row}
    (hrow : row.cells = cells.map fun cell => (cell.1.name, cell.2))
    (hnames : ∀ cell ∈ cells, relations.contains cell.1.name = cell.1.array)
    (hitems : ∀ cell ∈ cells, cell.1.array = true → cell.2.items?.isSome = true)
    (hfields : ((fieldPairs fieldCase cells).map Prod.fst).Nodup)
    (hrelations : ((relationPairs fieldCase cells).map Prod.fst).Nodup) :
    ∃ record, ofRow relations fieldCase row = .ok record ∧ record.Decodes fieldCase cells := by
  refine ⟨_, by rw [ofRow, hrow]; exact foldlM_insertCell hnames hitems, ?_⟩
  refine { count := ?_, field := ?_, relation := ?_ }
  · have hfieldCount : (Members.insertAll [] (fieldPairs fieldCase cells)).length = _ :=
      Members.length_insertAll hfields fun _ _ => List.not_mem_nil
    have hrelationCount : (Members.insertAll [] (relationPairs fieldCase cells)).length = _ :=
      Members.length_insertAll hrelations fun _ _ => List.not_mem_nil
    have hsplit := List.length_eq_length_filter_add (l := cells) fun cell => cell.1.array
    rw [fieldPairs, List.length_map, List.length_nil, ← fieldPairs] at hfieldCount
    rw [relationPairs, List.length_map, List.length_nil, ← relationPairs] at hrelationCount
    show (Members.insertAll [] _).length + (Members.insertAll [] _).length = _
    omega
  · intro cell hcell harray
    refine Members.get?_insertAll_of_mem hfields (List.mem_map.mpr ⟨cell, ?_, rfl⟩)
    exact List.mem_filter.mpr ⟨hcell, by simp [harray]⟩
  · intro cell hcell harray
    obtain ⟨items, hvalue⟩ := Option.isSome_iff_exists.mp (hitems cell hcell harray)
    refine ⟨items, hvalue, Members.get?_insertAll_of_mem hrelations (List.mem_map.mpr ?_)⟩
    exact ⟨cell, List.mem_filter.mpr ⟨hcell, harray⟩, by simp [hvalue]⟩

end Record

end RelationQuery
