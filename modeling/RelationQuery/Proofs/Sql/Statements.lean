import RelationQuery.Proofs.Sql.Clauses
import RelationQuery.Sql.Write

/-!
Statements are read back from their text. Whatever characters the names in a statement are made
of, the text has one reading: its columns, tables, joins, filters and clauses are those of every
statement of its kind that is written alike. Only values, and aliases that are not written, do not
show.
-/

namespace RelationQuery

open Piece (Reads Begins Same)

variable {d : Dialect}

lemma Statement.same_of_sql {p q : List Piece}
    (h : (Statement.ofPieces d p).sql = (Statement.ofPieces d q).sql) : Same d p q :=
  ⟨0, String.ofList_injective h⟩

namespace Select

/-- The end of a SELECT, behind its groups, its filters, its joins and its first table. -/
def behindGroups (d : Dialect) (s : Select) : List Piece :=
  Piece.clause " ORDER BY " ", " (s.orderBy.map fun (column, direction) =>
    column.pieces ++ [.text (" " ++ direction.sql)]) ++ pagePieces d s.limit s.offset

def behindFilters (d : Dialect) (s : Select) : List Piece :=
  Piece.clause " GROUP BY " ", " (s.groupBy.map Column.pieces) ++ s.behindGroups d

def behindJoins (d : Dialect) (s : Select) : List Piece :=
  Filter.clause s.filters ++ s.behindFilters d

def behindTable (d : Dialect) (s : Select) : List Piece :=
  (s.joins.flatMap fun j => .text " " :: j.pieces) ++ s.behindJoins d

/-- A SELECT that can be read back: of columns, with joins of tables. -/
structure Readable (s : Select) : Prop where
  selects : s.items ≠ []
  items : ∀ i ∈ s.items, i.IsColumn
  joins : ∀ j ∈ s.joins, j.Plain
  filters : ∀ f ∈ s.filters, f.NonEmpty

/-- What can be read back: all but values, and tables as they are written. -/
def shape (s : Select) : Select :=
  { s.erase with source := s.source.written, joins := s.joins.map JoinClause.written }

variable {s s' : Select}

lemma pieces_eq (h : s.items ≠ []) : s.pieces d =
    .text "SELECT " :: (Piece.separate ", " (s.items.map SelectItem.pieces) ++
      .text " FROM " :: (s.source.pieces ++ s.behindTable d)) := by
  have hitems : itemPieces s.items = Piece.separate ", " (s.items.map SelectItem.pieces) := by
    cases hcase : s.items with
    | nil => exact absurd hcase h
    | cons => rfl
  simp [pieces, hitems, behindTable, behindJoins, behindFilters, behindGroups]

lemma begins_page (d : Dialect) (limit offset : Option UInt64) :
    Begins d [" LIMIT ", " OFFSET "] (pagePieces d limit offset) := by
  have hunlimited : ∀ all p, Begins d [" LIMIT ", " OFFSET "] (.text (" LIMIT " ++ all) :: p) :=
    fun all p bound => .inr ⟨" LIMIT ", by simp, by simp [Piece.write]⟩
  unfold pagePieces
  cases limit with
  | some n => exact Piece.begins_text (by simp)
  | none =>
    cases offset with
    | none => exact Piece.begins_nil d _
    | some m =>
      cases d.unlimited? with
      | none => exact Piece.begins_text (by simp)
      | some all => exact hunlimited all _

lemma begins_behindGroups (d : Dialect) (s : Select) :
    Begins d [" ORDER BY ", " LIMIT ", " OFFSET "] (s.behindGroups d) :=
  Piece.begins_clause List.mem_cons_self ((begins_page d _ _).mono (List.subset_cons_self _ _))

lemma begins_behindFilters (d : Dialect) (s : Select) :
    Begins d [" GROUP BY ", " ORDER BY ", " LIMIT ", " OFFSET "] (s.behindFilters d) :=
  Piece.begins_clause List.mem_cons_self
    ((s.begins_behindGroups d).mono (List.subset_cons_self _ _))

lemma begins_behindJoins (d : Dialect) (s : Select) :
    Begins d [" WHERE ", " GROUP BY ", " ORDER BY ", " LIMIT ", " OFFSET "] (s.behindJoins d) :=
  Piece.begins_clause List.mem_cons_self
    ((s.begins_behindFilters d).mono (List.subset_cons_self _ _))

lemma begins_behindTable (d : Dialect) (s : Select) :
    Begins d (JoinKind.texts ++ [" WHERE ", " GROUP BY ", " ORDER BY ", " LIMIT ", " OFFSET "])
      (s.behindTable d) :=
  Piece.begins_flatMap (fun j _ => j.begins) (s.begins_behindJoins d)

lemma behindGroups_eq (h : Same d (s.behindGroups d) (s'.behindGroups d)) :
    s.orderBy = s'.orderBy ∧ s.limit.isSome = s'.limit.isSome ∧
      s.offset.isSome = s'.offset.isSome := by
  obtain ⟨horders, hpage⟩ := Direction.reads_orders (by decide) (by decide) (by simp) (by simp)
    (begins_page d s.limit s.offset) (begins_page d s'.limit s'.offset) h
  exact ⟨by simpa using horders, page_eq hpage⟩

lemma behindFilters_eq (h : Same d (s.behindFilters d) (s'.behindFilters d)) :
    s.groupBy = s'.groupBy ∧ Same d (s.behindGroups d) (s'.behindGroups d) := by
  obtain ⟨hgroups, hrest⟩ := Column.reads_groups (by cases d <;> decide) (by decide) (by decide)
    (by simp) (by simp) (s.begins_behindGroups d) (s'.begins_behindGroups d) h
  exact ⟨by simpa using hgroups, hrest⟩

lemma behindJoins_eq (hs : s.Readable) (hs' : s'.Readable)
    (h : Same d (s.behindJoins d) (s'.behindJoins d)) :
    s.filters.map Filter.erase = s'.filters.map Filter.erase ∧
      Same d (s.behindFilters d) (s'.behindFilters d) :=
  Filter.reads_clause (by cases d <;> decide) (by decide) (by decide) hs.filters hs'.filters
    (s.begins_behindFilters d) (s'.begins_behindFilters d) h

lemma behindTable_eq (hs : s.Readable) (hs' : s'.Readable)
    (h : Same d (s.behindTable d) (s'.behindTable d)) :
    s.joins.map JoinClause.written = s'.joins.map JoinClause.written ∧
      Same d (s.behindJoins d) (s'.behindJoins d) :=
  JoinClause.reads_all ⟨by cases d <;> decide, by decide⟩ (by decide) hs.joins hs'.joins
    (s.begins_behindJoins d) (s'.begins_behindJoins d) h

/-- SELECTs that are written alike have one shape. -/
lemma shape_eq (hs : s.Readable) (hs' : s'.Readable) (h : (s.render d).sql = (s'.render d).sql) :
    s.shape = s'.shape := by
  have hsame : Same d (s.pieces d) (s'.pieces d) := Statement.same_of_sql h
  rw [pieces_eq hs.selects, pieces_eq hs'.selects] at hsame
  have hitem : Reads d SelectItem.IsColumn SelectItem.pieces id [", ", " FROM "] :=
    SelectItem.reads (by cases d <;> decide) (by decide)
  obtain ⟨hitems, hsame⟩ := hitem.separate (by decide) (by decide) ⟨hs.selects, hs.items⟩
    ⟨hs'.selects, hs'.items⟩ Piece.begins_self Piece.begins_self hsame.text
  obtain ⟨hsource, hsame⟩ := Table.reads (by cases d <;> decide) (by decide) trivial trivial
    (s.begins_behindTable d) (s'.begins_behindTable d) hsame.text
  obtain ⟨hjoins, hsame⟩ := behindTable_eq hs hs' hsame
  obtain ⟨hfilters, hsame⟩ := behindJoins_eq hs hs' hsame
  obtain ⟨hgroups, hsame⟩ := behindFilters_eq hsame
  obtain ⟨horders, hlimit, hoffset⟩ := behindGroups_eq hsame
  simp only [List.map_id] at hitems
  simp [shape, erase, hitems, hsource, hjoins, hfilters, hgroups, horders,
    erase_count hlimit, erase_count hoffset]

end Select

/-! ### Changes -/

namespace Insert

/-- An INSERT behind its table. -/
def behindTable : List (String × Value) → List Piece
  | [] => [.text " DEFAULT VALUES"]
  | values =>
    .text " (" :: (Piece.separate ", " (values.map fun (column, _) => [.ident column]) ++
      .text ") VALUES (" :: (Piece.separate ", " (values.map fun (_, value) => [.value value]) ++
        [.text ")"]))

lemma pieces_eq (s : Insert) :
    s.pieces = .text "INSERT INTO " :: .ident s.table :: behindTable s.values := by
  obtain ⟨table, values⟩ := s
  cases values <;> simp [pieces, behindTable]

lemma begins_behindTable (d : Dialect) (values : List (String × Value)) :
    Begins d [" DEFAULT VALUES", " ("] (behindTable values) := by
  cases values <;> exact Piece.begins_text (by simp)

lemma columns_eq {values values' : List (String × Value)}
    (h : Same d (behindTable values) (behindTable values')) :
    values.map Prod.fst = values'.map Prod.fst := by
  have hcolumn : Reads d (fun _ => True) (fun (pair : String × Value) => [.ident pair.1]) Prod.fst
      [", ", ") VALUES ("] :=
    (Piece.reads_ident (by cases d <;> decide)).of_eq Prod.fst (fun _ h => h) (fun _ => rfl)
      fun _ _ h => h
  cases values with
  | nil =>
    cases values' with
    | nil => rfl
    | cons => exact absurd (by decide) h.not_apart
  | cons =>
    cases values' with
    | nil => exact absurd (by decide) h.not_apart
    | cons =>
      exact (hcolumn.separate (by decide) (by decide) ⟨by simp, by simp⟩ ⟨by simp, by simp⟩
        (Piece.begins_text (by simp)) (Piece.begins_text (by simp)) h.text).1

lemma shape_eq {s s' : Insert} (h : (s.render d).sql = (s'.render d).sql) :
    s.table = s'.table ∧ s.values.map Prod.fst = s'.values.map Prod.fst := by
  have hsame : Same d s.pieces s'.pieces := Statement.same_of_sql h
  rw [s.pieces_eq, s'.pieces_eq] at hsame
  obtain ⟨htable, hrest⟩ := hsame.text.ident (begins_behindTable d _) (begins_behindTable d _)
    (by cases d <;> decide)
  exact ⟨htable, columns_eq hrest⟩

end Insert

lemma Filter.clause_eq {filters filters' : List Filter} (h : ∀ f ∈ filters, f.NonEmpty)
    (h' : ∀ f ∈ filters', f.NonEmpty) (hsame : Same d (clause filters) (clause filters')) :
    filters.map erase = filters'.map erase := by
  rw [← List.append_nil (clause filters), ← List.append_nil (clause filters')] at hsame
  have hreads : Reads d (fun l => ∀ f ∈ l, f.NonEmpty) clause (List.map erase) [] :=
    Filter.reads_clause (by cases d <;> decide) (by simp) (by simp)
  exact (hreads h h' (Piece.begins_nil d []) (Piece.begins_nil d []) hsame).1

lemma Filter.begins_clause (d : Dialect) (filters : List Filter) :
    Begins d [" WHERE "] (clause filters) := by
  rw [← List.append_nil (clause filters)]
  exact Piece.begins_clause List.mem_cons_self (Piece.begins_nil d _)

lemma Update.shape_eq {s s' : Update} (hf : ∀ f ∈ s.filters, f.NonEmpty)
    (hf' : ∀ f ∈ s'.filters, f.NonEmpty) {written written' : Statement}
    (hs : s.render? d = some written) (hs' : s'.render? d = some written')
    (h : written.sql = written'.sql) : s.table = s'.table ∧
      s.assignments.map Prod.fst = s'.assignments.map Prod.fst ∧
      s.filters.map Filter.erase = s'.filters.map Filter.erase := by
  have hrender : ∀ {s : Update} {written : Statement}, s.render? d = some written →
      s.assignments ≠ [] ∧ written = .ofPieces d s.pieces := by
    intro s written hs
    unfold render? at hs
    split at hs
    · cases hs
    · rename_i hne
      exact ⟨by simpa using hne, (Option.some.inj hs).symm⟩
  obtain ⟨hne, rfl⟩ := hrender hs
  obtain ⟨hne', rfl⟩ := hrender hs'
  have hsame := Statement.same_of_sql h
  simp only [pieces, List.cons_append] at hsame
  have hassign : Reads d (fun _ => True)
      (fun ((column, value) : String × Value) => [.ident column, .text " = ", .value value])
      Prod.fst [", ", " WHERE "] := by
    rintro ⟨column, value⟩ ⟨column', value'⟩ p q - - hp hq hsame
    obtain ⟨hcolumn, hrest⟩ := hsame.ident Piece.begins_self Piece.begins_self
      (by cases d <;> decide)
    exact ⟨hcolumn, hrest.text.value⟩
  obtain ⟨htable, hsame⟩ := hsame.text.ident Piece.begins_self Piece.begins_self
    (by cases d <;> decide)
  obtain ⟨hcolumns, hsame⟩ := hassign.separate (by decide) (by decide) ⟨hne, by simp⟩
    ⟨hne', by simp⟩ (Filter.begins_clause d _) (Filter.begins_clause d _) hsame.text
  exact ⟨htable, hcolumns, Filter.clause_eq hf hf' hsame⟩

lemma Delete.shape_eq {s s' : Delete} (hf : ∀ f ∈ s.filters, f.NonEmpty)
    (hf' : ∀ f ∈ s'.filters, f.NonEmpty) (h : (s.render d).sql = (s'.render d).sql) :
    s.table = s'.table ∧ s.filters.map Filter.erase = s'.filters.map Filter.erase := by
  have hsame : Same d s.pieces s'.pieces := Statement.same_of_sql h
  obtain ⟨htable, hrest⟩ := hsame.text.ident (Filter.begins_clause d _) (Filter.begins_clause d _)
    (by cases d <;> decide)
  exact ⟨htable, Filter.clause_eq hf hf' hrest⟩

/-- **Statements are read back from their text**: SELECTs, INSERTs, UPDATEs and DELETEs that are
written alike have the same tables, columns, joins, filters and clauses, whatever characters their
names are made of. Only values, and aliases that are not written, may differ. -/
theorem Dialect.readable (d : Dialect) :
    (∀ s s' : Select, s.Readable → s'.Readable → (s.render d).sql = (s'.render d).sql →
      s.shape = s'.shape) ∧
    (∀ s s' : Insert, (s.render d).sql = (s'.render d).sql →
      s.table = s'.table ∧ s.values.map Prod.fst = s'.values.map Prod.fst) ∧
    (∀ s s' : Update, (∀ f ∈ s.filters, f.NonEmpty) → (∀ f ∈ s'.filters, f.NonEmpty) →
      ∀ written written', s.render? d = some written → s'.render? d = some written' →
      written.sql = written'.sql → s.table = s'.table ∧
        s.assignments.map Prod.fst = s'.assignments.map Prod.fst ∧
        s.filters.map Filter.erase = s'.filters.map Filter.erase) ∧
    ∀ s s' : Delete, (∀ f ∈ s.filters, f.NonEmpty) → (∀ f ∈ s'.filters, f.NonEmpty) →
      (s.render d).sql = (s'.render d).sql → s.table = s'.table ∧
        s.filters.map Filter.erase = s'.filters.map Filter.erase :=
  ⟨fun _ _ hs hs' h => Select.shape_eq hs hs' h, fun _ _ h => Insert.shape_eq h,
    fun _ _ hf hf' _ _ hs hs' h => Update.shape_eq hf hf' hs hs' h,
    fun _ _ hf hf' h => Delete.shape_eq hf hf' h⟩

/-- A SELECT whose names are full of what stands between names. -/
def Select.ofMarks (asName : String) (value : Value) : Select where
  source := ⟨"t\" AS \"s", asName⟩
  items := [.column (.qualified "a.b" "c\".\"d") none, .column (.bare "e") (some "f\", \"g")]
  joins := [⟨.left, .table ⟨"u", ""⟩, .conditions [(.bare "x AND y", .le, .qualified "u" "z")]⟩,
    ⟨.cross, .table ⟨"v", "w"⟩, .free⟩]
  filters := [.compare (.bare "k = ?") .eq value, .oneOf (.bare "n") [value, value]]
  offset := some 5

def Update.ofMarks (value : Value) : Update where
  table := "t\" SET \"a"
  assignments := [("b = ?", value), ("c\"", value)]
  filters := [.like (.qualified "t" "d' AND") value, .oneOf (.bare "n") [value]]

theorem Dialect.readable_marks :
    let s := Select.ofMarks "" (.integer 1)
    let s' := Select.ofMarks "t\" AS \"s" (.text "\"")
    let u := Update.ofMarks (.integer 1)
    let u' := Update.ofMarks (.text "\"")
    s ≠ s' ∧ s.shape = s'.shape ∧ u ≠ u' ∧
      u.assignments.map Prod.fst = u'.assignments.map Prod.fst ∧
      u.filters.map Filter.erase = u'.filters.map Filter.erase := by
  intro s s' u u'
  have hreadable : ∀ asName value, (Select.ofMarks asName value).Readable := fun asName value =>
    { selects := by simp [Select.ofMarks]
      items := by simp [Select.ofMarks, SelectItem.IsColumn]
      joins := by
        simp only [Select.ofMarks, List.forall_mem_cons]
        exact ⟨⟨⟨_, rfl⟩, by decide⟩, ⟨⟨_, rfl⟩, by decide⟩, by simp⟩
      filters := by simp [Select.ofMarks, Filter.NonEmpty] }
  have hfilters : ∀ value, ∀ f ∈ (Update.ofMarks value).filters, f.NonEmpty := by
    simp [Update.ofMarks, Filter.NonEmpty]
  have hs : (s.render .sqlite).sql = (s'.render .sqlite).sql := by decide +kernel
  have hu : (Statement.ofPieces .sqlite u.pieces).sql =
      (Statement.ofPieces .sqlite u'.pieces).sql := by decide +kernel
  obtain ⟨hselects, -, hupdates, -⟩ := Dialect.readable .sqlite
  exact ⟨by decide, hselects s s' (hreadable _ _) (hreadable _ _) hs, by decide,
    (hupdates u u' (hfilters _) (hfilters _) _ _ rfl rfl hu).2⟩

end RelationQuery
