import RelationQuery.Proofs.Sql.Reading

/-!
Columns, tables, joins and filters are read back from a statement's text. A name may be made of any
characters, but what stands around it is not: behind every part come only a few texts, none of
which could belong to the part itself.
-/

namespace RelationQuery

open Piece (Reads Begins Same)

variable {d : Dialect} {starts : List String}

/-- None of the texts goes on with a name. -/
def EndsName (d : Dialect) (starts : List String) : Prop :=
  ∀ s ∈ starts, Apart s.toList [d.nameMark] ∧ Apart s.toList ".".toList

instance (d : Dialect) (starts : List String) : Decidable (EndsName d starts) :=
  inferInstanceAs (Decidable (∀ s ∈ starts, _))

lemma endsName_cons {s : String} : EndsName d (s :: starts) ↔
    (Apart s.toList [d.nameMark] ∧ Apart s.toList ".".toList) ∧ EndsName d starts :=
  List.forall_mem_cons

/-! ### Columns and tables -/

lemma EndsName.mark (h : EndsName d starts) : ∀ s ∈ starts, Apart s.toList [d.nameMark] :=
  fun s hs => (h s hs).1

lemma Column.reads (h : EndsName d starts) : Reads d (fun _ => True) Column.pieces id starts := by
  have hdot : ∀ s ∈ "." :: starts, Apart s.toList [d.nameMark] := by
    rw [List.forall_mem_cons]
    exact ⟨by cases d <;> decide, h.mark⟩
  have hparts := (Piece.reads_ident hdot).optional (Piece.reads_ident h.mark) (by decide)
    fun s hs => (h s hs).2
  -- the first name is the qualifier if there is another one
  refine hparts.of_eq (fun c : Column => (c.qualifier.getD c.name, c.qualifier.map fun _ => c.name))
    (fun c _ => by simp) (fun c => ?_) fun c c' hview => ?_
  · obtain ⟨qualifier, name⟩ := c
    cases qualifier <;> rfl
  · obtain ⟨qualifier, name⟩ := c
    obtain ⟨qualifier', name'⟩ := c'
    cases qualifier <;> cases qualifier' <;> simp_all

/-- The alias of a table, if it is written. -/
def Table.alias? (t : Table) : Option String :=
  if t.asName.isEmpty || t.asName == t.name then none else some t.asName

/-- The table as it is written: under its own name where it has no other. -/
def Table.written (t : Table) : Table := ⟨t.name, t.alias?.getD t.name⟩

lemma Table.reads (h : ∀ s ∈ starts, Apart s.toList [d.nameMark])
    (has : ∀ s ∈ starts, Apart s.toList " AS ".toList) :
    Reads d (fun _ => True) Table.pieces Table.written starts := by
  have hmark : ∀ s ∈ " AS " :: starts, Apart s.toList [d.nameMark] := by
    rw [List.forall_mem_cons]
    exact ⟨by cases d <;> decide, h⟩
  have hparts := (Piece.reads_ident hmark).optional (Piece.reads_ident h) (by decide) has
  refine hparts.of_eq (fun t : Table => (t.name, t.alias?)) (fun t _ => by simp) (fun t => ?_)
    fun t t' hview => ?_
  · unfold pieces alias?
    split <;> rfl
  · simp_all [written]

/-! ### Select lists -/

/-- The item is a column; SQL that is passed through has no reading of its own. -/
def SelectItem.IsColumn : SelectItem → Prop
  | .column _ _ => True
  | .expression _ _ => False

lemma SelectItem.reads (h : EndsName d starts) (has : ∀ s ∈ starts, Apart s.toList " AS ".toList) :
    Reads d SelectItem.IsColumn SelectItem.pieces id starts := by
  have hends : EndsName d (" AS " :: starts) := endsName_cons.mpr ⟨by cases d <;> decide, h⟩
  have hparts := (Column.reads hends).optional (Piece.reads_ident h.mark) (by decide) has
  have hcolumn : ∀ i : SelectItem, i.IsColumn → ∃ c asName, i = .column c asName := by
    intro i hi
    cases i with
    | column c asName => exact ⟨c, asName, rfl⟩
    | expression => exact hi.elim
  intro i i' p q hi hi' hp hq hsame
  obtain ⟨c, asName, rfl⟩ := hcolumn i hi
  obtain ⟨c', asName', rfl⟩ := hcolumn i' hi'
  have hpieces : ∀ (c : Column) (asName : Option String), (SelectItem.column c asName).pieces =
      c.pieces ++ Piece.optional " AS " (fun name => [.ident name]) asName := by
    intro c asName
    cases asName <;> rfl
  rw [hpieces, hpieces] at hsame
  obtain ⟨hview, hrest⟩ := @hparts (c, asName) (c', asName') p q (by simp) (by simp) hp hq hsame
  simp_all

/-! ### Comparisons -/

def Comparison.texts : List String := [" = ", " <> ", " < ", " <= ", " > ", " >= "]

lemma Comparison.text_mem (op : Comparison) : " " ++ op.sql ++ " " ∈ texts := by
  cases op <;> decide

lemma Comparison.eq_of_same {op op' : Comparison} {p q : List Piece}
    (h : Same d (.text (" " ++ op.sql ++ " ") :: p) (.text (" " ++ op'.sql ++ " ") :: q)) :
    op = op' := by
  by_contra hne
  refine h.not_apart ?_
  revert hne
  cases op <;> cases op' <;> decide

lemma Comparison.endsName (d : Dialect) : EndsName d texts := by
  cases d <;> decide

/-- The comparisons of a join. -/
lemma Comparison.reads (h : EndsName d starts) : Reads d (fun _ => True)
    (fun ((left, op, right) : Column × Comparison × Column) => op.relate left right.pieces) id
    starts := by
  rintro ⟨left, op, right⟩ ⟨left', op', right'⟩ p q - - hp hq hsame
  simp only [relate, List.append_assoc, List.cons_append] at hsame
  obtain ⟨hleft, hsame⟩ := Column.reads (endsName d) trivial trivial
    (Piece.begins_text op.text_mem) (Piece.begins_text op'.text_mem) hsame
  obtain rfl := eq_of_same hsame
  obtain ⟨hright, hsame⟩ := Column.reads h trivial trivial hp hq hsame.text
  simp_all

/-! ### Joins -/

lemma JoinTie.reads (h : EndsName d starts) (hon : ∀ s ∈ starts, Apart s.toList " ON ".toList)
    (husing : ∀ s ∈ starts, Apart s.toList " USING (".toList)
    (hand : ∀ s ∈ starts, Apart s.toList " AND ".toList) :
    Reads d (· ≠ .conditions []) JoinTie.pieces id starts := by
  have hends : EndsName d (" AND " :: starts) := endsName_cons.mpr ⟨by cases d <;> decide, h⟩
  have hterms := (Comparison.reads hends).separate (by decide) hand
  intro tie tie' p q hne hne' hp hq hsame
  cases tie with
  | free =>
    cases tie' with
    | free => exact ⟨rfl, hsame⟩
    | conditions => exact (hsame.symm.not_begins hp (by decide) hon).elim
    | shared => exact (hsame.symm.not_begins hp (by decide) husing).elim
  | conditions terms =>
    cases tie' with
    | free => exact (hsame.not_begins hq (by decide) hon).elim
    | shared => exact absurd (by decide) hsame.not_apart
    | conditions terms' =>
      obtain ⟨hview, hsame⟩ := hterms ⟨by simpa using hne, by simp⟩ ⟨by simpa using hne', by simp⟩
        hp hq hsame.text
      exact ⟨by simpa using hview, hsame⟩
  | shared column =>
    cases tie' with
    | free => exact (hsame.not_begins hq (by decide) husing).elim
    | conditions => exact absurd (by decide) hsame.not_apart
    | shared column' =>
      have hclose : ∀ s ∈ [")"], Apart s.toList [d.nameMark] := by
        cases d <;> decide
      obtain ⟨rfl, hrest⟩ := hsame.text.ident Piece.begins_self Piece.begins_self hclose
      exact ⟨rfl, hrest.text⟩

def JoinSource.written : JoinSource → JoinSource
  | .table t => .table t.written
  | .derived sql asName => .derived sql asName

/-- The join with its table as it is written. -/
def JoinClause.written (j : JoinClause) : JoinClause := { j with source := j.source.written }

/-- The join is of a table, and its conditions, if that is its tie, are there. -/
structure JoinClause.Plain (j : JoinClause) : Prop where
  source : ∃ t, j.source = .table t
  tie : j.tie ≠ .conditions []

def JoinKind.texts : List String :=
  [" INNER JOIN ", " LEFT JOIN ", " RIGHT JOIN ", " FULL OUTER JOIN ", " CROSS JOIN "]

lemma JoinKind.eq_of_same {kind kind' : JoinKind} {p q : List Piece}
    (h : Same d (.text (kind.sql ++ " ") :: p) (.text (kind'.sql ++ " ") :: q)) : kind = kind' := by
  by_contra hne
  refine h.not_apart ?_
  revert hne
  cases kind <;> cases kind' <;> decide

lemma JoinTie.begins (tie : JoinTie) {p : List Piece} (hp : Begins d starts p) :
    Begins d (" ON " :: " USING (" :: starts) (tie.pieces ++ p) := by
  cases tie with
  | free => exact hp.mono fun s hs => by simp [hs]
  | conditions => exact Piece.begins_text (by simp)
  | shared => exact Piece.begins_text (by simp)

/-- What may follow a join or the tables before it. -/
structure EndsJoin (d : Dialect) (starts : List String) : Prop where
  name : EndsName d starts
  words : ∀ s ∈ starts, ∀ word ∈ [" AS ", " ON ", " USING (", " AND "], Apart s.toList word.toList

lemma JoinClause.reads (h : EndsJoin d starts) :
    Reads d JoinClause.Plain (fun j => .text " " :: j.pieces) JoinClause.written starts := by
  have hword : ∀ word ∈ [" AS ", " ON ", " USING (", " AND "], ∀ s ∈ starts,
      Apart s.toList word.toList := fun word hword s hs => h.words s hs word hword
  have htie := JoinTie.reads h.name (hword " ON " (by simp)) (hword " USING (" (by simp))
    (hword " AND " (by simp))
  have hmark : ∀ s ∈ " ON " :: " USING (" :: starts, Apart s.toList [d.nameMark] := by
    rw [List.forall_mem_cons, List.forall_mem_cons]
    exact ⟨by cases d <;> decide, by cases d <;> decide, h.name.mark⟩
  have has : ∀ s ∈ " ON " :: " USING (" :: starts, Apart s.toList " AS ".toList := by
    rw [List.forall_mem_cons, List.forall_mem_cons]
    exact ⟨by decide, by decide, hword " AS " (by simp)⟩
  rintro ⟨kind, source, tie⟩ ⟨kind', source', tie'⟩ p q ⟨⟨t, hsource⟩, hne⟩ ⟨⟨t', hsource'⟩, hne'⟩
    hp hq hsame
  simp only at hsource hsource'
  subst hsource hsource'
  simp only [pieces, JoinSource.pieces, List.cons_append, List.append_assoc] at hsame
  obtain rfl := JoinKind.eq_of_same hsame.text
  obtain ⟨htable, hsame⟩ := Table.reads hmark has trivial trivial (tie.begins hp) (tie'.begins hq)
    hsame.text.text
  obtain ⟨hties, hsame⟩ := htie hne hne' hp hq hsame
  simp only [id] at hties
  exact ⟨by simp [written, JoinSource.written, htable, hties], hsame⟩

lemma JoinClause.begins (j : JoinClause) (p : List Piece) (bound : Nat) : ∃ s ∈ JoinKind.texts,
    s ≠ "" ∧ s.toList <+: Piece.write d bound ((.text " " :: j.pieces) ++ p) := by
  refine ⟨" " ++ j.kind.sql ++ " ", ?_, ?_, ?_⟩
  · cases j.kind <;> decide
  · cases j.kind <;> decide
  · simp [pieces, Piece.write]

/-- All joins of a statement. -/
lemma JoinClause.reads_all (h : EndsJoin d (JoinKind.texts ++ starts))
    (hapart : ∀ s ∈ JoinKind.texts, ∀ t ∈ starts, Apart t.toList s.toList) :
    Reads d (fun l => ∀ j ∈ l, j.Plain) (List.flatMap fun j => .text " " :: j.pieces)
      (List.map JoinClause.written) starts :=
  (JoinClause.reads h).flatMap (fun j _ => j.begins) hapart

/-! ### Filters -/

namespace Filter

/-- What stands behind the column of a filter. -/
inductive Keyword where
  | compare (op : Comparison)
  | like
  | oneOf
  | isNull (negated : Bool)
  | between
  deriving DecidableEq

def Keyword.sql : Keyword → String
  | .compare op => " " ++ op.sql ++ " "
  | .like => " LIKE "
  | .oneOf => " IN ("
  | .isNull negated => if negated then " IS NOT NULL" else " IS NULL"
  | .between => " BETWEEN "

def Keyword.all : List Keyword :=
  [.compare .eq, .compare .ne, .compare .lt, .compare .le, .compare .gt, .compare .ge, .like,
    .oneOf, .isNull true, .isNull false, .between]

lemma Keyword.mem_all (k : Keyword) : k ∈ all := by
  cases k with
  | compare op => cases op <;> decide
  | isNull negated => cases negated <;> decide
  | _ => decide

lemma Keyword.eq_of_same {k k' : Keyword} {p q : List Piece}
    (h : Same d (.text k.sql :: p) (.text k'.sql :: q)) : k = k' := by
  have hapart : ∀ k ∈ all, ∀ k' ∈ all, k ≠ k' → Apart k.sql.toList k'.sql.toList := by decide
  by_contra hne
  exact h.not_apart (hapart k k.mem_all k' k'.mem_all hne)

lemma Keyword.endsName (d : Dialect) : EndsName d (all.map sql) := by
  cases d <;> decide

/-- The filter does not ask for a member of the empty list. -/
def NonEmpty : Filter → Prop
  | .oneOf _ values => values ≠ []
  | _ => True

def column : Filter → Column
  | .compare column _ _ | .columns column _ _ | .like column _ | .oneOf column _
  | .isNull column _ | .between column _ _ => column

def keyword : Filter → Keyword
  | .compare _ op _ | .columns _ op _ => .compare op
  | .like _ _ => .like
  | .oneOf _ _ => .oneOf
  | .isNull _ negated => .isNull negated
  | .between _ _ _ => .between

/-- What stands behind the keyword. -/
def operand : Filter → List Piece
  | .compare _ _ value => [.value value]
  | .columns _ _ right => right.pieces
  | .like _ pattern => [.value pattern]
  | .oneOf _ values => Piece.separate ", " (values.map fun v => [.value v]) ++ [.text ")"]
  | .isNull _ _ => []
  | .between _ low high => [.value low, .text " AND ", .value high]

lemma pieces_eq {f : Filter} (h : f.NonEmpty) :
    f.pieces = f.column.pieces ++ .text f.keyword.sql :: f.operand := by
  cases f with
  | oneOf column values =>
    obtain ⟨value, rest, rfl⟩ := List.exists_cons_of_ne_nil h
    simp [pieces, Filter.column, keyword, operand, Keyword.sql]
  | isNull column negated => rfl
  | _ => simp [pieces, Filter.column, keyword, operand, Keyword.sql, Comparison.relate]

/-- A column is not written like a value. -/
lemma not_same_value {c : Column} {v : Value} {p q : List Piece} :
    ¬ Same d (.value v :: p) (c.pieces ++ q) := by
  rintro ⟨bound, h⟩
  have hhead : (Piece.write d bound (c.pieces ++ q)).head? = some d.nameMark := by
    obtain ⟨qualifier, name⟩ := c
    cases qualifier <;>
      simp [Column.pieces, Piece.write, Dialect.quoteName, Text.quote, Text.enclose]
  obtain ⟨c, rest, hplaceholder, hne⟩ :
      ∃ c rest, (d.placeholder (bound + 1)).toList = c :: rest ∧ c ≠ d.nameMark := by
    cases d with
    | postgresql =>
      exact ⟨'$', _, by simp [Dialect.placeholder, Dialect.numbersPlaceholders]; rfl, by decide⟩
    | sqlite | mysql =>
      exact ⟨'?', [], by simp [Dialect.placeholder, Dialect.numbersPlaceholders], by decide⟩
  rw [← h, Piece.write, hplaceholder] at hhead
  exact hne (Option.some.inj hhead)

/-- Filters of one column and one keyword have operands of one kind. -/
lemma operand_reads (h : EndsName d starts) {f f' : Filter} {p q : List Piece}
    (hf : f.NonEmpty) (hf' : f'.NonEmpty) (hcolumn : f.column = f'.column)
    (hkeyword : f.keyword = f'.keyword) (hp : Begins d starts p) (hq : Begins d starts q)
    (hsame : Same d (f.operand ++ p) (f'.operand ++ q)) : f.erase = f'.erase ∧ Same d p q := by
  -- only comparisons, with a value or with a column, share their keywords with another kind
  cases f with
  | compare column op value =>
    cases f' with
    | compare column' op' value' =>
      cases hkeyword
      exact ⟨by simp_all [erase, Filter.column], hsame.value⟩
    | columns left op' right => exact absurd hsame not_same_value
    | _ => cases hkeyword
  | columns left op right =>
    cases f' with
    | compare column' op' value' => exact absurd hsame.symm not_same_value
    | columns left' op' right' =>
      cases hkeyword
      obtain ⟨hright, hrest⟩ := Column.reads h trivial trivial hp hq hsame
      exact ⟨by simp_all [erase, Filter.column], hrest⟩
    | _ => cases hkeyword
  | like column pattern =>
    cases f' with
    | like column' pattern' => exact ⟨by simp_all [erase, Filter.column], hsame.value⟩
    | _ => cases hkeyword
  | oneOf column values =>
    cases f' with
    | oneOf column' values' =>
      have hvalues : Reads d (fun l => l ≠ [] ∧ ∀ v ∈ l, True)
          (fun l => Piece.separate ", " (l.map fun v => [.value v])) (List.map fun _ => ()) [")"] :=
        Piece.reads_value.separate (by decide) (by decide)
      simp only [operand, List.append_assoc] at hsame
      obtain ⟨hlength, hrest⟩ := hvalues ⟨hf, by simp⟩ ⟨hf', by simp⟩
        Piece.begins_self Piece.begins_self hsame
      have hlength' : values.length = values'.length := by
        simpa using congrArg List.length hlength
      have hcolumn' : column = column' := hcolumn
      exact ⟨by simp [erase, hcolumn', hlength'], hrest.text⟩
    | _ => cases hkeyword
  | isNull column negated =>
    cases f' with
    | isNull column' negated' =>
      cases hkeyword
      exact ⟨by simp_all [erase, Filter.column], hsame⟩
    | _ => cases hkeyword
  | between column low high =>
    cases f' with
    | between column' low' high' =>
      exact ⟨by simp_all [erase, Filter.column], hsame.value.text.value⟩
    | _ => cases hkeyword

lemma reads (h : EndsName d starts) : Reads d NonEmpty Filter.pieces Filter.erase starts := by
  intro f f' p q hf hf' hp hq hsame
  rw [pieces_eq hf, pieces_eq hf'] at hsame
  simp only [List.append_assoc, List.cons_append] at hsame
  have hbegins : ∀ (k : Keyword) p, Begins d (Keyword.all.map Keyword.sql) (.text k.sql :: p) :=
    fun k p => Piece.begins_text (List.mem_map_of_mem k.mem_all)
  obtain ⟨hcolumn, hsame⟩ :=
    Column.reads (Keyword.endsName d) trivial trivial (hbegins _ _) (hbegins _ _) hsame
  have hkeyword := Keyword.eq_of_same hsame
  rw [hkeyword] at hsame
  exact operand_reads h hf hf' hcolumn hkeyword hp hq hsame.text

/-- WHERE clauses. -/
lemma reads_clause (h : EndsName d (" AND " :: starts))
    (hand : ∀ s ∈ starts, Apart s.toList " AND ".toList)
    (hwhere : ∀ s ∈ starts, Apart s.toList " WHERE ".toList) :
    Reads d (fun l => ∀ f ∈ l, f.NonEmpty) Filter.clause (List.map Filter.erase) starts :=
  (Filter.reads h).clause (by decide) hand (by decide) hwhere

end Filter

/-! ### Groups, orders and pages -/

lemma Column.reads_groups (h : EndsName d (", " :: starts))
    (hcomma : ∀ s ∈ starts, Apart s.toList ", ".toList)
    (hgroup : ∀ s ∈ starts, Apart s.toList " GROUP BY ".toList) :
    Reads d (fun l => ∀ c ∈ l, True) (fun l => Piece.clause " GROUP BY " ", " (l.map Column.pieces))
      (List.map id) starts :=
  (Column.reads h).clause (by decide) hcomma (by decide) hgroup

/-- A column and the direction that rows are ordered in by it. -/
lemma Direction.reads : Reads d (fun _ => True)
    (fun ((column, direction) : Column × Direction) =>
      column.pieces ++ [Piece.text (" " ++ direction.sql)]) id starts := by
  have hends : EndsName d [" ASC", " DESC"] := by cases d <;> decide
  have hmem : ∀ direction : Direction, " " ++ direction.sql ∈ [" ASC", " DESC"] := by
    intro direction
    cases direction <;> decide
  rintro ⟨column, direction⟩ ⟨column', direction'⟩ p q - - hp hq hsame
  simp only [List.append_assoc, List.cons_append, List.nil_append] at hsame
  obtain ⟨hcolumn, hsame⟩ := Column.reads hends trivial trivial
    (Piece.begins_text (hmem direction)) (Piece.begins_text (hmem direction')) hsame
  have hdirection : direction = direction' := by
    by_contra hne
    refine hsame.not_apart ?_
    revert hne
    cases direction <;> cases direction' <;> decide
  subst hdirection
  exact ⟨by simpa using hcolumn, hsame.text⟩

lemma Direction.reads_orders (hcomma : ∀ s ∈ starts, Apart s.toList ", ".toList)
    (horder : ∀ s ∈ starts, Apart s.toList " ORDER BY ".toList) :
    Reads d (fun l => ∀ c ∈ l, True)
      (fun l => Piece.clause " ORDER BY " ", "
        (l.map fun ((column, direction) : Column × Direction) =>
          column.pieces ++ [Piece.text (" " ++ direction.sql)]))
      (List.map id) starts :=
  Direction.reads.clause (by decide) hcomma (by decide) horder

/-- A page at the end of a statement shows whether it has a limit and whether it has an offset. -/
lemma Select.page_eq {limit limit' offset offset' : Option UInt64}
    (h : Same d (pagePieces d limit offset) (pagePieces d limit' offset')) :
    limit.isSome = limit'.isSome ∧ offset.isSome = offset'.isSome := by
  obtain ⟨bound, h⟩ := h
  -- each dialect has four pages, of which no two are written alike
  cases d <;> cases limit <;> cases limit' <;> cases offset <;> cases offset' <;>
    simp [pagePieces, Piece.write, Dialect.unlimited?, Dialect.placeholder,
      Dialect.numbersPlaceholders] at h ⊢

end RelationQuery
