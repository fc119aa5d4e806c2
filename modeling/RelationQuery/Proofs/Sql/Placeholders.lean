import Mathlib.Data.List.Basic
import RelationQuery.Proofs.Sql.Scope

/-!
Placeholders. A written statement is made of texts with one placeholder between each two, and the
placeholders are numbered in the order of the values they stand for. What the values are does not
show in the texts.
-/

namespace RelationQuery

/-- Texts with a placeholder between each two, behind `bound` others. -/
def Dialect.weave (d : Dialect) (bound : Nat) : List (List Char) → List Char
  | [] => []
  | [text] => text
  | text :: next :: rest =>
    text ++ (d.placeholder (bound + 1)).toList ++ d.weave (bound + 1) (next :: rest)

lemma Dialect.weave_modifyHead {d : Dialect} {bound : Nat} {texts : List (List Char)}
    (before : List Char) (h : texts ≠ []) :
    d.weave bound (texts.modifyHead (before ++ ·)) = before ++ d.weave bound texts := by
  cases texts with
  | nil => exact absurd rfl h
  | cons text rest => cases rest <;> simp [weave]

namespace Piece

variable {d : Dialect} {first second pieces : List Piece}

/-! ### Values in their order -/

/-- The values that pieces bind. -/
def values (pieces : List Piece) : List Value := pieces.filterMap bound?

@[simp] lemma values_nil : values [] = [] := rfl

@[simp] lemma values_text (sql : String) : values (.text sql :: pieces) = values pieces := rfl

@[simp] lemma values_ident (name : String) : values (.ident name :: pieces) = values pieces := rfl

@[simp] lemma values_value (v : Value) : values (.value v :: pieces) = v :: values pieces := rfl

@[simp] lemma values_append : values (first ++ second) = values first ++ values second :=
  List.filterMap_append

lemma values_flatMap {α : Type} (l : List α) (f : α → List Piece) :
    values (l.flatMap f) = l.flatMap fun a => values (f a) := by
  induction l with
  | nil => rfl
  | cons a rest ih => simp [ih]

/-! ### Texts between the values -/

/-- The texts before, between and behind the values of pieces. -/
def texts (d : Dialect) : List Piece → List (List Char)
  | [] => [[]]
  | .text sql :: rest => (texts d rest).modifyHead (sql.toList ++ ·)
  | .ident name :: rest => (texts d rest).modifyHead ((d.quoteName name).toList ++ ·)
  | .value _ :: rest => [] :: texts d rest

/-- There is one placeholder for each value. -/
lemma length_texts : (texts d pieces).length = (values pieces).length + 1 := by
  induction pieces with
  | nil => rfl
  | cons piece rest ih => cases piece <;> simp [texts, ih]

lemma texts_ne_nil : texts d pieces ≠ [] := by
  rw [← List.length_pos_iff, length_texts]
  omega

lemma write_eq_weave {bound : Nat} : write d bound pieces = d.weave bound (texts d pieces) := by
  induction pieces generalizing bound with
  | nil => rfl
  | cons piece rest ih =>
    cases piece with
    | text | ident => rw [texts, Dialect.weave_modifyHead _ texts_ne_nil, write, ih]
    | value v =>
      obtain ⟨next, others, hrest⟩ := List.exists_cons_of_ne_nil (texts_ne_nil (d := d))
      rw [texts, write, ih, hrest, Dialect.weave, List.nil_append]

/-- The piece without its value. -/
def erase : Piece → Piece
  | .value _ => .value .null
  | piece => piece

/-- Values do not show in the texts. -/
lemma texts_erase : texts d (pieces.map erase) = texts d pieces := by
  induction pieces with
  | nil => rfl
  | cons piece rest ih => cases piece <;> simp [texts, erase, ih]

/-! ### Lists of parts -/

lemma separate_cons (separator : String) (part : List Piece) (parts : List (List Piece)) :
    separate separator (part :: parts) = part ++ parts.flatMap (.text separator :: ·) := by
  unfold separate
  induction parts generalizing part with
  | nil => simp [List.intercalate]
  | cons next rest ih =>
    simp only [List.intercalate, List.intersperse_cons_cons, List.flatten_cons] at ih ⊢
    simp [ih]

lemma clause_cons (first next : String) (part : List Piece) (parts : List (List Piece)) :
    clause first next (part :: parts) = .text first :: separate next (part :: parts) := by
  rw [separate_cons, clause, List.cons_append]

lemma values_separate (separator : String) (parts : List (List Piece)) :
    values (separate separator parts) = parts.flatMap values := by
  cases parts with
  | nil => rfl
  | cons part rest => simp [separate_cons, values_flatMap]

lemma values_clause (first next : String) (parts : List (List Piece)) :
    values (clause first next parts) = parts.flatMap values := by
  cases parts with
  | nil => rfl
  | cons part rest => rw [clause_cons, values_text, values_separate]

lemma erase_separate (separator : String) (parts : List (List Piece)) :
    (separate separator parts).map erase = separate separator (parts.map (List.map erase)) := by
  cases parts with
  | nil => rfl
  | cons part rest =>
    rw [List.map_cons, separate_cons, separate_cons]
    simp [erase, List.map_flatMap, List.flatMap_map]

lemma erase_clause (first next : String) (parts : List (List Piece)) :
    (clause first next parts).map erase = clause first next (parts.map (List.map erase)) := by
  cases parts with
  | nil => rfl
  | cons part rest =>
    rw [clause_cons, List.map_cons, erase_separate, List.map_cons, clause_cons]
    rfl

end Piece

/-! ### Columns, tables and joins -/

section Parts

open Piece (values)

@[simp] lemma Column.values_pieces (c : Column) : values c.pieces = [] := by
  unfold pieces
  split <;> rfl

@[simp] lemma Column.erase_pieces (c : Column) : c.pieces.map Piece.erase = c.pieces := by
  unfold pieces
  split <;> rfl

@[simp] lemma Table.values_pieces (t : Table) : values t.pieces = [] := by
  unfold pieces
  split <;> rfl

@[simp] lemma SelectItem.values_pieces (i : SelectItem) : values i.pieces = [] := by
  have halias (asName : Option String) : values (aliasPieces asName) = [] := by
    cases asName <;> rfl
  cases i <;> simp [pieces, halias]

@[simp] lemma JoinSource.values_pieces (s : JoinSource) : values s.pieces = [] := by
  cases s with
  | table t => exact t.values_pieces
  | derived => rfl

@[simp] lemma JoinTie.values_pieces (t : JoinTie) : values t.pieces = [] := by
  cases t with
  | free | shared => rfl
  | conditions terms =>
    simp [pieces, Comparison.relate, Piece.values_separate, List.flatMap_map]

@[simp] lemma JoinClause.values_pieces (j : JoinClause) : values j.pieces = [] := by
  simp [pieces]

end Parts

namespace Filter

open Piece (values)

/-- The values that a filter binds. -/
def bound : Filter → List Value
  | .compare _ _ value => [value]
  | .columns _ _ _ | .isNull _ _ => []
  | .like _ pattern => [pattern]
  | .oneOf _ values => values
  | .between _ low high => [low, high]

@[simp] lemma values_pieces (f : Filter) : values f.pieces = f.bound := by
  cases f with
  | oneOf column values =>
    cases values with
    | nil => rfl
    | cons value rest => simp [pieces, bound, Piece.values_separate, List.flatMap_map]
  | _ => simp [pieces, bound, Comparison.relate]

lemma values_clause (filters : List Filter) :
    values (clause filters) = filters.flatMap bound := by
  simp [clause, Piece.values_clause, List.flatMap_map]

/-- The filter without its values; of a list of them, the length is left. -/
def erase : Filter → Filter
  | .compare column op _ => .compare column op .null
  | .columns left op right => .columns left op right
  | .like column _ => .like column .null
  | .oneOf column values => .oneOf column (values.map fun _ => .null)
  | .isNull column negated => .isNull column negated
  | .between column _ _ => .between column .null .null

lemma erase_pieces (f : Filter) : f.pieces.map Piece.erase = f.erase.pieces := by
  cases f with
  | oneOf column values =>
    cases values with
    | nil => rfl
    | cons value rest =>
      simp [pieces, erase, Piece.erase_separate, Piece.erase, Function.comp_def]
  | _ => simp [pieces, erase, Comparison.relate, Piece.erase]

lemma erase_erase (f : Filter) : f.erase.erase = f.erase := by
  cases f <;> simp [erase]

lemma erase_clause (filters : List Filter) :
    (clause filters).map Piece.erase = clause (filters.map erase) := by
  simp [clause, Piece.erase_clause, erase_pieces, Function.comp_def]

end Filter

namespace Select

open Piece (values)

variable {d : Dialect}

/-- A count of rows is bound as itself, up to the greatest signed integer. -/
lemma count_spec (n : UInt64) :
    ∃ i : Int64, count n = .integer i ∧ i.toInt = min (n.toNat : Int) Int64.maxValue.toInt := by
  have hgreatest : Int64.maxValue.toInt = 9223372036854775807 := by decide
  refine ⟨_, rfl, ?_⟩
  rw [Int64.toInt_ofNat_of_lt] <;> omega

/-- The values that a SELECT binds, in their order. -/
def bound (s : Select) : List Value :=
  s.filters.flatMap Filter.bound ++ (s.limit.map count).toList ++ (s.offset.map count).toList

lemma values_pagePieces (limit offset : Option UInt64) :
    values (pagePieces d limit offset) =
      (limit.map count).toList ++ (offset.map count).toList := by
  cases limit <;> cases offset <;> cases d <;> rfl

lemma values_itemPieces (items : List SelectItem) : values (itemPieces items) = [] := by
  cases items with
  | nil => rfl
  | cons item rest => simp [itemPieces, Piece.values_separate, List.flatMap_map]

/-- Values are bound by the filters and the page, and by nothing else. -/
lemma params_render (s : Select) : (s.render d).params = s.bound := by
  have hnone {α : Type} (l : List α) : l.flatMap (fun _ => ([] : List Value)) = [] := by simp
  show values (s.pieces d) = s.bound
  simp [pieces, bound, values_itemPieces, values_pagePieces, Filter.values_clause,
    Piece.values_clause, Piece.values_flatMap, List.flatMap_map, hnone]

/-- The SELECT without its values. -/
def erase (s : Select) : Select :=
  { s with
    filters := s.filters.map Filter.erase
    limit := s.limit.map fun _ => 0
    offset := s.offset.map fun _ => 0 }

/-- Of a count without its value, there is left whether it is given. -/
lemma erase_count {m n : Option UInt64} (h : m.isSome = n.isSome) :
    m.map (fun _ => (0 : UInt64)) = n.map fun _ => 0 := by
  cases m <;> cases n <;> simp_all

lemma erase_pagePieces (limit offset : Option UInt64) :
    (pagePieces d limit offset).map Piece.erase =
      (pagePieces d (limit.map fun _ => 0) (offset.map fun _ => 0)).map Piece.erase := by
  cases limit <;> cases offset <;> cases d <;> rfl

lemma erase_pieces (s : Select) :
    (s.erase.pieces d).map Piece.erase = (s.pieces d).map Piece.erase := by
  have hfilters : (s.filters.map Filter.erase).map Filter.erase = s.filters.map Filter.erase := by
    simp [Filter.erase_erase]
  simp only [pieces, erase, List.map_append, List.map_cons, Filter.erase_clause, hfilters]
  rw [← erase_pagePieces]

/-- SELECTs that differ in their values are written alike, apart from them. -/
lemma texts_eq_of_erase {s s' : Select} (h : s.erase = s'.erase) :
    Piece.texts d (s.pieces d) = Piece.texts d (s'.pieces d) :=
  calc Piece.texts d (s.pieces d)
      = Piece.texts d ((s.pieces d).map Piece.erase) := Piece.texts_erase.symm
    _ = Piece.texts d ((s'.pieces d).map Piece.erase) := by
        rw [← s.erase_pieces, h, s'.erase_pieces]
    _ = Piece.texts d (s'.pieces d) := Piece.texts_erase

end Select

end RelationQuery
