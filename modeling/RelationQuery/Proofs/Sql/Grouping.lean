import Mathlib.Data.List.Dedup
import Mathlib.Order.Lattice
import RelationQuery.Sql.Select

/-!
What grouped statements answer. Rows are taken as they come out of FROM, by the values of their
columns; what the expressions of a statement make of the rows of a group is left open. Comparisons
may be with the row of a statement around this one, and then that row has the column on the left.
-/

namespace RelationQuery

/-- A row by its columns. A column without a value is NULL. -/
abbrev Tuple (K : Type) := Column → Option K

/-- What a row of an answer holds: values of columns, and what was made of the rows of a group. -/
inductive Cell (K O : Type) where
  | value (v : Option K)
  | array (elements : List O)

def Cell.value? {K O : Type} : Cell K O → Option K
  | .value v => v
  | .array _ => none

def Cell.array? {K O : Type} : Cell K O → Option (List O)
  | .value _ => none
  | .array elements => some elements

/-! ### Groups -/

/-- The groups of rows that have the same key. -/
def groupsBy {α β : Type} [DecidableEq β] (key : α → β) (rows : List α) : List (List α) :=
  (rows.map key).dedup.map fun k => rows.filter (key · = k)

section Groups

variable {α β : Type} [DecidableEq β] {key : α → β} {rows : List α}

lemma dedup_filter (keep : β → Bool) (keys : List β) :
    (keys.filter keep).dedup = keys.dedup.filter keep := by
  induction keys with
  | nil => rfl
  | cons k rest ih =>
    by_cases hkeep : keep k = true <;> by_cases hmem : k ∈ rest <;>
      simp [hkeep, hmem, ih]

/-- Some row of each group has the key of them all. -/
lemma exists_head_of_mem {k : β} (hk : k ∈ (rows.map key).dedup) :
    ∃ row, (rows.filter (key · = k)).head? = some row ∧ key row = k := by
  obtain ⟨row, hrow, hkey⟩ := List.mem_map.mp (List.mem_dedup.mp hk)
  have hne : rows.filter (key · = k) ≠ [] :=
    List.ne_nil_of_mem (List.mem_filter.mpr ⟨hrow, by simpa using hkey⟩)
  obtain ⟨first, others, hsplit⟩ := List.exists_cons_of_ne_nil hne
  refine ⟨first, by rw [hsplit, List.head?_cons], ?_⟩
  have hfirst : first ∈ rows.filter (key · = k) := hsplit ▸ List.mem_cons_self
  simpa using (List.mem_filter.mp hfirst).2

/-- It is the same to drop groups by their key and to drop rows by theirs and group the rest. -/
lemma groupsBy_filter (keep : β → Bool) :
    (groupsBy key rows).filter (fun group => group.head?.any (keep ∘ key)) =
      groupsBy key (rows.filter (keep ∘ key)) := by
  set keys := (rows.map key).dedup with hkeys
  have hgroups : ∀ k ∈ keys, (rows.filter (key · = k)).head?.any (keep ∘ key) = keep k := by
    intro k hk
    obtain ⟨row, hrow, rfl⟩ := exists_head_of_mem hk
    rw [hrow]
    rfl
  have hrows : ∀ k ∈ keys.filter keep,
      rows.filter (key · = k) = (rows.filter (keep ∘ key)).filter (key · = k) := by
    intro k hk
    rw [List.filter_filter]
    refine List.filter_congr fun row _ => ?_
    by_cases hkey : key row = k
    · simp [hkey, (List.mem_filter.mp hk).2]
    · simp [hkey]
  calc (groupsBy key rows).filter (fun group => group.head?.any (keep ∘ key))
      = (keys.filter keep).map fun k => rows.filter (key · = k) := by
        rw [groupsBy, List.filter_map, ← hkeys]
        exact congrArg _ (List.filter_congr hgroups)
    _ = (keys.filter keep).map fun k => (rows.filter (keep ∘ key)).filter (key · = k) :=
        List.map_congr_left hrows
    _ = groupsBy key (rows.filter (keep ∘ key)) := by
        rw [groupsBy, ← List.filter_map, dedup_filter]

/-- Rows that all have one key are one group. -/
lemma groupsBy_const {k : β} (h : ∀ row ∈ rows, key row = k) (hne : rows ≠ []) :
    groupsBy key rows = [rows] := by
  have hkeys : rows.map key = List.replicate rows.length k := List.map_eq_replicate_iff.mpr h
  have hall : rows.filter (key · = k) = rows :=
    List.filter_eq_self.mpr fun row hrow => by simpa using h row hrow
  have hlength : rows.length ≠ 0 := by simpa using hne
  rw [groupsBy, hkeys, List.replicate_dedup hlength, List.map_singleton, hall]

/-- Every row is in one group, as often as it was there. -/
lemma groupsBy_perm : (groupsBy key rows).flatten.Perm rows := by
  suffices hkeys : ∀ keys : List β, keys.Nodup →
      (keys.flatMap fun k => rows.filter (key · = k)).Perm (rows.filter (key · ∈ keys)) by
    rw [groupsBy, ← List.flatMap_def]
    refine (hkeys _ (List.nodup_dedup _)).trans (List.Perm.of_eq ?_)
    refine List.filter_eq_self.mpr fun row hrow => ?_
    simpa using ⟨row, hrow, rfl⟩
  intro keys hnodup
  induction keys with
  | nil => simp
  | cons k rest ih =>
    obtain ⟨hk, hrest⟩ := List.nodup_cons.mp hnodup
    rw [List.flatMap_cons]
    refine ((ih hrest).append_left _).trans ?_
    -- of the rows with these keys, those with the first one and the others
    refine List.Perm.trans (List.Perm.of_eq ?_)
      (List.filter_append_perm (key · = k) (rows.filter (key · ∈ k :: rest)))
    rw [List.filter_filter, List.filter_filter]
    congr 1 <;> refine List.filter_congr fun row _ => ?_
    · by_cases hkey : key row = k <;> simp [hkey]
    · by_cases hkey : key row = k <;> simp [hkey, hk]

end Groups

section Values

variable {K : Type} [LinearOrder K]

/-! ### Comparisons -/

/-- What a comparison says of two values. -/
def Comparison.relates (op : Comparison) (a b : K) : Bool :=
  match op with
  | .eq => a = b
  | .ne => a ≠ b
  | .lt => a < b
  | .le => a ≤ b
  | .gt => a > b
  | .ge => a ≥ b

/-- Whether a comparison holds: never, if a side is NULL. -/
def Comparison.holds (op : Comparison) (left right : Option K) : Bool :=
  match left, right with
  | some a, some b => op.relates a b
  | _, _ => false

lemma Comparison.eq_of_holds {left right : Option K} (h : Comparison.eq.holds left right = true) :
    left = right := by
  cases left <;> cases right <;> simp_all [holds, relates]

/-- Whether a row meets comparisons with the one around it. -/
def Tuple.meets (around row : Tuple K) (terms : List (Column × Comparison × Column)) : Bool :=
  terms.all fun (left, op, right) => op.holds (around left) (row right)

/-- The comparison of two columns that a filter makes. -/
def Filter.comparison? : Filter → Option (Column × Comparison × Column)
  | .columns left op right => some (left, op, right)
  | _ => none

/-! ### Statements -/

variable {O : Type}

def SelectItem.cell (gather : List (Tuple K) → List O) (group : List (Tuple K)) :
    SelectItem → Cell K O
  | .column c _ => .value (group.head?.bind (· c))
  | .expression _ _ => .array (gather group)

/-- The rows that a grouped statement answers, where all filters compare columns. -/
def Select.results (s : Select) (gather : List (Tuple K) → List O) (around : Tuple K)
    (rows : List (Tuple K)) : List (List (Cell K O)) :=
  let kept := rows.filter (Tuple.meets around · (s.filters.filterMap Filter.comparison?))
  (groupsBy (s.groupBy.map ·) kept).map fun group => s.items.map (SelectItem.cell gather group)

end Values

end RelationQuery
