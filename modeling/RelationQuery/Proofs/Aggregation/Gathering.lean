import RelationQuery.Proofs.Aggregation.Silence
import RelationQuery.Proofs.Query.RecordKeys
import RelationQuery.Proofs.Sql.Grouping

/-!
What a level answers for a row around it. Joined to the root, a level has one row for each key of
its rows, and those are kept whose key belongs to the row around. Nested in another level, it has
the rows that belong to the row around, and one row for each key of these. The arrays are the same.
But there is one array, of all the rows that belong, only if the key is compared by equality.
-/

namespace RelationQuery

section Answers

variable {K O : Type} [LinearOrder K]

/-- What a derived table shows of one of its rows: the columns by their names, under its alias. -/
def Select.exposes (s : Select) (asName : String) (cells : List (Cell K O)) : Tuple K := fun c =>
  if c.qualifier = some asName then
    ((s.items.zip cells).find? fun (item, _) => item.resultName = c.name).bind (·.2.value?)
  else none

/-- The array that is aggregated of rows, where `make` is the object of a row. -/
def ObjectTemplate.gather (o : ObjectTemplate) (make : Tuple K → O) (rows : List (Tuple K)) :
    List O :=
  if o.entries.isEmpty then [] else rows.map make

namespace Level

variable (l : Level) (t : Target) (make : Tuple K → O) (rows : List (Tuple K)) (around : Tuple K)

/-- The arrays that a row around gets from the joined form. -/
def joined : List (List O) :=
  let s := l.derivedSelect ((l.object t).aggregate t)
  let derived := s.results ((l.object t).gather make) (fun _ => none) rows
  let kept := derived.filter fun cells =>
    Tuple.meets around (s.exposes l.name cells) (l.joinClause t).tie.terms
  kept.flatMap (·.filterMap Cell.array?)

/-- The arrays that a row around gets from the scalar form. -/
def scalars : List (List O) :=
  ((l.scalarSelect ((l.object t).aggregate t)).results ((l.object t).gather make) around
    rows).flatMap (·.filterMap Cell.array?)

/-- The rows that belong to a row around them. -/
def related : List (Tuple K) :=
  rows.filter fun row =>
    l.correlation.op.holds (around l.correlation.outer) (row l.correlation.inner)

/-- The scalar form keeps the rows that are related and gathers them by their keys. -/
lemma scalars_eq : l.scalars t make rows around =
    (groupsBy (fun row => [row l.correlation.inner]) (l.related rows around)).map
      ((l.object t).gather make) := by
  have hkept : rows.filter (Tuple.meets around ·
      ((l.scalarSelect ((l.object t).aggregate t)).filters.filterMap Filter.comparison?)) =
        l.related rows around := by
    refine List.filter_congr fun row _ => ?_
    simp [scalarSelect, Filter.comparison?, Tuple.meets]
  simp only [scalars, Select.results, hkept, List.flatMap_map]
  exact List.flatMap_pure_eq_map _ _

omit [LinearOrder K] in
/-- The key of a row of the derived table is that of the rows it was gathered from. -/
lemma exposes_key (sql : String) (gather : List (Tuple K) → List O) (group : List (Tuple K)) :
    (l.derivedSelect sql).exposes l.name
        ((l.derivedSelect sql).items.map (SelectItem.cell gather group)) (.qualified l.name l.key) =
      group.head?.bind (· l.correlation.inner) := by
  simp [Select.exposes, derivedSelect, key, SelectItem.resultName, SelectItem.cell, Cell.value?,
    Column.qualified]

/-- The joined form gathers all rows by their keys and keeps what is related. -/
lemma joined_eq : l.joined t make rows around =
    (groupsBy (fun row => [row l.correlation.inner]) (l.related rows around)).map
      ((l.object t).gather make) := by
  let keep (k : List (Option K)) : Bool :=
    l.correlation.op.holds (around l.correlation.outer) (k.head?.bind id)
  have hrelated : l.related rows around =
      rows.filter (keep ∘ fun row => [row l.correlation.inner]) := rfl
  have hgroup (group : List (Tuple K)) :
      l.correlation.op.holds (around l.correlation.outer)
          (group.head?.bind (· l.correlation.inner)) =
        group.head?.any (keep ∘ fun row => [row l.correlation.inner]) := by
    cases group with
    | nil => cases around l.correlation.outer <;> rfl
    | cons row rest => rfl
  set s := l.derivedSelect ((l.object t).aggregate t) with hs
  have hall : rows.filter (Tuple.meets (fun _ => none) · (s.filters.filterMap Filter.comparison?)) =
      rows := List.filter_eq_self.mpr fun _ _ => rfl
  have hmeets : ((fun cells => Tuple.meets around (s.exposes l.name cells)
        (l.joinClause t).tie.terms) ∘
          fun group => s.items.map (SelectItem.cell ((l.object t).gather make) group)) =
      fun group => group.head?.any (keep ∘ fun row => [row l.correlation.inner]) := by
    funext group
    rw [← hgroup, ← exposes_key l ((l.object t).aggregate t) ((l.object t).gather make)]
    exact Bool.and_true _
  rw [hrelated, ← groupsBy_filter]
  simp only [joined, Select.results, ← hs, hall, List.filter_map, List.flatMap_map, hmeets]
  exact List.flatMap_pure_eq_map _ _

/-- Both forms bring the same arrays, one for each key of a related row. In all, they hold the
objects of the related rows. -/
lemma joined_eq_scalars : l.joined t make rows around = l.scalars t make rows around ∧
    ((l.object t).entries ≠ [] →
      (l.joined t make rows around).flatten.Perm ((l.related rows around).map make)) := by
  refine ⟨(l.joined_eq t make rows around).trans (l.scalars_eq t make rows around).symm, ?_⟩
  intro hentries
  have hgather : (l.object t).gather make = List.map make := by
    funext group
    simp [ObjectTemplate.gather, hentries]
  rw [joined_eq, hgather, ← List.map_flatten]
  exact groupsBy_perm.map make

/-- Two related rows with different keys are gathered into two arrays. -/
lemma scalars_of_two {v a b : K} (hne : a ≠ b) (ha : l.correlation.op.relates v a = true)
    (hb : l.correlation.op.relates v b = true) :
    l.scalars t make [fun _ => some a, fun _ => some b] (fun _ => some v) =
      [(l.object t).gather make [fun _ => some a],
        (l.object t).gather make [fun _ => some b]] := by
  have hall : l.related [fun _ => some a, fun _ => some b] (fun _ => some v) =
      [fun _ => some a, fun _ => some b] := by
    simp [related, Comparison.holds, ha, hb]
  rw [scalars_eq, hall]
  simp [groupsBy, hne, hne.symm]

/-- Of arrays that should be one: there is no other, and it holds `objects`; where there is none,
it is the empty array. -/
def OneOf (arrays : List (List O)) (objects : List O) : Prop :=
  arrays.length ≤ 1 ∧ (arrays.headD []).Perm objects

end Level

end Answers

/-- Any other comparison holds with two values. -/
lemma Comparison.exists_two {op : Comparison} (h : op ≠ .eq) :
    ∃ a b : ℤ, a ≠ b ∧ op.relates 0 a = true ∧ op.relates 0 b = true := by
  cases op with
  | eq => exact absurd rfl h
  | ne | lt | le => exact ⟨1, 2, by decide, by decide, by decide⟩
  | gt | ge => exact ⟨-1, -2, by decide, by decide, by decide⟩

namespace Level

/-- In either form, a level brings to every row around it one array, of the objects of all rows that
belong to it. The keys of the rows are not NULL, nor is what they are compared with. -/
def GathersOnce (l : Level) (t : Target) : Prop :=
  ∀ (K O : Type) [LinearOrder K] (make : Tuple K → O) (rows : List (Tuple K)) (around : Tuple K),
    (∀ row ∈ rows, row l.correlation.inner ≠ none) → around l.correlation.outer ≠ none →
      OneOf (l.joined t make rows around) ((l.related rows around).map make) ∧
        OneOf (l.scalars t make rows around) ((l.related rows around).map make)

/-- Compared by equality, the related rows have one key. -/
lemma oneOf_of_eq {l : Level} {t : Target} (hop : l.correlation.op = .eq)
    (hentries : (l.object t).entries ≠ []) {K O : Type} [LinearOrder K] (make : Tuple K → O)
    (rows : List (Tuple K)) (around : Tuple K) :
    OneOf (l.joined t make rows around) ((l.related rows around).map make) := by
  have hkey : ∀ row ∈ l.related rows around,
      [row l.correlation.inner] = [around l.correlation.outer] := by
    intro row hrow
    have hholds := (List.mem_filter.mp hrow).2
    rw [hop] at hholds
    rw [Comparison.eq_of_holds hholds]
  rw [joined_eq]
  by_cases hnone : l.related rows around = []
  · rw [hnone]
    exact ⟨Nat.zero_le _, List.Perm.refl _⟩
  · rw [groupsBy_const hkey hnone, List.map_singleton]
    refine ⟨Nat.le_refl _, List.Perm.of_eq ?_⟩
    simp [ObjectTemplate.gather, hentries]

/-- There is one array of all rows exactly if the key is compared by equality and there is an object
to make of a row. -/
lemma gathersOnce_iff (l : Level) (t : Target) :
    l.GathersOnce t ↔ l.correlation.op = .eq ∧ (l.object t).entries ≠ [] := by
  constructor
  · intro honce
    have hop : l.correlation.op = .eq := by
      by_contra hop
      obtain ⟨a, b, hne, ha, hb⟩ := Comparison.exists_two hop
      obtain ⟨-, hone, -⟩ := honce ℤ (Tuple ℤ) id [fun _ => some a, fun _ => some b]
        (fun _ => some 0) (by simp) (by simp)
      rw [scalars_of_two l t id hne ha hb] at hone
      simp at hone
    refine ⟨hop, fun hempty => ?_⟩
    let rows : List (Tuple ℤ) := [fun _ => some 0]
    have hall : l.related rows (fun _ => some 0) = rows := by
      simp [related, rows, hop, Comparison.holds, Comparison.relates]
    obtain ⟨-, -, hperm⟩ := honce ℤ (Tuple ℤ) id rows (fun _ => some 0) (by simp [rows]) (by simp)
    have hgather : (l.object t).gather id rows = [] := by simp [ObjectTemplate.gather, hempty]
    rw [scalars_eq, hall, groupsBy_const (k := [some 0]) (by simp [rows]) (by simp [rows]),
      List.map_singleton, hgather] at hperm
    simpa [rows] using hperm.length_eq
  · rintro ⟨hop, hentries⟩ K O _ make rows around - -
    have hjoined := oneOf_of_eq hop hentries make rows around
    exact ⟨hjoined, (l.joined_eq_scalars t make rows around).1 ▸ hjoined⟩

end Level

/-- A correlation compares by equality if the condition of its edge does; a shared column always
does. -/
lemma Edge.op_of_correlation {e : Edge} {key : Correlation} (h : e.correlation = .ok key) :
    key.op = .eq ↔ ∀ c ∈ e.predicate.terms, c.op = .eq := by
  unfold correlation at h
  split at h
  · rename_i c hone
    cases h
    simp [hone, Predicate.terms, resolve]
  · cases h
  · rename_i column hshared
    split at h
    · cases h
    · cases h
      simp [hshared, Predicate.terms]
  all_goals cases h

namespace Outline

section Root

variable {g : Graph} {r : Nat} {root : Edge} (wf : g.WellFormed) (hr : g.edge? r = some root)
  (hmany : root.many = true) (hhead : root.prev = none)
include wf hr hmany hhead

/-- All levels gather once exactly if those that are emitted are compared by equality, and none of
them is hollow. -/
lemma gathersOnce_branch {result : Option Level} (h : (ofEdge g root).level = .ok result)
    (t : Target) : (∀ L ∈ result.toList.flatMap Level.flatten, L.GathersOnce t) ↔
      ∀ d ∈ g.branch r, d.many = true → ¬ g.LeavesOut r d →
        (∀ c ∈ d.predicate.terms, c.op = .eq) ∧ ¬ g.HollowAt r d := by
  have honce : ∀ l ∈ (ofEdge g root).flatten, ∀ L, l.emitted = some L →
      (L.GathersOnce t ↔ (∀ c ∈ l.root.predicate.terms, c.op = .eq) ∧ ¬ g.HollowAt r l.root) := by
    intro l hl L hemitted
    obtain ⟨emission, hlevel, hemits⟩ := level_ok_of_mem_flatten h hl
    rw [emitted_of_level hlevel] at hemitted
    subst hemitted
    rw [Level.gathersOnce_iff, Edge.op_of_correlation hemits.correlation,
      ← hollow_level_iff wf hr hmany hhead hl, hollow_iff_entries hlevel t]
  rw [flatten_emitted h, ← forall_starts wf hr hmany hhead]
  constructor
  · intro hall l hl hemits
    obtain ⟨emission, hlevel, -⟩ := level_ok_of_mem_flatten h hl
    cases emission with
    | none =>
      have hsilent := (silent_level_iff wf hr hmany hhead hl).mp (silent_of_level hlevel)
      exact absurd hsilent hemits
    | some L =>
      have hemitted := emitted_of_level hlevel
      exact (honce l hl L hemitted).mp (hall L (List.mem_filterMap.mpr ⟨l, hl, hemitted⟩))
  · intro hall L hL
    obtain ⟨l, hl, hemitted⟩ := List.mem_filterMap.mp hL
    obtain ⟨emission, hlevel, -⟩ := level_ok_of_mem_flatten h hl
    refine (honce l hl L hemitted).mpr (hall l hl fun hsilent => ?_)
    rw [emitted_of_level hlevel] at hemitted
    subst hemitted
    have hspeaks := (title_of_level hlevel).1
    rw [(silent_level_iff wf hr hmany hhead hl).mpr hsilent] at hspeaks
    cases hspeaks

end Root

end Outline

/-- **One array for each row**: the two forms of a level bring the same arrays to a row around it,
and if there is an object to make of a row, these hold in all the objects of the rows that belong
to it. There is but one array of them all, for every level below a to-many edge of the root, exactly
if each edge that starts one of these levels compares by equality, and none of them is hollow. -/
theorem Script.gathered_once_iff (script : Script) (schema : Schema) (entity : Entity) (t : Target)
    {r : Nat} {result : Option Level}
    (hr : r ∈ (Placement.ofGraph (script.declare schema entity).graph).aggregations)
    (h : (script.declare schema entity).graph.level r = .ok result) :
    let g := (script.declare schema entity).graph
    (∀ l ∈ result.toList.flatMap Level.flatten, ∀ (K O : Type) [LinearOrder K] (make : Tuple K → O)
      (rows : List (Tuple K)) (around : Tuple K),
        l.joined t make rows around = l.scalars t make rows around ∧
          ((l.object t).entries ≠ [] →
            (l.joined t make rows around).flatten.Perm ((l.related rows around).map make))) ∧
      ((∀ l ∈ result.toList.flatMap Level.flatten, l.GathersOnce t) ↔
        ∀ d ∈ g.branch r, d.many = true → ¬ g.LeavesOut r d →
          (∀ c ∈ d.predicate.terms, c.op = .eq) ∧ ¬ g.HollowAt r d) := by
  have wf := script.wellFormed_declare schema entity
  intro g
  obtain ⟨root, hroot, hmany, hhead⟩ := (Placement.mem_aggregations wf).mp hr
  rw [Graph.level, hroot] at h
  refine ⟨fun l _ K O _ make rows around => l.joined_eq_scalars t make rows around, ?_⟩
  exact Outline.gathersOnce_branch wf hroot hmany hhead h t

theorem Script.thread_gathered : ∃ L, 0 ∈ (Placement.ofGraph .ofThread).aggregations ∧
    Graph.ofThread.level 0 = .ok (some L) ∧ L.nested ≠ [] ∧
      ∀ t, ∀ l ∈ L.flatten, l.GathersOnce t := by
  have hr : 0 ∈ (Placement.ofGraph .ofThread).aggregations := by decide
  obtain ⟨L, hlevel, hnested⟩ :
      ∃ L, Graph.ofThread.level 0 = .ok (some L) ∧ L.nested ≠ [] :=
    ⟨_, rfl, List.cons_ne_nil _ _⟩
  have hedges : ∀ d ∈ Graph.ofThread.branch 0, d.many = true →
      (∀ c ∈ d.predicate.terms, c.op = .eq) ∧ d.columns ≠ [] := by decide
  refine ⟨L, hr, hlevel, hnested, fun t => ?_⟩
  have honce := (thread.gathered_once_iff .unrelated (Schema.unrelated.entity "post") t hr
    hlevel).2.mpr fun d hd hmany _ => ⟨(hedges d hd hmany).1, fun hhollow =>
      (hedges d hd hmany).2 (hhollow.columns d hd (.inl rfl))⟩
  simpa using honce

/-- The comments of a post, each with the likes of all comments that came after it. -/
def Script.outdone : Script :=
  let likes := .relate (.many "like")
    [.condition ⟨"id", .lt, "comment_id"⟩, .columns [.column "stars"]] .done .done
  .unkeyed (.relate (.many "comment")
    [.condition ⟨"id", .eq, "post_id"⟩, .columns [.column "body"]] (.unkeyed likes) .done)

/-- Likes of two later comments come as two arrays, where a subquery may have one row. -/
theorem Script.outdone_split :
    let g := (outdone.declare .unrelated (Schema.unrelated.entity "post")).graph
    0 ∈ (Placement.ofGraph g).aggregations ∧ ∃ L, g.level 0 = .ok (some L) ∧
      ∃ l ∈ L.nested.flatMap Level.flatten, ∀ t,
        let like (comment : ℤ) : Tuple ℤ := fun _ => some comment
        l.scalars t (· l.correlation.inner) [like 2, like 3] (fun _ => some 1) =
          [[some 2], [some 3]] := by
  refine ⟨by decide, _, rfl, _, List.mem_cons_self, fun t => ?_⟩
  exact Level.scalars_of_two _ t _ (by decide) rfl rfl

end RelationQuery
