import Mathlib.Data.List.Perm.Basic
import RelationQuery.Aggregation.Level
import RelationQuery.Proofs.Aggregation.Partition
import RelationQuery.Proofs.Members
import RelationQuery.Proofs.Query.Placement

/-!
What outlines are emitted as. A level that selects nothing and has nothing nested in it is left
out; any other is emitted with the joins and columns of its own edges and with the levels nested
in it. Together, the emitted objects hold every column of the chain once.
-/

namespace RelationQuery

namespace ObjectTemplate

variable {level : String} {o extended : ObjectTemplate} {entries : List (String × Slot)}

lemma keys_insertAll (h : o.insertAll level entries = .ok extended) :
    extended.keys = o.keys ++ entries.map Prod.fst := by
  rw [keys, entries_insertAll h, List.map_append, keys]

/-- What has been appended was free before. -/
lemma fresh_of_insertAll (h : o.insertAll level entries = .ok extended) :
    Keys.Fresh o.keys (entries.map Prod.fst) := by
  induction entries generalizing o with
  | nil => exact Keys.fresh_nil
  | cons entry rest ih =>
    unfold insertAll at h
    cases step : o.insert level entry.1 entry.2 with
    | error e => simp [step, bind, Except.bind] at h
    | ok next =>
      simp only [step, bind, Except.bind] at h
      obtain ⟨hfree, rfl⟩ := insert_eq_ok_iff.mp step
      rw [List.map_cons, Keys.fresh_cons]
      exact ⟨hfree, by simpa [keys] using ih h⟩

/-- What cannot be appended was not free. -/
lemma clashes_of_insertAll {error : CompileError} (h : o.insertAll level entries = .error error) :
    ∃ key, error = .duplicateKey key level ∧ Keys.Clashes o.keys (entries.map Prod.fst) key := by
  induction entries generalizing o with
  | nil => cases h
  | cons entry rest ih =>
    unfold insertAll insert at h
    split at h
    · rename_i htaken
      cases h
      exact ⟨entry.1, rfl, Keys.clashes_head (by simpa using htaken)⟩
    · simp only [bind, Except.bind] at h
      obtain ⟨key, rfl, hclash⟩ := ih h
      rw [List.map_cons, ← List.singleton_append]
      exact ⟨key, rfl, Keys.Clashes.append_right (by simpa [keys] using hclash)⟩

end ObjectTemplate

/-- What can be done for each element of a list is done for the first and for the others. -/
lemma mapM_cons_eq_ok {α β ε : Type} {f : α → Except ε β} {x : α} {xs : List α} {ys : List β}
    (h : (x :: xs).mapM f = .ok ys) :
    ∃ y rest, f x = .ok y ∧ xs.mapM f = .ok rest ∧ ys = y :: rest := by
  rw [List.mapM_cons] at h
  cases hy : f x with
  | error e => simp [hy, bind, Except.bind] at h
  | ok y =>
    cases hrest : xs.mapM f with
    | error e => simp [hy, hrest, bind, Except.bind] at h
    | ok rest =>
      simp only [hy, hrest, bind, Except.bind, pure, Except.pure, Except.ok.injEq] at h
      exact ⟨y, rest, rfl, rfl, h.symm⟩

namespace Level

mutual

/-- A level and all levels nested in it, each before those nested in it. -/
def flatten : Level → List Level
  | ⟨table, kind, name, correlation, joins, columns, nested⟩ =>
    ⟨table, kind, name, correlation, joins, columns, nested⟩ :: flattenAll nested

def flattenAll : List Level → List Level
  | [] => []
  | level :: rest => level.flatten ++ flattenAll rest

end

lemma flattenAll_eq (levels : List Level) : flattenAll levels = levels.flatMap flatten := by
  induction levels with
  | nil => rfl
  | cons level rest ih => simp [flattenAll, ih]

lemma flatten_eq (l : Level) : l.flatten = l :: l.nested.flatMap flatten := by
  obtain ⟨table, kind, name, correlation, joins, columns, nested⟩ := l
  simp [flatten, flattenAll_eq]

end Level

namespace Outline

/-- What an outline is emitted as, if anything. -/
def emitted (o : Outline) : Option Level :=
  match o.level with
  | .ok result => result
  | .error _ => none

lemma emitted_of_level {o : Outline} {result : Option Level} (h : o.level = .ok result) :
    o.emitted = result := by
  simp [emitted, h]

/-- `L` holds the edges of `o` and what is emitted of the levels nested in it. -/
structure EmitsAs (o : Outline) (L : Level) : Prop where
  content : o.edges.flatMap slots ≠ [] ∨ o.nested ≠ []
  table : L.table = o.root.target
  kind : L.kind = o.root.kind
  name : L.name = Outline.name o.root o.members
  correlation : o.root.correlation = .ok L.correlation
  joins : o.members.mapM Edge.join = .ok L.joins
  columns : L.columns.entries = (columnOrder o.root o.members).flatMap slots
  distinct : L.columns.keys.Nodup
  nested : L.nested = o.nested.filterMap emitted

/-- What an outline is emitted as, and when it is left out. -/
def Emits (o : Outline) : Option Level → Prop
  | none => o.edges.flatMap slots = [] ∧ o.nested = []
  | some L => o.EmitsAs L

/-- Everything that levels side by side can come to: the first that fails stops them all, and so
does the first that is emitted under a key that is taken. -/
inductive Nests (around : String) : List String → List Outline →
    Except CompileError (List Level) → Prop
  | nil {taken : List String} : Nests around taken [] (.ok [])
  | broken {taken : List String} {o : Outline} {rest : List Outline} {error : CompileError}
      (hlevel : o.level = .error error) : Nests around taken (o :: rest) (.error error)
  | left {taken : List String} {o : Outline} {rest : List Outline}
      {result : Except CompileError (List Level)} (hlevel : o.level = .ok none)
      (h : Nests around taken rest result) : Nests around taken (o :: rest) result
  | clash {taken : List String} {o : Outline} {rest : List Outline} {L : Level}
      (hlevel : o.level = .ok (some L)) (htaken : L.name ∈ taken) :
      Nests around taken (o :: rest) (.error (.duplicateKey L.name around))
  | emitted {taken : List String} {o : Outline} {rest : List Outline} {L : Level}
      {result : Except CompileError (List Level)} (hlevel : o.level = .ok (some L))
      (hfree : L.name ∉ taken) (h : Nests around (taken ++ [L.name]) rest result) :
      Nests around taken (o :: rest) (result.map (L :: ·))

lemma nests_levels (around : String) (taken : List String) (outlines : List Outline) :
    Nests around taken outlines (levels around taken outlines) := by
  induction outlines generalizing taken with
  | nil => exact .nil
  | cons o rest ih =>
    rw [levels]
    simp only [bind, Except.bind, pure, Except.pure, throw, throwThe, MonadExceptOf.throw]
    cases hlevel : o.level with
    | error error => exact .broken hlevel
    | ok result =>
      cases result with
      | none => exact .left hlevel (ih taken)
      | some L =>
        dsimp only
        split
        · rename_i htaken
          exact .clash hlevel (by simpa using htaken)
        · rename_i hfree
          exact .emitted hlevel (by simpa using hfree) (ih _)

lemma spec_of_nests {around : String} {taken : List String} {outlines : List Outline}
    {r : Except CompileError (List Level)} (h : Nests around taken outlines r)
    {result : List Level} (hok : r = .ok result) :
    result = outlines.filterMap emitted ∧ ∀ o ∈ outlines, ∃ r, o.level = .ok r := by
  induction h generalizing result with
  | nil =>
    cases hok
    simp
  | broken | clash => cases hok
  | left hlevel _ ih =>
    obtain ⟨hresult, hrest⟩ := ih hok
    exact ⟨by simp [emitted_of_level hlevel, hresult], by simpa [hlevel] using hrest⟩
  | @emitted _ _ _ L r hlevel _ _ ih =>
    cases r with
    | error error => cases hok
    | ok others =>
      cases hok
      obtain ⟨hresult, hrest⟩ := ih rfl
      exact ⟨by simp [emitted_of_level hlevel, ← hresult], by simpa [hlevel] using hrest⟩

lemma slots_eq_nil_iff {o : Outline} :
    o.edges.flatMap slots = [] ↔ selectsColumns o.root o.members = false := by
  simp [edges, slots, selectsColumns]

/-- Nothing is selected on the level, and nothing is nested in it. -/
def silent (o : Outline) : Bool := !selectsColumns o.root o.members && o.nested.isEmpty

/-- The name of the level. -/
def title (o : Outline) : String := name o.root o.members

/-- The columns that the objects of the level begin with. -/
def columnSlots (o : Outline) : List (String × Slot) :=
  (columnOrder o.root o.members).flatMap slots

/-- Everything that an outline can come to: first the root is checked, then, unless the level is
silent, its joins, its columns and the levels nested in it. -/
inductive Yields (o : Outline) : Except CompileError (Option Level) → Prop
  | notMany (hmany : o.root.many = false) : Yields o (.error (o.root.unresolvable .notMany))
  | untargeted (hbridge : o.root.bridge = true) (hnext : o.root.next = none) :
      Yields o (.error (o.root.unresolvable .bridgeWithoutTarget))
  | uncorrelated {error : CompileError} (hcorrelation : o.root.correlation = .error error) :
      Yields o (.error error)
  | left {correlation : Correlation} (hmany : o.root.many = true)
      (hcorrelation : o.root.correlation = .ok correlation) (hsilent : o.silent = true) :
      Yields o (.ok none)
  | untied {error : CompileError} (hsilent : o.silent = false)
      (hjoins : o.members.mapM Edge.join = .error error) : Yields o (.error error)
  | clash {error : CompileError}
      (hcolumns : ObjectTemplate.insertAll o.title {} o.columnSlots = .error error) :
      Yields o (.error error)
  | inside {columns : ObjectTemplate} {error : CompileError}
      (hcolumns : ObjectTemplate.insertAll o.title {} o.columnSlots = .ok columns)
      (hlevels : levels o.title columns.keys o.nested = .error error) : Yields o (.error error)
  | emitted {correlation : Correlation} {joins : List JoinClause} {columns : ObjectTemplate}
      {nested : List Level} (hmany : o.root.many = true)
      (hcorrelation : o.root.correlation = .ok correlation) (hsilent : o.silent = false)
      (hjoins : o.members.mapM Edge.join = .ok joins)
      (hcolumns : ObjectTemplate.insertAll o.title {} o.columnSlots = .ok columns)
      (hlevels : levels o.title columns.keys o.nested = .ok nested) :
      Yields o (.ok (some
        ⟨o.root.target, o.root.kind, o.title, correlation, joins, columns, nested⟩))

lemma yields_level (o : Outline) : o.Yields o.level := by
  obtain ⟨root, members, nested⟩ := o
  rw [level]
  simp only [bind, Except.bind, pure, Except.pure, throw, throwThe, MonadExceptOf.throw]
  split
  · rename_i hmany
    exact .notMany (by simpa using hmany)
  rename_i hmany
  simp only [Bool.not_eq_true', Bool.not_eq_false] at hmany
  split
  · rename_i hbridge
    simp only [Bool.and_eq_true, Option.isNone_iff_eq_none] at hbridge
    exact .untargeted hbridge.1 hbridge.2
  cases hcorrelation : root.correlation with
  | error error => exact .uncorrelated hcorrelation
  | ok correlation =>
    dsimp only
    split
    · rename_i hsilent
      exact .left hmany hcorrelation hsilent
    rename_i hsilent
    have hspeaks : silent ⟨root, members, nested⟩ = false := by simpa [silent] using hsilent
    cases hjoins : members.mapM Edge.join with
    | error error => exact .untied hspeaks hjoins
    | ok joins =>
      dsimp only
      cases hcolumns : ObjectTemplate.insertAll (name root members) {}
          ((columnOrder root members).flatMap slots) with
      | error error => exact .clash hcolumns
      | ok columns =>
        dsimp only
        cases hlevels : levels (name root members) columns.keys nested with
        | error error => exact .inside hcolumns hlevels
        | ok inside => exact .emitted hmany hcorrelation hspeaks hjoins hcolumns hlevels

lemma silent_iff {o : Outline} :
    o.silent = true ↔ o.edges.flatMap slots = [] ∧ o.nested = [] := by
  rw [slots_eq_nil_iff, silent, Bool.and_eq_true, Bool.not_eq_true', List.isEmpty_iff]

/-- What can be emitted at all is emitted as it should be, with all levels nested in it. -/
lemma level_spec {o : Outline} {result : Option Level} (h : o.level = .ok result) :
    o.Emits result ∧ ∀ c ∈ o.nested, ∃ r, c.level = .ok r := by
  have hyields := h ▸ o.yields_level
  cases hyields with
  | left hmany hcorrelation hsilent =>
    obtain ⟨hslots, hnested⟩ := silent_iff.mp hsilent
    exact ⟨⟨hslots, hnested⟩, by simp [hnested]⟩
  | emitted hmany hcorrelation hsilent hjoins hcolumns hlevels =>
    obtain ⟨hinside, hok⟩ := spec_of_nests (nests_levels ..) hlevels
    have hcontent : ¬(o.edges.flatMap slots = [] ∧ o.nested = []) := by
      rw [← silent_iff, hsilent]
      decide
    refine ⟨⟨not_and_or.mp hcontent, rfl, rfl, rfl, hcorrelation, hjoins, ?_, ?_, hinside⟩, hok⟩
    · simpa [columnSlots] using ObjectTemplate.entries_insertAll hcolumns
    · rw [ObjectTemplate.keys_insertAll hcolumns]
      exact (ObjectTemplate.fresh_of_insertAll hcolumns).1

/-- An outline that can be emitted is so with all of its levels. -/
lemma level_ok_of_mem_flatten {o l : Outline} {result : Option Level} (h : o.level = .ok result)
    (hl : l ∈ o.flatten) : ∃ r, l.level = .ok r ∧ l.Emits r := by
  induction o using Outline.induction generalizing result with
  | outline root members nested ih =>
    obtain ⟨hemits, hnested⟩ := level_spec h
    rcases mem_flatten.mp hl with rfl | ⟨c, hc, hlc⟩
    · exact ⟨result, h, hemits⟩
    · obtain ⟨r, hr⟩ := hnested c hc
      exact ih c hc hr hlc

lemma emitsAs_of_emitted {o l : Outline} {result : Option Level} (h : o.level = .ok result)
    (hl : l ∈ o.flatten) {L : Level} (hL : l.emitted = some L) : l.EmitsAs L := by
  obtain ⟨r, hr, hemits⟩ := level_ok_of_mem_flatten h hl
  rw [emitted_of_level hr] at hL
  subst hL
  exact hemits

/-- The levels that are emitted are nested as their outlines are. -/
lemma flatten_emitted {o : Outline} {result : Option Level} (h : o.level = .ok result) :
    result.toList.flatMap Level.flatten = o.flatten.filterMap emitted := by
  induction o using Outline.induction generalizing result with
  | outline root members nested ih =>
    obtain ⟨hemits, hnested⟩ := level_spec h
    have hinside : nested.flatMap (fun c => c.flatten.filterMap emitted) =
        (nested.filterMap emitted).flatMap Level.flatten := by
      clear hemits h
      induction nested with
      | nil => rfl
      | cons c rest ihrest =>
        obtain ⟨r, hr⟩ := hnested c List.mem_cons_self
        have hc := ih c List.mem_cons_self hr
        have hrest := ihrest (fun k hk => ih k (List.mem_cons_of_mem _ hk))
          fun k hk => hnested k (List.mem_cons_of_mem _ hk)
        rw [List.flatMap_cons, hrest, ← hc, List.filterMap_cons, emitted_of_level hr]
        cases r <;> simp
    rw [flatten_eq, List.filterMap_cons, List.filterMap_flatMap, emitted_of_level h, hinside]
    cases result with
    | none =>
      have hnil : nested = [] := hemits.2
      simp [hnil]
    | some L =>
      have hL : L.nested = nested.filterMap emitted := hemits.nested
      simp [Level.flatten_eq L, hL]

/-- What is emitted inside an emitted level. -/
lemma flatten_nested {o : Outline} {L : Level} (h : o.level = .ok (some L)) :
    L.nested.flatMap Level.flatten = (o.nested.flatMap flatten).filterMap emitted := by
  have hall := flatten_emitted h
  rw [Option.toList_some, List.flatMap_singleton, Level.flatten_eq, flatten_eq,
    List.filterMap_cons, emitted_of_level h] at hall
  exact (List.cons.inj hall).2

/-- The objects of a level hold the columns of its edges. -/
lemma columnOrder_perm (root : Edge) (members : List Edge) :
    (columnOrder root members).Perm (root :: members) := by
  unfold columnOrder
  split
  · exact List.perm_append_singleton root members
  · exact List.Perm.refl _

end Outline

/-- Entities without relations of their own, each with its key for a name. -/
def Schema.unrelated : Schema where
  entity key := { name := key, table := key ++ "s", asName := "the_" ++ key }
  relations _ := .done

/-- The comments of a post with their authors and likes, and who gave these. -/
def Script.thread : Script :=
  let liker := .relate (.one "liker") [.condition ⟨"liker_id", .eq, "id"⟩] .done .done
  let likes := .relate (.many "like")
    [.condition ⟨"id", .eq, "comment_id"⟩, .columns [.column "stars"]] (.unkeyed liker) .done
  let author := .relate (.one "author")
    [.condition ⟨"author_id", .eq, "id"⟩, .columns [.column "name"]] .done likes
  .unkeyed (.relate (.many "comment")
    [.condition ⟨"id", .eq, "post_id"⟩, .columns [.column "body"]] (.unkeyed author) .done)

/-- The graph of the comments of a post. -/
def Graph.ofThread : Graph :=
  (Script.thread.declare .unrelated (Schema.unrelated.entity "post")).graph

end RelationQuery
