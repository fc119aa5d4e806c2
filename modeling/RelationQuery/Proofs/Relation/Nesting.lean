import Mathlib.Algebra.Field.GeomSum
import RelationQuery.Proofs.Relation.Growth

/-!
How far entities are followed into each other. The scripts of entities may run each other in a
circle, but each is run deeper than the one around it, and none is run below the greatest depth.
So the recursion through them comes to an end: it determines what every script does, and the number
of scripts that are run is bounded by how often one script calls for another.
-/

namespace RelationQuery

/-! ### The recursion -/

/-- An entity's script is run with the scripts that it nests, each run in the same way. -/
def Schema.Recurses (schema : Schema) (expand : Expansion) : Prop :=
  ∀ key s d, expand key s d =
    (schema.relations key).run schema expand s (d.note (.expanded key s.depth))

/-- Both do the same at the sites below `depth` that scripts are run at. -/
def Expansion.AgreeBelow (depth : Nat) (expand expand' : Expansion) : Prop :=
  ∀ key s d, depth < s.depth → s.depth ≤ maxDepth → expand key s d = expand' key s d

section Agreement

variable {schema : Schema} {expand expand' : Expansion} {depth : Nat}

lemma Expansion.AgreeBelow.mono {depth' : Nat} (h : expand.AgreeBelow depth expand')
    (hle : depth ≤ depth') : expand.AgreeBelow depth' expand' :=
  fun key s d hlt => h key s d (Nat.lt_of_le_of_lt hle hlt)

lemma Setting.run_congr (h : expand.AgreeBelow depth expand') (related : Option EntityKey)
    (id : Nat) : Setting.run expand related depth id = Setting.run expand' related depth id := by
  funext d setting
  cases setting with
  | nest =>
    simp only [Setting.run, Draft.nest]
    split
    · split
      · rfl
      · exact h _ _ _ (Nat.lt_succ_self depth) (by simp only [Site.below]; omega)
    · rfl
  | _ => rfl

/-- What a script does depends only on what is run below its site. -/
lemma Script.run_congr {script : Script} {s : Site} {d : Draft}
    (h : expand.AgreeBelow s.depth expand') :
    script.run schema expand s d = script.run schema expand' s d := by
  induction script generalizing s d with
  | done => rfl
  | relate r settings branch rest ihb ihr =>
    rw [Script.run, Script.run]
    simp only [Setting.run_congr h]
    split
    next e _ =>
      rw [ihb (s := Site.below s.depth e) (h.mono (Nat.le_succ _))]
      exact ihr (s := s.advance _) h
    next => exact ihr (s := s.advance _) h
  | within source body rest ihb ihr =>
    rw [Script.run, Script.run, ihb (s := s.within source) h]
    exact ihr h
  | keyedBy key rest ih => exact ih (s := s.keyedBy (schema.entity key)) h
  | unkeyed rest ih => exact ih (s := s.unkeyed) h
  | observe rest ih => exact ih h

/-- The recursion has no two solutions: what they do at a site is settled by the sites below. -/
lemma Schema.Recurses.unique (h : schema.Recurses expand) (h' : schema.Recurses expand') :
    expand = expand' := by
  suffices hbelow : ∀ n key s d, maxDepth ≤ s.depth + n → expand key s d = expand' key s d by
    funext key s d
    exact hbelow maxDepth key s d (Nat.le_add_left _ _)
  intro n
  induction n with
  | zero =>
    intro key s d hdeep
    rw [h, h']
    refine Script.run_congr fun _ s' _ hlt hle => ?_
    omega
  | succ n ih =>
    intro key s d hdeep
    rw [h, h']
    exact Script.run_congr fun _ s' _ hlt _ => ih _ s' _ (by omega)

end Agreement

namespace Schema

variable {schema : Schema}

/-- From some fuel on, more of it changes nothing: there is one unit for each depth below. -/
lemma expand_eq {m n : Nat} {key : EntityKey} {s : Site} {d : Draft}
    (hm : maxDepth ≤ m + s.depth) (hn : maxDepth ≤ n + s.depth) :
    schema.expand (m + 1) key s d = schema.expand (n + 1) key s d := by
  induction m generalizing n key s d with
  | zero =>
    refine Script.run_congr fun _ s' _ hlt hle => ?_
    omega
  | succ m ih =>
    refine Script.run_congr fun _ s' _ hlt hle => ?_
    cases n with
    | zero => omega
    | succ n => exact ih (by omega) (by omega)

lemma agreeBelow_expand (depth : Nat) :
    (schema.expand maxDepth).AgreeBelow depth (schema.expand (maxDepth + 1)) :=
  fun _ s _ hlt _ => expand_eq (m := 7) (n := 8) (by simp only [maxDepth]; omega)
    (by simp only [maxDepth]; omega)

lemma recurses_expand : schema.Recurses (schema.expand (maxDepth + 1)) :=
  fun _ s _ => Script.run_congr (agreeBelow_expand s.depth)

end Schema

/-- A declaration runs its script by the recursion, to whose end there is fuel enough. -/
lemma Script.declare_eq {schema : Schema} {expand : Expansion} (h : schema.Recurses expand)
    (script : Script) (e : Entity) : script.declare schema e =
      script.run schema expand (.ofEntity e) { graph := { root := e.tableRef } } := by
  rw [h.unique Schema.recurses_expand]
  exact Script.run_congr (Schema.agreeBelow_expand _)

/-! ### The scripts that are run -/

/-- How often a script calls for the script of an entity. -/
def Script.nests : Script → Nat
  | .done => 0
  | .relate _ settings branch rest => settings.count .nest + branch.nests + rest.nests
  | .within _ body rest => body.nests + rest.nests
  | .keyedBy _ rest | .unkeyed rest | .observe rest => rest.nests

def Event.expansion? : Event → Option Nat
  | .expanded _ depth => some depth
  | _ => none

/-- The depths that scripts of entities were run at, one after the other. -/
def Draft.expansions (d : Draft) : List Nat := d.journal.toList.filterMap Event.expansion?

/-- Between two drafts, at most `n` scripts of entities were run, and none of them too deep. -/
def Draft.Runs (n : Nat) (d d' : Draft) : Prop :=
  ∃ depths, d'.expansions = d.expansions ++ depths ∧ depths.length ≤ n ∧
    ∀ depth ∈ depths, depth ≤ maxDepth

namespace Draft

variable {m n : Nat} {d d' d'' : Draft}

lemma expansions_note (d : Draft) (event : Event) :
    (d.note event).expansions = d.expansions ++ event.expansion?.toList := by
  simp only [expansions, note, Array.toList_push, List.filterMap_append]
  cases event <;> rfl

lemma expansions_noteEdge (d : Draft) (id : Nat) : (d.noteEdge id).expansions = d.expansions := by
  unfold noteEdge
  split
  · rw [expansions_note]
    exact List.append_nil _
  · rfl

lemma Runs.of_eq (h : d'.expansions = d.expansions) : d.Runs 0 d' :=
  ⟨[], by rw [h, List.append_nil], Nat.le_refl _, by simp⟩

lemma Runs.trans (h : d.Runs m d') (h' : d'.Runs n d'') : d.Runs (m + n) d'' := by
  obtain ⟨depths, hadd, hlength, hdeep⟩ := h
  obtain ⟨depths', hadd', hlength', hdeep'⟩ := h'
  refine ⟨depths ++ depths', by rw [hadd', hadd, List.append_assoc], ?_, ?_⟩
  · rw [List.length_append]
    omega
  · exact fun depth hdepth => (List.mem_append.mp hdepth).elim (hdeep depth) (hdeep' depth)

lemma Runs.mono (h : d.Runs m d') (hle : m ≤ n) : d.Runs n d' := by
  obtain ⟨depths, hadd, hlength, hdeep⟩ := h
  exact ⟨depths, hadd, hlength.trans hle, hdeep⟩

end Draft

/-- No script that is run deep enough runs more than `n` scripts, itself included. -/
def Expansion.Bounded (n : Nat) (expand : Expansion) : Prop :=
  ∀ key s (d : Draft), s.depth ≤ maxDepth → d.Runs n (expand key s d)

section Runs

variable {schema : Schema} {expand : Expansion} {n : Nat}

lemma Relating.expansions_place (r : Relating) (schema : Schema) (s : Site) (d : Draft) :
    (r.place schema s d).expansions = d.expansions := by
  cases r <;> rfl

lemma Draft.nest_runs (hexp : expand.Bounded n) (related : Option EntityKey) (depth id : Nat)
    (d : Draft) : d.Runs n (d.nest expand related depth id) := by
  unfold Draft.nest
  split
  · split
    · exact (Draft.Runs.of_eq rfl).mono (Nat.zero_le n)
    · exact hexp _ _ _ (by simp only [Site.below]; omega)
  · exact (Draft.Runs.of_eq rfl).mono (Nat.zero_le n)

lemma settings_runs (hexp : expand.Bounded n) (related : Option EntityKey) (depth id : Nat)
    (settings : List Setting) (d : Draft) : d.Runs (settings.count .nest * n)
      (settings.foldl (Setting.run expand related depth id) d) := by
  induction settings generalizing d with
  | nil => exact (Draft.Runs.of_eq rfl).mono (Nat.zero_le _)
  | cons setting rest ih =>
    have hstep : d.Runs ([setting].count .nest * n)
        (setting.run expand related depth id d) := by
      cases setting with
      | nest => simpa [Setting.run] using d.nest_runs hexp related depth id
      | observe => exact (Draft.Runs.of_eq (d.expansions_noteEdge id)).mono (Nat.zero_le _)
      | _ => exact (Draft.Runs.of_eq rfl).mono (Nat.zero_le _)
    rw [← List.singleton_append, List.count_append, Nat.add_mul]
    exact hstep.trans (ih _)

/-- A script runs at most `n` scripts for each of its own calls. -/
lemma Script.run_runs (schema : Schema) (hexp : expand.Bounded n) (script : Script) (s : Site)
    (d : Draft) : d.Runs (script.nests * n) (script.run schema expand s d) := by
  induction script generalizing s d with
  | done => exact (Draft.Runs.of_eq rfl).mono (Nat.zero_le _)
  | relate r settings branch rest ihb ihr =>
    rw [Script.run, Script.nests, Nat.add_mul, Nat.add_mul]
    have hplaced := Draft.Runs.of_eq (r.expansions_place schema s d)
    have hsettled := hplaced.trans (settings_runs hexp r.key? s.depth
      ((r.place schema s d).graph.size - 1) settings (r.place schema s d))
    rw [Nat.zero_add] at hsettled
    refine Draft.Runs.trans (hsettled.trans ?_) (ihr _ _)
    split
    · exact ihb _ _
    · exact (Draft.Runs.of_eq rfl).mono (Nat.zero_le _)
  | within source body rest ihb ihr =>
    rw [Script.run, Script.nests, Nat.add_mul]
    exact (ihb _ _).trans (ihr _ _)
  | keyedBy key rest ih => exact ih _ _
  | unkeyed rest ih => exact ih _ _
  | observe rest ih =>
    have hnoted : d.Runs 0 (d.noteSite s) :=
      .of_eq ((d.expansions_note _).trans (List.append_nil _))
    have hrest := hnoted.trans (ih s (d.noteSite s))
    rwa [Nat.zero_add] at hrest

/-- Scripts that call for others at most `k` times: one, `k` below it, `k ^ 2` below these, … -/
lemma Schema.expand_bounded {k : Nat} (hk : ∀ key, (schema.relations key).nests ≤ k)
    (fuel : Nat) : (schema.expand fuel).Bounded (∑ i ∈ Finset.range fuel, k ^ i) := by
  induction fuel with
  | zero => exact fun _ _ _ _ => .of_eq rfl
  | succ fuel ih =>
    intro key s d hdepth
    have hself : d.Runs 1 (d.note (.expanded key s.depth)) :=
      ⟨[s.depth], d.expansions_note _, Nat.le_refl _, by simpa using hdepth⟩
    have hinside := ((schema.relations key).run_runs schema ih s
      (d.note (.expanded key s.depth))).mono (Nat.mul_le_mul_right _ (hk key))
    rw [geom_sum_succ, Nat.add_comm]
    exact hself.trans hinside

/-- With its own script, a declaration runs one more than it calls for. -/
lemma Script.declare_runs {k : Nat} {script : Script} (hscript : script.nests ≤ k)
    (hschema : ∀ key, (schema.relations key).nests ≤ k) (e : Entity) :
    (script.declare schema e).expansions.length + 1 ≤ ∑ i ∈ Finset.range (maxDepth + 1), k ^ i ∧
      ∀ depth ∈ (script.declare schema e).expansions, depth ≤ maxDepth := by
  obtain ⟨depths, hadd, hlength, hdeep⟩ := (script.run_runs schema
    (Schema.expand_bounded hschema maxDepth) (.ofEntity e)
    { graph := { root := e.tableRef } }).mono (Nat.mul_le_mul_right _ hscript)
  have hexpansions : (script.declare schema e).expansions = depths := hadd
  rw [hexpansions, geom_sum_succ]
  exact ⟨Nat.succ_le_succ hlength, hdeep⟩

end Runs

end RelationQuery
