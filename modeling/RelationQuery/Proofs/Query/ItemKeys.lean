import RelationQuery.Proofs.Query.Acceptance

/-!
The keys of items. The objects of an array are written with the keys of their level, which are
distinct, and decoded with these keys respelt in the root's convention. Respelling does not ask
whether two keys become one: a level keeps all members of its objects exactly if no two of its keys
are spelt alike.
-/

namespace RelationQuery

namespace Json

variable {fieldCase : FieldCase} {members converted : List (String × Json)}

lemma convertMembers_eq : convertMembers fieldCase members =
    members.map fun member => (fieldCase.apply member.1, convertKeys fieldCase member.2) := by
  induction members with
  | nil => simp [convertMembers]
  | cons member rest ih => rw [convertMembers, ih, List.map_cons]

lemma convertKeys_object : convertKeys fieldCase (.object members) = .object (Members.ofList
    (members.map fun member => (fieldCase.apply member.1, convertKeys fieldCase member.2))) := by
  rw [convertKeys, convertMembers_eq, ofPairs]

/-- An object keeps all of its members exactly if no two of their keys are spelt alike. -/
theorem length_convertKeys_iff
    (h : convertKeys fieldCase (.object members) = .object converted) :
    converted.length = members.length ↔
      ((members.map Prod.fst).map fieldCase.apply).Nodup := by
  rw [convertKeys_object] at h
  cases h
  have hlength : members.length = (members.map fun member =>
      (fieldCase.apply member.1, convertKeys fieldCase member.2)).length :=
    (List.length_map _).symm
  rw [hlength, Members.length_ofList_eq_iff, List.map_map, List.map_map]
  rfl

end Json

namespace Level

/-- No object of the level loses a member when its keys are respelt. -/
def KeepsMembers (l : Level) (t : Target) (fieldCase : FieldCase) : Prop :=
  ∀ members converted, (members.map Prod.fst).Perm (l.object t).keys →
    Json.convertKeys fieldCase (.object members) = .object converted →
    converted.length = members.length

lemma keepsMembers_iff {l : Level} {t : Target} {fieldCase : FieldCase} :
    l.KeepsMembers t fieldCase ↔ ((l.object t).keys.map fieldCase.apply).Nodup := by
  constructor
  · intro hkeeps
    -- the object of the level whose members are all null
    have hkeys : ((l.object t).keys.map fun key => (key, Json.null)).map Prod.fst =
        (l.object t).keys := by
      rw [List.map_map]
      exact List.map_id _
    have hcount := hkeeps ((l.object t).keys.map (·, .null)) _ (.of_eq hkeys)
      Json.convertKeys_object
    rwa [Json.length_convertKeys_iff Json.convertKeys_object, hkeys] at hcount
  · intro hnodup members converted hperm hconverted
    rw [Json.length_convertKeys_iff hconverted]
    exact (hperm.map _).nodup_iff.mpr hnodup

end Level

namespace Plan

variable {root : Entity} {g : Graph} {criteria : Criteria} {plan : Plan}

/-- The levels of a plan, at any depth of its arrays. -/
def levels (plan : Plan) : List Level :=
  plan.parts.flatMap fun
    | .join _ _ => []
    | .aggregation level => level.flatten

lemma mem_levels {l : Level} :
    l ∈ plan.levels ↔ ∃ level, .aggregation level ∈ plan.parts ∧ l ∈ level.flatten := by
  rw [levels, List.mem_flatMap]
  constructor
  · rintro ⟨_ | level, hpart, hl⟩
    · cases hl
    · exact ⟨level, hpart, hl⟩
  · rintro ⟨level, hpart, hl⟩
    exact ⟨_, hpart, hl⟩

/-- The levels of a plan are those of the to-many edges, except where these are left out. -/
lemma mem_levels_iff (wf : g.WellFormed) (hplan : ofGraph root g criteria = .ok plan)
    {l : Level} : l ∈ plan.levels ↔ ∃ i e, g.edge? i = some e ∧ e.many = true ∧
      (Outline.ofEdge g e).level = .ok (some l) := by
  obtain ⟨-, -, hgathers⟩ := gathers_of_ofGraph hplan
  rw [mem_levels]
  constructor
  · rintro ⟨level, hpart, hl⟩
    obtain ⟨e, -, harray, hlevel⟩ := hgathers.exists_level hpart
    obtain ⟨head, hhead, hmany, -⟩ := (Placement.mem_aggregations wf).mp harray
    rw [Graph.level_eq hhead] at hlevel
    have hflatten := Outline.flatten_emitted hlevel
    rw [Option.toList_some, List.flatMap_singleton] at hflatten
    rw [hflatten] at hl
    obtain ⟨o, ho, hemitted⟩ := List.mem_filterMap.mp hl
    obtain ⟨r, hr, -⟩ := Outline.level_ok_of_mem_flatten hlevel ho
    rw [Outline.emitted_of_level hr] at hemitted
    subst hemitted
    have hread := (Outline.isRead_ofEdge wf hhead hmany).2 o ho
    rw [Outline.eq_ofEdge wf hhead hmany ho] at hr
    exact ⟨_, o.root, hread.root, hread.many, hr⟩
  · rintro ⟨i, e, he, hmany, hl⟩
    obtain ⟨result, hresult, hplanned⟩ := level_of_ofGraph wf hplan he hmany
    rw [hl] at hresult
    cases hresult
    exact hplanned l rfl

end Plan

/-- **Where items keep their members**: the keys of every level are distinct as they are written.
They are so as they are decoded, and then no item of the plan loses a member, exactly if no to-many
edge of the graph starts a level with two keys that the root's convention spells alike. -/
theorem Script.members_kept_iff (script : Script) (schema : Schema) (entity : Entity)
    {root : Entity} {criteria : Criteria} {plan : Plan} (t : Target)
    (hplan : Plan.ofGraph root (script.declare schema entity).graph criteria = .ok plan) :
    let g := (script.declare schema entity).graph
    (∀ l ∈ plan.levels, (l.object t).keys.Nodup) ∧
      ((∀ l ∈ plan.levels, l.KeepsMembers t plan.root.fieldCase) ↔
        ∀ i e, g.edge? i = some e → e.many = true →
          ((Outline.ofEdge g e).keys.map root.fieldCase.apply).Nodup) := by
  have wf := script.wellFormed_declare schema entity
  intro g
  obtain ⟨rfl, -, -⟩ := Plan.gathers_of_ofGraph hplan
  have hlevels := fun l => Plan.mem_levels_iff wf hplan (l := l)
  refine ⟨fun l hl => ?_, fun hkeeps i e he hmany => ?_, fun hdistinct l hl => ?_⟩
  · obtain ⟨i, e, -, -, hlevel⟩ := (hlevels l).mp hl
    rw [Level.keys_object hlevel]
    exact Outline.keys_nodup_of_level hlevel
  · obtain ⟨result, hlevel, -⟩ := Plan.level_of_ofGraph wf hplan he hmany
    cases result with
    | none =>
      rw [Outline.keys_of_silent (Outline.silent_of_level hlevel)]
      exact List.nodup_nil
    | some l =>
      have hkept := hkeeps l ((hlevels l).mpr ⟨i, e, he, hmany, hlevel⟩)
      rwa [Level.keepsMembers_iff, Level.keys_object hlevel] at hkept
  · obtain ⟨i, e, he, hmany, hlevel⟩ := (hlevels l).mp hl
    rw [Level.keepsMembers_iff, Level.keys_object hlevel]
    exact hdistinct i e he hmany

theorem Script.thread_kept :
    let post := Schema.unrelated.entity "post"
    ∃ plan, Plan.ofGraph post .ofThread {} = .ok plan ∧ plan.levels.length = 2 ∧
      ∀ l ∈ plan.levels, l.KeepsMembers (.ofDialect .sqlite) plan.root.fieldCase := by
  intro post
  have hcount : (Plan.ofGraph post .ofThread {}).map (·.levels.length) = .ok 2 := by
    decide +kernel
  obtain ⟨plan, hplan, hlength⟩ :
      ∃ plan, Plan.ofGraph post .ofThread {} = .ok plan ∧ plan.levels.length = 2 := by
    cases hplan : Plan.ofGraph post .ofThread {} with
    | error error =>
      rw [hplan] at hcount
      cases hcount
    | ok plan =>
      rw [hplan] at hcount
      exact ⟨plan, rfl, Except.ok.inj hcount⟩
  refine ⟨plan, hplan, hlength, ?_⟩
  refine (thread.members_kept_iff .unrelated post (.ofDialect .sqlite) hplan).2.mpr ?_
  intro i e (he : Graph.ofThread.edge? i = some e) _
  have hdistinct : ∀ e ∈ Graph.ofThread.edges.toList,
      ((Outline.ofEdge .ofThread e).keys.map post.fieldCase.apply).Nodup := by decide +kernel
  exact hdistinct e (Array.mem_toList_iff.mpr (Array.mem_of_getElem? he))

/-- Posts with two columns that are spelt alike in snake case. -/
def Script.twoNames : Script :=
  .relate (.many "post") [.columns [.column "userName", .column "user_name"]] .done .done

/-- Both columns are written under keys of their own, and one of them is lost. -/
theorem Script.user_name_lost :
    let user := Schema.unrelated.entity "user"
    ∃ plan, Plan.ofGraph user (twoNames.declare .unrelated user).graph {} = .ok plan ∧
      ∃ l ∈ plan.levels, (l.object (.ofDialect .sqlite)).keys = ["userName", "user_name"] ∧
        ¬ l.KeepsMembers (.ofDialect .sqlite) plan.root.fieldCase := by
  refine ⟨_, rfl, _, List.mem_cons_self, rfl, fun hkeeps => ?_⟩
  rw [Level.keepsMembers_iff] at hkeeps
  revert hkeeps
  decide

end RelationQuery
