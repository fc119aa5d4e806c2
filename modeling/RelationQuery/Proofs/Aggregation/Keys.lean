import RelationQuery.Aggregation.Render
import RelationQuery.Proofs.Aggregation.Emission

/-!
The keys of nested objects. The objects of a level have a key for each of its columns, then one for
each level nested in it that is not left out. A level is emitted only with distinct keys, and where
its keys are not distinct, the first one that comes up again is reported.
-/

namespace RelationQuery

namespace Outline

/-- The names of the levels that are not left out. -/
def titles (outlines : List Outline) : List String := (outlines.filter (!·.silent)).map title

/-- The keys of the objects of a level. -/
def keys (o : Outline) : List String := o.columnSlots.map Prod.fst ++ titles o.nested

lemma titles_cons_of_silent {o : Outline} (h : o.silent = true) (rest : List Outline) :
    titles (o :: rest) = titles rest := by
  simp [titles, h]

lemma titles_cons_of_not_silent {o : Outline} (h : o.silent = false) (rest : List Outline) :
    titles (o :: rest) = o.title :: titles rest := by
  simp [titles, h]

lemma keys_of_silent {o : Outline} (h : o.silent = true) : o.keys = [] := by
  obtain ⟨hslots, hnested⟩ := silent_iff.mp h
  have hcolumns : o.columnSlots = [] :=
    List.perm_nil.mp (hslots ▸ (columnOrder_perm o.root o.members).flatMap_right slots)
  rw [keys, hcolumns, hnested]
  rfl

/-- What is left out is silent. -/
lemma silent_of_level {o : Outline} (h : o.level = .ok none) : o.silent = true := by
  have hyields := h ▸ o.yields_level
  cases hyields with
  | left _ _ hsilent => exact hsilent

/-- What is emitted is not silent, and goes by its name. -/
lemma title_of_level {o : Outline} {L : Level} (h : o.level = .ok (some L)) :
    o.silent = false ∧ L.name = o.title := by
  have hyields := h ▸ o.yields_level
  cases hyields with
  | emitted _ _ hsilent _ _ _ => exact ⟨hsilent, rfl⟩

lemma fresh_of_nests {around : String} {taken : List String} {outlines : List Outline}
    {r : Except CompileError (List Level)} (h : Nests around taken outlines r)
    {result : List Level} (hok : r = .ok result) :
    result.map Level.name = titles outlines ∧ Keys.Fresh taken (titles outlines) := by
  induction h generalizing result with
  | nil =>
    cases hok
    exact ⟨rfl, Keys.fresh_nil⟩
  | broken | clash => cases hok
  | left hlevel _ ih =>
    rw [titles_cons_of_silent (silent_of_level hlevel)]
    exact ih hok
  | @emitted _ _ _ L r hlevel hfree _ ih =>
    cases r with
    | error error => cases hok
    | ok others =>
      cases hok
      obtain ⟨hspeaks, hname⟩ := title_of_level hlevel
      obtain ⟨hnames, hfresh⟩ := ih rfl
      rw [titles_cons_of_not_silent hspeaks, ← hname, Keys.fresh_cons]
      exact ⟨by rw [List.map_cons, hnames], hfree, hfresh⟩

lemma clashes_of_nests {around : String} {taken : List String} {outlines : List Outline}
    {r : Except CompileError (List Level)} (h : Nests around taken outlines r)
    {error : CompileError} (herror : r = .error error) :
    (∃ o ∈ outlines, o.level = .error error) ∨
      ∃ key, error = .duplicateKey key around ∧ Keys.Clashes taken (titles outlines) key := by
  induction h with
  | nil => cases herror
  | broken hlevel =>
    cases herror
    exact .inl ⟨_, List.mem_cons_self, hlevel⟩
  | left hlevel _ ih =>
    rw [titles_cons_of_silent (silent_of_level hlevel)]
    exact (ih herror).imp_left fun ⟨o, ho, hbroken⟩ => ⟨o, List.mem_cons_of_mem _ ho, hbroken⟩
  | clash hlevel htaken =>
    cases herror
    obtain ⟨hspeaks, hname⟩ := title_of_level hlevel
    rw [titles_cons_of_not_silent hspeaks, ← hname]
    exact .inr ⟨_, rfl, Keys.clashes_head htaken⟩
  | @emitted _ _ _ L r hlevel _ _ ih =>
    cases r with
    | ok others => cases herror
    | error error' =>
      cases herror
      obtain ⟨hspeaks, hname⟩ := title_of_level hlevel
      rw [titles_cons_of_not_silent hspeaks, ← hname, ← List.singleton_append]
      refine (ih rfl).imp (fun ⟨o, ho, hbroken⟩ => ⟨o, List.mem_cons_of_mem _ ho, hbroken⟩) ?_
      exact fun ⟨key, hkey, hclash⟩ => ⟨key, hkey, hclash.append_right⟩

/-- The keys of what is emitted are distinct. -/
lemma keys_nodup_of_level {o : Outline} {result : Option Level} (h : o.level = .ok result) :
    o.keys.Nodup := by
  have hyields := h ▸ o.yields_level
  cases hyields with
  | left _ _ hsilent =>
    rw [keys_of_silent hsilent]
    exact List.nodup_nil
  | emitted _ _ _ _ hcolumns hlevels =>
    have hnested := (fresh_of_nests (nests_levels ..) hlevels).2
    rw [ObjectTemplate.keys_insertAll hcolumns] at hnested
    rw [keys, ← Keys.fresh_of_nothing, Keys.fresh_append]
    exact ⟨ObjectTemplate.fresh_of_insertAll hcolumns, hnested⟩

end Outline

namespace Level

lemma keys_nestedSlots (t : Target) (levels : List Level) :
    (nestedSlots t levels).map Prod.fst = levels.map name := by
  induction levels with
  | nil => rfl
  | cons level rest ih => rw [nestedSlots, List.map_cons, List.map_cons, ih]

/-- The objects of an emitted level have the keys of its outline. -/
lemma keys_object {o : Outline} {L : Level} (h : o.level = .ok (some L)) (t : Target) :
    (L.object t).keys = o.keys := by
  have hyields := h ▸ o.yields_level
  cases hyields with
  | emitted _ _ _ _ hcolumns hlevels =>
    have hnames := (Outline.fresh_of_nests (Outline.nests_levels ..) hlevels).1
    simp only [object, ObjectTemplate.keys, List.map_append, keys_nestedSlots]
    rw [hnames, ObjectTemplate.entries_insertAll hcolumns]
    rfl

end Level

end RelationQuery
