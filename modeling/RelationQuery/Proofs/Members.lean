import Mathlib.Data.List.Dedup
import Mathlib.Data.List.Induction
import Mathlib.Data.List.Perm.Basic
import Mathlib.Data.String.Basic
import RelationQuery.Members

/-!
Distinct keys. Keys that are taken one after the other are either all fresh, or there is a first
one that clashes with those before it. Members are put under their keys without asking: where two
keys are the same, one member is lost.
-/

namespace RelationQuery

namespace Keys

variable {taken first second keys : List String} {key : String}

/-- None of the keys is taken before, and none twice. -/
def Fresh (taken keys : List String) : Prop := keys.Nodup ∧ ∀ key ∈ keys, key ∉ taken

/-- One of the keys is taken when it comes up: before them all, or by one of them. -/
def Clashes (taken keys : List String) (key : String) : Prop :=
  ∃ before after, keys = before ++ key :: after ∧ key ∈ taken ++ before

@[simp] lemma fresh_nil : Fresh taken [] := ⟨List.nodup_nil, fun _ h => absurd h List.not_mem_nil⟩

lemma fresh_of_nothing : Fresh [] keys ↔ keys.Nodup := by
  simp [Fresh]

lemma fresh_append : Fresh taken (first ++ second) ↔
    Fresh taken first ∧ Fresh (taken ++ first) second := by
  unfold Fresh
  rw [List.nodup_append']
  constructor
  · rintro ⟨⟨hfirst, hsecond, hdisjoint⟩, hfree⟩
    refine ⟨⟨hfirst, fun k hk => hfree k (List.mem_append_left _ hk)⟩, hsecond, fun k hk hmem => ?_⟩
    rcases List.mem_append.mp hmem with htaken | hbefore
    · exact hfree k (List.mem_append_right _ hk) htaken
    · exact hdisjoint hbefore hk
  · rintro ⟨⟨hfirst, hfree⟩, hsecond, hfree'⟩
    refine ⟨⟨hfirst, hsecond, fun k hk hk' => hfree' k hk' (List.mem_append_right _ hk)⟩, ?_⟩
    intro k hk htaken
    rcases List.mem_append.mp hk with hk | hk
    · exact hfree k hk htaken
    · exact hfree' k hk (List.mem_append_left _ htaken)

lemma fresh_singleton : Fresh taken [key] ↔ key ∉ taken := by
  simp [Fresh]

lemma fresh_cons : Fresh taken (key :: keys) ↔ key ∉ taken ∧ Fresh (taken ++ [key]) keys := by
  rw [← List.singleton_append, fresh_append, fresh_singleton]

lemma clashes_head (h : key ∈ taken) : Clashes taken (key :: keys) key :=
  ⟨[], keys, rfl, List.mem_append_left _ h⟩

lemma Clashes.append_left (h : Clashes taken first key) (second : List String) :
    Clashes taken (first ++ second) key := by
  obtain ⟨before, after, rfl, hmem⟩ := h
  exact ⟨before, after ++ second, by simp, hmem⟩

lemma Clashes.append_right (h : Clashes (taken ++ first) second key) :
    Clashes taken (first ++ second) key := by
  obtain ⟨before, after, rfl, hmem⟩ := h
  exact ⟨first ++ before, after, by simp, by simpa using hmem⟩

lemma Clashes.not_fresh (h : Clashes taken keys key) : ¬ Fresh taken keys := by
  obtain ⟨before, after, rfl, hmem⟩ := h
  rw [fresh_append, fresh_cons]
  exact fun hfresh => hfresh.2.1 hmem

end Keys

namespace Members

variable {α : Type} {key : String} {value : α} {members pairs : List (String × α)}

lemma get?_eq_some_iff (hkeys : (members.map Prod.fst).Nodup) :
    get? key members = some value ↔ (key, value) ∈ members := by
  induction members with
  | nil => simp [get?_nil]
  | cons pair rest ih =>
    obtain ⟨k, v⟩ := pair
    rw [List.map_cons, List.nodup_cons] at hkeys
    rw [get?_cons, List.mem_cons, Prod.mk.injEq]
    by_cases hsame : key = k
    · have hrest : (key, value) ∉ rest := fun hmem => hkeys.1 (List.mem_map.mpr ⟨_, hmem, hsame⟩)
      rw [if_pos hsame, or_iff_left hrest, Option.some.injEq, eq_comm, and_iff_right hsame]
    · rw [if_neg hsame, ih hkeys.2]
      simp [hsame]

lemma length_insert (h : key ∉ members.map Prod.fst) :
    (insert key value members).length = members.length + 1 := by
  induction members with
  | nil => rfl
  | cons pair rest ih =>
    obtain ⟨k, v⟩ := pair
    simp only [List.map_cons, List.mem_cons, not_or] at h
    unfold insert
    rw [if_neg h.1]
    split
    · rfl
    · simp [ih h.2]

lemma get?_insertAll_of_not_mem (h : key ∉ pairs.map Prod.fst) :
    get? key (insertAll members pairs) = get? key members := by
  induction pairs generalizing members with
  | nil => rfl
  | cons pair rest ih =>
    simp only [List.map_cons, List.mem_cons, not_or] at h
    rw [insertAll_cons, ih h.2, get?_insert_of_ne h.1]

/-- Of pairs with distinct keys, none is overwritten. -/
lemma get?_insertAll_of_mem (hkeys : (pairs.map Prod.fst).Nodup) (h : (key, value) ∈ pairs) :
    get? key (insertAll members pairs) = some value := by
  induction pairs generalizing members with
  | nil => cases h
  | cons pair rest ih =>
    rw [List.map_cons, List.nodup_cons] at hkeys
    rw [insertAll_cons]
    rcases List.mem_cons.mp h with rfl | hrest
    · rw [get?_insertAll_of_not_mem hkeys.1, get?_insert_self]
    · exact ih hkeys.2 hrest

lemma length_insertAll (hkeys : (pairs.map Prod.fst).Nodup)
    (hfresh : ∀ k ∈ pairs.map Prod.fst, k ∉ members.map Prod.fst) :
    (insertAll members pairs).length = members.length + pairs.length := by
  induction pairs generalizing members with
  | nil => rfl
  | cons pair rest ih =>
    rw [List.map_cons, List.nodup_cons] at hkeys
    rw [List.map_cons, List.forall_mem_cons] at hfresh
    have hrest : ∀ k ∈ rest.map Prod.fst, k ∉ (insert pair.1 pair.2 members).map Prod.fst := by
      intro k hk hmem
      rcases mem_keys_insert.mp hmem with rfl | hold
      · exact hkeys.1 hk
      · exact hfresh.2 k hk hold
    rw [insertAll_cons, ih hkeys.2 hrest, length_insert hfresh.1, List.length_cons]
    omega

lemma mem_insert {pair : String × α} (h : pair ∈ insert key value members) :
    pair = (key, value) ∨ pair ∈ members := by
  induction members with
  | nil => exact .inl (List.mem_singleton.mp h)
  | cons first rest ih =>
    obtain ⟨k, v⟩ := first
    unfold insert at h
    split at h
    · exact (List.mem_cons.mp h).imp_right (List.mem_cons_of_mem _)
    split at h
    · exact List.mem_cons.mp h
    · rcases List.mem_cons.mp h with rfl | hrest
      · exact .inr List.mem_cons_self
      · exact (ih hrest).imp_right (List.mem_cons_of_mem _)

/-- Members come from the pairs. -/
lemma mem_of_mem_ofList {pair : String × α} (h : pair ∈ ofList pairs) : pair ∈ pairs := by
  induction pairs using List.reverseRecOn with
  | nil => exact h
  | append_singleton pairs last ih =>
    rw [ofList, insertAll_append] at h
    rcases mem_insert h with rfl | hold
    · exact List.mem_append_right _ (List.mem_singleton_self _)
    · exact List.mem_append_left _ (ih hold)

/-! ### Ascending keys -/

/-- The keys stay in ascending order. -/
lemma ascending_insert (h : (members.map Prod.fst).Pairwise (· < ·)) :
    ((insert key value members).map Prod.fst).Pairwise (· < ·) := by
  induction members with
  | nil => exact List.pairwise_singleton _ _
  | cons pair rest ih =>
    obtain ⟨k, v⟩ := pair
    rw [List.map_cons, List.pairwise_cons] at h
    unfold insert
    split
    · rename_i hsame
      subst hsame
      exact List.pairwise_cons.mpr h
    split
    · rename_i hless
      refine List.pairwise_cons.mpr ⟨?_, List.pairwise_cons.mpr h⟩
      rw [List.map_cons, List.forall_mem_cons]
      exact ⟨hless, fun other hother => lt_trans hless (h.1 other hother)⟩
    · rename_i hne hge
      refine List.pairwise_cons.mpr ⟨fun other hother => ?_, ih h.2⟩
      rcases mem_keys_insert.mp hother with rfl | hold
      · exact lt_of_le_of_ne (not_lt.mp hge) (Ne.symm hne)
      · exact h.1 other hold

lemma ascending_insertAll (h : (members.map Prod.fst).Pairwise (· < ·)) :
    ((insertAll members pairs).map Prod.fst).Pairwise (· < ·) := by
  induction pairs generalizing members with
  | nil => exact h
  | cons pair rest ih => exact ih (ascending_insert h)

lemma mem_keys_insertAll : key ∈ (insertAll members pairs).map Prod.fst ↔
    key ∈ members.map Prod.fst ∨ key ∈ pairs.map Prod.fst := by
  induction pairs generalizing members with
  | nil => simp [insertAll]
  | cons pair rest ih =>
    rw [insertAll_cons, ih, mem_keys_insert, List.map_cons, List.mem_cons, or_assoc, or_left_comm]

lemma insert_of_greatest (h : ∀ k ∈ members.map Prod.fst, k < key) :
    insert key value members = members ++ [(key, value)] := by
  induction members with
  | nil => rfl
  | cons first rest ih =>
    obtain ⟨k, v⟩ := first
    rw [List.map_cons, List.forall_mem_cons] at h
    rw [insert, if_neg (ne_of_gt h.1), if_neg (lt_asymm h.1), ih h.2, List.cons_append]

/-- Pairs in ascending order are members as they stand. -/
lemma ofList_of_ascending (h : (pairs.map Prod.fst).Pairwise (· < ·)) : ofList pairs = pairs := by
  induction pairs using List.reverseRecOn with
  | nil => rfl
  | append_singleton pairs last ih =>
    rw [List.map_append, List.pairwise_append] at h
    rw [ofList, insertAll_append, ← ofList, ih h.1]
    exact insert_of_greatest fun k hk => h.2.2 k hk _ (List.mem_singleton_self _)

lemma ascending_ofList : ((ofList pairs).map Prod.fst).Pairwise (· < ·) :=
  ascending_insertAll List.Pairwise.nil

lemma nodup_ofList : ((ofList pairs).map Prod.fst).Nodup :=
  ascending_ofList.imp fun hlt => ne_of_lt hlt

/-- The keys of the members are the different keys of the pairs. -/
lemma keys_ofList_perm : ((ofList pairs).map Prod.fst).Perm (pairs.map Prod.fst).dedup := by
  rw [List.perm_ext_iff_of_nodup nodup_ofList (List.nodup_dedup _)]
  intro key
  rw [List.mem_dedup, ofList, mem_keys_insertAll]
  simp

/-- There is one member for each different key. -/
lemma length_ofList : (ofList pairs).length = (pairs.map Prod.fst).dedup.length := by
  rw [← keys_ofList_perm.length_eq, List.length_map]

/-- **Members are lost** exactly where two of them have one key. -/
theorem length_ofList_eq_iff :
    (ofList pairs).length = pairs.length ↔ (pairs.map Prod.fst).Nodup := by
  have hpairs : pairs.length = (pairs.map Prod.fst).length := (List.length_map _).symm
  rw [length_ofList, hpairs]
  constructor
  · intro hlength
    have hsame := (List.dedup_sublist (pairs.map Prod.fst)).eq_of_length hlength
    rw [← hsame]
    exact List.nodup_dedup _
  · intro hnodup
    rw [hnodup.dedup]

end Members

end RelationQuery
