import RelationQuery.Proofs.Relation.Chain

/-!
Where an edge was declared from. The chain behind an edge holds all edges below it, in the order
of declaration; going up from anchor to anchor, an edge of it comes to a to-many edge of the same
chain.
-/

namespace RelationQuery

namespace Graph

/-- `r` is the nearest to-many edge on the way up from `i` by anchors, without `i` itself. -/
inductive NearestMany (g : Graph) : Nat → Nat → Prop
  | direct {i a : Nat} {e f : Edge} (he : g.edge? i = some e) (ha : e.anchor = some a)
      (hf : g.edge? a = some f) (hmany : f.many = true) : g.NearestMany i a
  | through {i a r : Nat} {e f : Edge} (he : g.edge? i = some e) (ha : e.anchor = some a)
      (hf : g.edge? a = some f) (hmany : f.many = false) (h : g.NearestMany a r) :
      g.NearestMany i r

variable {g : Graph} {i j r r' : Nat} {e f : Edge}

/-- One step up: to the anchor, and on from there if it is not to-many. -/
lemma nearestMany_iff {a : Nat} (he : g.edge? i = some e) (ha : e.anchor = some a)
    (hf : g.edge? a = some f) :
    g.NearestMany i r ↔ if f.many then r = a else g.NearestMany a r := by
  constructor
  · intro h
    cases h with
    | direct he' ha' hf' hmany =>
      rw [he] at he'
      cases he'
      rw [ha] at ha'
      cases ha'
      rw [hf] at hf'
      cases hf'
      simp [hmany]
    | through he' ha' hf' hmany h =>
      rw [he] at he'
      cases he'
      rw [ha] at ha'
      cases ha'
      rw [hf] at hf'
      cases hf'
      simpa [hmany] using h
  · split
    · rename_i hmany
      rintro rfl
      exact .direct he ha hf hmany
    · rename_i hmany
      exact .through he ha hf (by simpa using hmany)

/-- The way up is determined. -/
lemma NearestMany.unique (h : g.NearestMany i r) (h' : g.NearestMany i r') : r = r' := by
  induction h with
  | direct he ha hf hmany =>
    have hstep := (nearestMany_iff he ha hf).mp h'
    rw [if_pos hmany] at hstep
    exact hstep.symm
  | through he ha hf hmany _ ih =>
    have hstep := (nearestMany_iff he ha hf).mp h'
    rw [if_neg (by simp [hmany])] at hstep
    exact ih hstep

lemma NearestMany.many (h : g.NearestMany i r) : ∃ f, g.edge? r = some f ∧ f.many = true := by
  induction h with
  | direct _ _ hf hmany => exact ⟨_, hf, hmany⟩
  | through _ _ _ _ _ ih => exact ih

lemma chainFrom_ascending (g : Graph) (fuel i : Nat) :
    (g.chainFrom fuel i).Pairwise (·.id < ·.id) ∧ ∀ e ∈ g.chainFrom fuel i, i < e.id := by
  induction fuel generalizing i with
  | zero => simp [chainFrom]
  | succ fuel ih =>
    unfold chainFrom
    split
    · rename_i f hf
      split
      · simp
      · obtain ⟨hsorted, hgt⟩ := ih f.id
        refine ⟨List.pairwise_cons.mpr ⟨hgt, hsorted⟩, ?_⟩
        intro e he
        rcases List.mem_cons.mp he with rfl | he
        · omega
        · have := hgt e he
          omega
    · simp

/-- The chain is in the order of declaration. -/
lemma chain_ascending (g : Graph) (i : Nat) : (g.chain i).Pairwise (·.id < ·.id) :=
  (g.chainFrom_ascending g.size i).1

namespace WellFormed

variable (wf : g.WellFormed)
include wf

lemma lt_of_nearestMany (h : g.NearestMany i r) : r < i := by
  induction h with
  | direct he ha => exact wf.anchor_lt he ha
  | through he ha _ _ _ ih => exact Nat.lt_trans ih (wf.anchor_lt he ha)

/-! ### Chains as lists -/

lemma mem_chainFrom {fuel : Nat} (hfuel : g.size ≤ fuel + i) :
    e ∈ g.chainFrom fuel i ↔ g.edge? e.id = some e ∧ g.Above i e.id ∧ e.id ≠ i := by
  induction fuel generalizing i with
  | zero =>
    simp only [chainFrom, List.not_mem_nil, false_iff, not_and]
    intro he habove
    have := wf.le_of_above habove
    have := lt_size_of_edge? he
    omega
  | succ fuel ih =>
    unfold chainFrom
    split
    · rename_i f hf
      obtain ⟨n, hn, hf⟩ := Option.bind_eq_some_iff.mp hf
      obtain ⟨habove, hlt, -⟩ := wf.above_next hn
      have hid := wf.id hf
      subst hid
      rw [if_neg (by omega), List.mem_cons, ih (by omega)]
      constructor
      · rintro (rfl | ⟨he, hfe, hne⟩)
        · exact ⟨hf, habove, by omega⟩
        · have := wf.le_of_above hfe
          exact ⟨he, habove.trans hfe, by omega⟩
      · rintro ⟨he, hie, hne⟩
        obtain ⟨n', hn', hne'⟩ := wf.exists_next hie hne
        rw [hn] at hn'
        cases hn'
        by_cases heq : e.id = f.id
        · rw [heq, hf] at he
          exact .inl (Option.some.inj he).symm
        · exact .inr ⟨he, hne', heq⟩
    · rename_i hnone
      simp only [List.not_mem_nil, false_iff, not_and]
      intro he hie hne
      obtain ⟨n, hn, -⟩ := wf.exists_next hie hne
      obtain ⟨-, -, f, hf⟩ := wf.above_next hn
      simp [hn, hf] at hnone

/-- The chain behind an edge holds all edges below it. -/
lemma mem_chain : e ∈ g.chain i ↔ g.edge? e.id = some e ∧ g.Above i e.id ∧ e.id ≠ i :=
  wf.mem_chainFrom (by omega)

lemma lt_of_mem_chain (h : e ∈ g.chain i) : i < e.id := by
  obtain ⟨-, habove, hne⟩ := wf.mem_chain.mp h
  have := wf.le_of_above habove
  omega

/-- The anchor of an edge below `r` is `r` or below it. -/
lemma above_anchor {a : Nat} (hr : g.edge? r = some f) (hroot : f.prev = none)
    (he : g.edge? i = some e) (habove : g.Above r i) (hne : i ≠ r) (ha : e.anchor = some a) :
    g.Above r a := by
  obtain ⟨p, hp, hrp⟩ := habove.prev hne he
  obtain ⟨a', ha', hap⟩ := wf.chained he hp
  rw [ha] at ha'
  cases ha'
  rcases above_total hrp hap with h | h
  · exact h
  · by_cases hra : r = a
    · exact hra ▸ .refl
    · -- nothing stands before the root
      obtain ⟨q, hq, -⟩ := h.prev hra hr
      simp [hroot] at hq

/-- On a chain, the nearest to-many edge stands above. -/
lemma above_of_nearestMany {p : Nat} (he : g.edge? i = some e) (hp : e.prev = some p)
    (h : g.NearestMany i r) : g.Above r i := by
  induction h generalizing e p with
  | @direct i a _ _ he' ha =>
    rw [he] at he'
    cases he'
    obtain ⟨a', ha', hap⟩ := wf.chained he hp
    rw [ha] at ha'
    cases ha'
    exact .step he hp hap
  | @through i a r _ f he' ha hf hmany _ ih =>
    rw [he] at he'
    cases he'
    obtain ⟨a', ha', hap⟩ := wf.chained he hp
    rw [ha] at ha'
    cases ha'
    have hai : g.Above a i := .step he hp hap
    -- something follows the anchor, so it is on a chain although it is not to-many
    obtain ⟨n, hn, -⟩ := wf.exists_next hai (Nat.ne_of_gt (wf.anchor_lt he ha))
    obtain ⟨k, hk, hnext⟩ := Option.bind_eq_some_iff.mp hn
    obtain ⟨m, hm, hprev⟩ := (wf.next_iff hk).mp hnext
    obtain ⟨f', hf', hchain⟩ := wf.headed hm hprev
    rw [hf] at hf'
    cases hf'
    obtain ⟨q, hq⟩ : ∃ q, f.prev = some q := by
      simpa [Edge.inChain, hmany, Option.isSome_iff_exists] using hchain
    exact (ih hf hq).trans hai

/-- Every chain has a head, to-many if anything follows it. -/
lemma exists_head (he : g.edge? i = some e) :
    ∃ h f, g.edge? h = some f ∧ f.prev = none ∧ g.Above h i ∧ (h ≠ i → f.many = true) := by
  induction i using Nat.strongRecOn generalizing e with
  | _ i ih =>
    rcases hp : e.prev with _ | p
    · exact ⟨i, e, he, hp, .refl, fun hne => absurd rfl hne⟩
    · obtain ⟨k, hk, hchain⟩ := wf.headed he hp
      obtain ⟨h, f, hf, hprev, habove, hmany⟩ := ih p (wf.prev_lt he hp) hk
      refine ⟨h, f, hf, hprev, .step he hp habove, fun _ => ?_⟩
      by_cases hhp : h = p
      · subst hhp
        rw [hf] at hk
        cases hk
        simpa [Edge.inChain, hprev] using hchain
      · exact hmany hhp

/-- Going up from below a to-many root, one comes to a to-many edge, at the latest to the root. -/
lemma exists_nearestMany (hr : g.edge? r = some f) (hroot : f.prev = none) (hmany : f.many = true)
    (he : g.edge? i = some e) (habove : g.Above r i) (hne : i ≠ r) :
    ∃ n, g.NearestMany i n ∧ g.Above r n := by
  induction i using Nat.strongRecOn generalizing e with
  | _ i ih =>
    obtain ⟨p, hp, -⟩ := habove.prev hne he
    obtain ⟨a, ha, -⟩ := wf.chained he hp
    have hra := wf.above_anchor hr hroot he habove hne ha
    have hlt := wf.anchor_lt he ha
    obtain ⟨k, hk⟩ := edge?_of_lt (Nat.lt_trans hlt (lt_size_of_edge? he))
    by_cases hkm : k.many = true
    · exact ⟨a, .direct he ha hk hkm, hra⟩
    · have hkm' : k.many = false := by simpa using hkm
      have har : a ≠ r := by
        rintro rfl
        rw [hr] at hk
        cases hk
        exact hkm hmany
      obtain ⟨n, hn, hrn⟩ := ih a hlt hk hra har
      exact ⟨n, .through he ha hk hkm' hn, hrn⟩

end WellFormed

end Graph

end RelationQuery
