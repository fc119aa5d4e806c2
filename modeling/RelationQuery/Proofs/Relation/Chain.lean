import RelationQuery.Proofs.Relation.Growth

/-!
Chains of declared graphs. Links forward and backward agree and follow the order of declaration,
so chains neither branch nor turn back, and the tail that a new edge goes to is their end. An
edge on a chain was declared at an edge above it on the same chain. All of this holds of every
declared graph, whatever the order of its statements.
-/

namespace RelationQuery

namespace Graph

/-- `a` is `b` or stands before it on its chain. -/
inductive Above (g : Graph) (a : Nat) : Nat → Prop
  | refl : g.Above a a
  | step {e : Edge} {p b : Nat} (he : g.edge? b = some e) (hp : e.prev = some p)
      (h : g.Above a p) : g.Above a b

/-- Where the next edge of a site may go: to no chain, if its anchor is on none or heads one that
was not there when the site was; else to the chain of its anchor. -/
def Allows (g : Graph) (follows anchor : Option Nat) : Prop :=
  match follows with
  | none => ∀ a, anchor = some a → ∃ f, g.edge? a = some f ∧ f.prev = none
  | some p => ∃ a f, anchor = some a ∧ g.Above a p ∧ g.edge? p = some f ∧ f.inChain = true

structure WellFormed (g : Graph) : Prop where
  id : ∀ {i e}, g.edge? i = some e → e.id = i
  prev_lt : ∀ {i e p}, g.edge? i = some e → e.prev = some p → p < i
  anchor_lt : ∀ {i e a}, g.edge? i = some e → e.anchor = some a → a < i
  next_iff : ∀ {i e n}, g.edge? i = some e →
    (e.next = some n ↔ ∃ f, g.edge? n = some f ∧ f.prev = some i)
  /-- an edge on a chain has its anchor above it -/
  chained : ∀ {i e p}, g.edge? i = some e → e.prev = some p →
    ∃ a, e.anchor = some a ∧ g.Above a p
  /-- a chain begins with a to-many edge -/
  headed : ∀ {i e p}, g.edge? i = some e → e.prev = some p →
    ∃ f, g.edge? p = some f ∧ f.inChain = true
  /-- what is declared at an edge that follows another one is on its chain -/
  free : ∀ {i e a f}, g.edge? i = some e → e.prev = none → e.anchor = some a →
    g.edge? a = some f → f.prev = none

variable {g g' : Graph} {a b c : Nat}

lemma Above.trans (hab : g.Above a b) (hbc : g.Above b c) : g.Above a c := by
  induction hbc with
  | refl => exact hab
  | step he hp _ ih => exact .step he hp ih

/-- What stands above an edge stands above the one before it, unless it is the edge itself. -/
lemma Above.prev {e : Edge} (h : g.Above a b) (hne : b ≠ a) (he : g.edge? b = some e) :
    ∃ p, e.prev = some p ∧ g.Above a p := by
  cases h with
  | refl => exact absurd rfl hne
  | step he' hp h =>
    rw [he] at he'
    cases he'
    exact ⟨_, hp, h⟩

lemma Above.extends (hext : g.Extends g') (h : g.Above a b) : g'.Above a b := by
  induction h with
  | refl => exact .refl
  | step he hp _ ih =>
    obtain ⟨f, hf, hgrows⟩ := hext.edge _ _ he
    exact .step hf (hgrows.prev.trans hp) ih

lemma Allows.extends (hext : g.Extends g') {follows anchor : Option Nat}
    (h : g.Allows follows anchor) : g'.Allows follows anchor := by
  rcases follows with _ | p
  · intro a ha
    obtain ⟨f, hf, hprev⟩ := h a ha
    obtain ⟨f', hf', hgrows⟩ := hext.edge _ _ hf
    exact ⟨f', hf', hgrows.prev.trans hprev⟩
  · obtain ⟨a, f, ha, habove, hf, hchain⟩ := h
    obtain ⟨f', hf', hgrows⟩ := hext.edge _ _ hf
    exact ⟨a, f', ha, habove.extends hext, hf', hgrows.inChain hchain⟩

namespace WellFormed

variable (wf : g.WellFormed)
include wf

lemma le_of_above (h : g.Above a b) : a ≤ b := by
  induction h with
  | refl => exact Nat.le_refl _
  | step he hp _ ih =>
    have := wf.prev_lt he hp
    omega

omit wf in
/-- Two edges above a third one stand on one chain. -/
lemma above_total (hac : g.Above a c) (hbc : g.Above b c) : g.Above a b ∨ g.Above b a := by
  induction hac with
  | refl => exact .inr hbc
  | step he hp hab ih =>
    cases hbc with
    | refl => exact .inl (.step he hp hab)
    | step he' hp' hbc' =>
      rw [he] at he'
      cases he'
      rw [hp] at hp'
      cases hp'
      exact ih hbc'

lemma lt_size_of_above (h : g.Above a b) (hb : b < g.size) : a < g.size :=
  Nat.lt_of_le_of_lt (wf.le_of_above h) hb

/-- An edge below another one comes behind the next one of its chain. -/
lemma exists_next (h : g.Above a b) (hne : b ≠ a) : ∃ n, g.next? a = some n ∧ g.Above n b := by
  induction h with
  | refl => exact absurd rfl hne
  | @step e p b he hp hap ih =>
    by_cases hpa : p = a
    · subst hpa
      have hlt : p < g.size := Nat.lt_trans (wf.prev_lt he hp) (lt_size_of_edge? he)
      obtain ⟨f, hf⟩ := edge?_of_lt hlt
      exact ⟨b, by simp [next?, hf, (wf.next_iff hf).mpr ⟨e, he, hp⟩], .refl⟩
    · obtain ⟨n, hn, hnp⟩ := ih hpa
      exact ⟨n, hn, .step he hp hnp⟩

lemma above_next {n : Nat} (h : g.next? a = some n) :
    g.Above a n ∧ a < n ∧ ∃ f, g.edge? n = some f := by
  unfold next? at h
  obtain ⟨e, he, hnext⟩ := Option.bind_eq_some_iff.mp h
  obtain ⟨f, hf, hprev⟩ := (wf.next_iff he).mp hnext
  exact ⟨.step hf hprev .refl, wf.prev_lt hf hprev, f, hf⟩

/-! ### Tails -/

lemma tailFrom_spec (fuel : Nat) (ha : a < g.size) (hfuel : g.size ≤ fuel + a) :
    g.Above a (g.tailFrom fuel a) ∧ g.tailFrom fuel a < g.size ∧
      g.next? (g.tailFrom fuel a) = none := by
  induction fuel generalizing a with
  | zero => omega
  | succ fuel ih =>
    unfold tailFrom
    split
    · rename_i n hn
      obtain ⟨habove, hlt, f, hf⟩ := wf.above_next hn
      obtain ⟨htail, hrest⟩ := ih (lt_size_of_edge? hf) (by omega)
      exact ⟨habove.trans htail, hrest⟩
    · rename_i hn
      exact ⟨.refl, ha, hn⟩

/-- The tail is on the chain, and nothing follows it. -/
lemma tail_spec (ha : a < g.size) :
    g.Above a (g.tail a) ∧ ∃ e, g.edge? (g.tail a) = some e ∧ e.next = none := by
  obtain ⟨habove, hlt, hnext⟩ := wf.tailFrom_spec g.size ha (by omega)
  obtain ⟨e, he⟩ := edge?_of_lt hlt
  refine ⟨habove, e, he, ?_⟩
  unfold next? at hnext
  rw [he] at hnext
  exact hnext

/-! ### New edges -/

lemma lt_size_of_allows {follows : Option Nat} (h : g.Allows follows (some a)) : a < g.size := by
  rcases follows with _ | p
  · obtain ⟨f, hf, -⟩ := h a rfl
    exact lt_size_of_edge? hf
  · obtain ⟨a', f, ha, habove, hf, -⟩ := h
    cases ha
    exact wf.lt_size_of_above habove (lt_size_of_edge? hf)

/-- Behind a new edge, the next one may go to the same chain. -/
lemma allows_push {follows anchor : Option Nat} (e : Edge) (h : g.Allows follows anchor) :
    (g.push follows e).Allows (follows.map fun _ => g.size) anchor := by
  have hext := g.extends_push follows e
  rcases follows with _ | p
  · exact h.extends hext
  · obtain ⟨a, f, ha, habove, hf, -⟩ := h
    have htail := (wf.tail_spec (lt_size_of_edge? hf)).1
    have hnew := g.edge?_push_self (some p) e
    exact ⟨a, _, ha, .step hnew rfl ((habove.trans htail).extends hext), hnew,
      by simp [Edge.inChain]⟩

/-- What is declared at an edge may go to its chain, if it has one. -/
lemma allows_below {i : Nat} {e : Edge} (he : g.edge? i = some e) (depth : Nat) :
    g.Allows (Site.below depth e).pending (Site.below depth e).anchor := by
  simp only [Site.below, wf.id he]
  split
  · rename_i hchain
    exact ⟨i, e, rfl, .refl, he, hchain⟩
  · rename_i hchain
    rintro a ⟨rfl⟩
    refine ⟨e, he, ?_⟩
    simpa [Edge.inChain] using (by simpa [Edge.inChain] using hchain : _ ∧ e.prev = none).2

section Push

variable {follows : Option Nat} {e : Edge} (hallows : g.Allows follows e.anchor)
include hallows

/-- What a new edge is put behind: the end of the chain that it goes to. -/
lemma exists_last {t : Nat} (ht : follows.map g.tail = some t) : ∃ p, follows = some p ∧
    g.Above p t ∧ ∃ f, g.edge? t = some f ∧ f.next = none := by
  obtain ⟨p, rfl, rfl⟩ := Option.map_eq_some_iff.mp ht
  obtain ⟨a, f, -, -, hf, -⟩ := hallows
  exact ⟨p, rfl, wf.tail_spec (lt_size_of_edge? hf)⟩

lemma next_iff_push {i n : Nat} {k : Edge} (hk : (g.push follows e).edge? i = some k) :
    k.next = some n ↔ ∃ f, (g.push follows e).edge? n = some f ∧ f.prev = some i := by
  obtain ⟨rfl, rfl⟩ | ⟨f, hf, hgrows, hnext⟩ := edge?_push_cases hk
  · -- nothing stands behind the new edge
    simp only [reduceCtorEq, false_iff, not_exists, not_and]
    intro k' hk' hprev
    obtain ⟨rfl, rfl⟩ | ⟨f', hf', hgrows', -⟩ := edge?_push_cases hk'
    · obtain ⟨-, -, -, f, hf, -⟩ := wf.exists_last hallows hprev
      exact Nat.lt_irrefl _ (lt_size_of_edge? hf)
    · have := wf.prev_lt hf' (hgrows'.prev ▸ hprev)
      have := lt_size_of_edge? hf'
      omega
  · rw [hnext]
    split
    · -- the last edge of the chain now leads to the new one
      rename_i hi
      obtain ⟨-, -, -, f', hf', hnone⟩ := wf.exists_last hallows hi
      constructor
      · rintro ⟨rfl⟩
        exact ⟨_, g.edge?_push_self follows e, hi⟩
      · rintro ⟨k', hk', hprev⟩
        obtain ⟨rfl, rfl⟩ | ⟨f'', hf'', hgrows', -⟩ := edge?_push_cases hk'
        · rfl
        · have := (wf.next_iff hf').mpr ⟨f'', hf'', hgrows'.prev ▸ hprev⟩
          simp [hnone] at this
    · rename_i hi
      rw [wf.next_iff hf]
      constructor
      · rintro ⟨f', hf', hprev⟩
        obtain ⟨k', hk', hgrows'⟩ := (g.extends_push follows e).edge _ _ hf'
        exact ⟨k', hk', hgrows'.prev.trans hprev⟩
      · rintro ⟨k', hk', hprev⟩
        obtain ⟨rfl, rfl⟩ | ⟨f', hf', hgrows', -⟩ := edge?_push_cases hk'
        · exact absurd hprev hi
        · exact ⟨f', hf', hgrows'.prev ▸ hprev⟩

lemma headed_push {i p : Nat} {k : Edge} (hk : (g.push follows e).edge? i = some k)
    (hp : k.prev = some p) :
    ∃ f, (g.push follows e).edge? p = some f ∧ f.inChain = true := by
  have hext := g.extends_push follows e
  obtain ⟨rfl, rfl⟩ | ⟨f, hf, hgrows, -⟩ := edge?_push_cases hk
  · obtain ⟨p', rfl, habove, f, hf, -⟩ := wf.exists_last hallows hp
    obtain ⟨-, f', -, -, hf', hchain⟩ := hallows
    obtain ⟨k, hk, hgrows⟩ := hext.edge _ _ hf
    refine ⟨k, hk, hgrows.inChain ?_⟩
    -- the edge followed is on a chain, so its tail is
    by_cases hsame : p = p'
    · subst hsame
      rw [hf'] at hf
      cases hf
      exact hchain
    · obtain ⟨q, hq, -⟩ := habove.prev hsame hf
      simp [Edge.inChain, hq]
  · obtain ⟨f', hf', hchain⟩ := wf.headed hf (hgrows.prev ▸ hp)
    obtain ⟨k', hk', hgrows'⟩ := hext.edge _ _ hf'
    exact ⟨k', hk', hgrows'.inChain hchain⟩

lemma free_push {i a : Nat} {k f : Edge} (hk : (g.push follows e).edge? i = some k)
    (hp : k.prev = none) (ha : k.anchor = some a) (hf : (g.push follows e).edge? a = some f) :
    f.prev = none := by
  have hext := g.extends_push follows e
  have hold : ∀ {f'}, g.edge? a = some f' → f'.prev = none → f.prev = none := by
    intro f' hf' hprev
    obtain ⟨f'', hf'', hgrows⟩ := hext.edge _ _ hf'
    rw [hf] at hf''
    cases hf''
    exact hgrows.prev.trans hprev
  obtain ⟨rfl, rfl⟩ | ⟨k', hk', hgrows, -⟩ := edge?_push_cases hk
  · obtain rfl : follows = none := by simpa using hp
    obtain ⟨f', hf', hprev⟩ := hallows a ha
    exact hold hf' hprev
  · have ha' := hgrows.anchor ▸ ha
    have hlt := Nat.lt_trans (wf.anchor_lt hk' ha') (lt_size_of_edge? hk')
    obtain ⟨f', hf'⟩ := edge?_of_lt hlt
    exact hold hf' (wf.free hk' (hgrows.prev ▸ hp) ha' hf')

/-- A new edge keeps the chains as they have to be. -/
lemma push : (g.push follows e).WellFormed := by
  have hext := g.extends_push follows e
  refine { id := ?_, prev_lt := ?_, anchor_lt := ?_, next_iff := wf.next_iff_push hallows,
           chained := ?_, headed := wf.headed_push hallows, free := wf.free_push hallows }
  · intro i k hk
    obtain ⟨rfl, rfl⟩ | ⟨f, hf, hgrows, -⟩ := edge?_push_cases hk
    · rfl
    · rw [hgrows.id, wf.id hf]
  · intro i k p hk hp
    obtain ⟨rfl, rfl⟩ | ⟨f, hf, hgrows, -⟩ := edge?_push_cases hk
    · obtain ⟨-, -, -, f, hf, -⟩ := wf.exists_last hallows hp
      exact lt_size_of_edge? hf
    · exact wf.prev_lt hf (hgrows.prev ▸ hp)
  · intro i k a hk ha
    obtain ⟨rfl, rfl⟩ | ⟨f, hf, hgrows, -⟩ := edge?_push_cases hk
    · exact wf.lt_size_of_allows (ha ▸ hallows)
    · exact wf.anchor_lt hf (hgrows.anchor ▸ ha)
  · intro i k p hk hp
    obtain ⟨rfl, rfl⟩ | ⟨f, hf, hgrows, -⟩ := edge?_push_cases hk
    · obtain ⟨p', rfl, habove, -⟩ := wf.exists_last hallows hp
      obtain ⟨a, -, ha, hap, -⟩ := hallows
      exact ⟨a, ha, (hap.trans habove).extends hext⟩
    · obtain ⟨a, ha, hap⟩ := wf.chained hf (hgrows.prev ▸ hp)
      exact ⟨a, hgrows.anchor.trans ha, hap.extends hext⟩

end Push

/-- Settings keep the chains. -/
lemma update {f : Edge → Edge} (hf : ∀ e : Edge, e.Grows (f e))
    (hnext : ∀ e, (f e).next = e.next) (id : Nat) : (g.update id f).WellFormed := by
  have hext := g.extends_update hf id
  have hold : ∀ {i k}, (g.update id f).edge? i = some k →
      ∃ e, g.edge? i = some e ∧ e.Grows k ∧ k.next = e.next := by
    intro i k hk
    rw [edge?_update] at hk
    split at hk
    · obtain ⟨e, he, rfl⟩ := Option.map_eq_some_iff.mp hk
      exact ⟨e, he, hf e, hnext e⟩
    · exact ⟨k, hk, .refl k, rfl⟩
  refine { id := ?_, prev_lt := ?_, anchor_lt := ?_, next_iff := ?_, chained := ?_, headed := ?_,
           free := ?_ }
  · intro i k hk
    obtain ⟨e, he, hgrows, -⟩ := hold hk
    rw [hgrows.id, wf.id he]
  · intro i k p hk hp
    obtain ⟨e, he, hgrows, -⟩ := hold hk
    exact wf.prev_lt he (hgrows.prev ▸ hp)
  · intro i k a hk ha
    obtain ⟨e, he, hgrows, -⟩ := hold hk
    exact wf.anchor_lt he (hgrows.anchor ▸ ha)
  · intro i k n hk
    obtain ⟨e, he, -, hlink⟩ := hold hk
    rw [hlink, wf.next_iff he]
    constructor
    · rintro ⟨f, hf, hprev⟩
      obtain ⟨k', hk', hgrows⟩ := hext.edge _ _ hf
      exact ⟨k', hk', hgrows.prev.trans hprev⟩
    · rintro ⟨k', hk', hprev⟩
      obtain ⟨f, hf, hgrows, -⟩ := hold hk'
      exact ⟨f, hf, hgrows.prev ▸ hprev⟩
  · intro i k p hk hp
    obtain ⟨e, he, hgrows, -⟩ := hold hk
    obtain ⟨a, ha, habove⟩ := wf.chained he (hgrows.prev ▸ hp)
    exact ⟨a, hgrows.anchor.trans ha, habove.extends hext⟩
  · intro i k p hk hp
    obtain ⟨e, he, hgrows, -⟩ := hold hk
    obtain ⟨f, hf, hchain⟩ := wf.headed he (hgrows.prev ▸ hp)
    obtain ⟨k', hk', hgrows'⟩ := hext.edge _ _ hf
    exact ⟨k', hk', hgrows'.inChain hchain⟩
  · intro i k a f hk hp ha hf
    obtain ⟨e, he, hgrows, -⟩ := hold hk
    obtain ⟨f', hf', hgrows', -⟩ := hold hf
    exact hgrows'.prev.trans (wf.free he (hgrows.prev ▸ hp) (hgrows.anchor ▸ ha) hf')

lemma markOverflowed (id : Nat) : (g.markOverflowed id).WellFormed := by
  have habove : ∀ {a b}, g.Above a b → (g.markOverflowed id).Above a b :=
    fun h => h.extends (g.extends_markOverflowed id)
  refine { id := ?_, prev_lt := ?_, anchor_lt := ?_, next_iff := ?_, chained := ?_, headed := ?_,
           free := ?_ } <;> simp only [edge?_markOverflowed]
  · exact wf.id
  · exact wf.prev_lt
  · exact wf.anchor_lt
  · exact wf.next_iff
  · intro i e p he hp
    obtain ⟨a, ha, h⟩ := wf.chained he hp
    exact ⟨a, ha, habove h⟩
  · exact wf.headed
  · exact wf.free

omit wf in
lemma empty (root : Table) : ({ root } : Graph).WellFormed := by
  have h : ∀ i e, ({ root } : Graph).edge? i ≠ some e := by simp [edge?]
  refine { id := ?_, prev_lt := ?_, anchor_lt := ?_, next_iff := ?_, chained := ?_, headed := ?_,
           free := ?_ } <;> intros <;> exact absurd ‹_› (h _ _)

end WellFormed

/-- Chains as an invariant of runs. -/
def chainInvariant (schema : Schema) : Invariant schema {} where
  Holds := WellFormed
  Fits g s := g.Allows s.pending s.anchor
  Resumes g s := g.Allows s.pending s.anchor
  Ready _ _ _ := True
  resumes_extends hext h := h.extends hext
  fits_of_resumes _ h := h
  fits_within _ h := ⟨h, fun _ hext => h.extends hext⟩
  fits_keyedBy h := h
  fits_unkeyed h := h
  change h _ _ := ⟨h.update (Setting.change_grows _) (Setting.next_change _) _, trivial⟩
  nested _ _ _ := trivial
  below depth h _ he := h.allows_below he depth
  markOverflowed id h := h.markOverflowed id
  place := by
    intro r settings s d _ h hfits
    have hone : ∀ e : Edge, e.anchor = s.anchor →
        let g := d.graph.push s.pending e
        g.WellFormed ∧ True ∧ g.Allows (s.advance (g.size - 1)).pending s.anchor := by
      intro e he
      refine ⟨h.push (he ▸ hfits), trivial, ?_⟩
      simpa [Site.advance] using h.allows_push e hfits
    cases r with
    | join kind target => exact hone _ (by unfold Edge.withKind; split <;> rfl)
    | one key => exact hone _ rfl
    | many key => exact hone _ rfl
    | belongsToMany key p =>
      set e := schema.entity key
      set target := p.tableRef s.base e.baseName
      set bridged := d.graph.push s.pending (s.bridge p target)
      have hbridged : bridged.WellFormed := h.push hfits
      have hallows : bridged.Allows (some d.graph.size) (some d.graph.size) :=
        ⟨_, _, rfl, .refl, d.graph.edge?_push_self _ _, by simp [Edge.inChain, Site.bridge]⟩
      rw [Relating.graph_place_belongsToMany]
      refine ⟨hbridged.push hallows, trivial, ?_⟩
      -- a chain that was extended to the bridge is extended once more
      have hbehind : ∀ follows : Option Nat,
          bridged.Allows (follows.map fun _ => d.graph.size) s.anchor →
          (bridged.push (some d.graph.size) (p.related target d.graph.size e)).Allows
            (follows.map fun _ => bridged.size) s.anchor := by
        rintro (_ | q) hq
        · exact hq.extends (bridged.extends_push _ _)
        · exact hbridged.allows_push _ hq
      have hadvanced := hbehind s.pending (h.allows_push _ hfits)
      simp only [bridged, size_push] at hadvanced
      simpa [Site.advance] using hadvanced

end Graph

/-- **Chains of declared graphs**: whatever a script says and in whatever order, its graph is
well-formed. -/
theorem Script.wellFormed_declare (script : Script) (schema : Schema) (e : Entity) :
    (script.declare schema e).graph.WellFormed := by
  refine (Graph.chainInvariant schema).declare (fun _ => Script.obeys_trivial _)
    script.obeys_trivial (.empty _) ?_
  rintro a ⟨⟩

end RelationQuery
