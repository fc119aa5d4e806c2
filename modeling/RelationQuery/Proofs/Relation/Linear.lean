import Mathlib.Data.List.Chain
import RelationQuery.Proofs.Relation.Lineage

/-!
Chains of declared graphs as linked lists. Links never branch, a chain that has more than one edge
begins with a to-many one, and a bridge has its related edge right behind it. Following the links
from an edge visits ascending edges up to the last one. This holds of the graph at every stage of
its growth, so the walk to the tail always comes to its end, where the next edge is put.
-/

namespace RelationQuery

namespace Graph

variable {g : Graph}

/-! ### Bridges -/

/-- Behind every bridge stands the edge to the related entity, declared at the bridge. -/
def Bridged (g : Graph) : Prop :=
  ∀ i e, g.edge? i = some e → e.bridge = true →
    e.many = true ∧ ∃ f, g.edge? (i + 1) = some f ∧ f.prev = some i ∧ f.anchor = some i

lemma Bridged.update (h : g.Bridged) {f : Edge → Edge} (hf : ∀ e : Edge, e.Grows (f e))
    (id : Nat) : (g.update id f).Bridged := by
  intro i k hk hbridge
  rw [edge?_update] at hk
  obtain ⟨e, he, hgrows⟩ : ∃ e, g.edge? i = some e ∧ e.Grows k := by
    split at hk
    · obtain ⟨e, he, rfl⟩ := Option.map_eq_some_iff.mp hk
      exact ⟨e, he, hf e⟩
    · exact ⟨k, hk, .refl k⟩
  obtain ⟨hmany, next, hnext, hprev, hanchor⟩ := h i e he (hgrows.bridge ▸ hbridge)
  obtain ⟨next', hnext', hgrows'⟩ := (extends_update hf g id).edge _ _ hnext
  exact ⟨hgrows.many hmany, next', hnext', hgrows'.prev.trans hprev, hgrows'.anchor.trans hanchor⟩

/-- An edge that is no bridge itself leaves the bridges as they are. -/
lemma Bridged.push (h : g.Bridged) (follows : Option Nat) {e : Edge} (he : e.bridge = false) :
    (g.push follows e).Bridged := by
  intro i k hk hbridge
  obtain ⟨rfl, rfl⟩ | ⟨f, hf, hgrows, -⟩ := edge?_push_cases hk
  · rw [show e.bridge = true from hbridge] at he
    cases he
  · obtain ⟨hmany, next, hnext, hprev, hanchor⟩ := h i f hf (hgrows.bridge ▸ hbridge)
    obtain ⟨next', hnext', hgrows'⟩ := (g.extends_push follows e).edge _ _ hnext
    exact ⟨hgrows.many hmany, next', hnext', hgrows'.prev.trans hprev,
      hgrows'.anchor.trans hanchor⟩

/-- An edge that nothing follows is the tail of its chain. -/
lemma tail_of_next_eq_none {i : Nat} (h : g.next? i = none) : g.tail i = i := by
  unfold tail
  cases g.size with
  | zero => rfl
  | succ fuel => rw [tailFrom, h]

/-- A bridge goes in together with its related edge, which finds it at the end of the chain. -/
lemma Bridged.push_related (h : g.Bridged) (follows : Option Nat) {bridge related : Edge}
    (hmany : bridge.many = true) (hrelated : related.bridge = false)
    (hanchor : related.anchor = some g.size) :
    ((g.push follows bridge).push (some g.size) related).Bridged := by
  set bridged := g.push follows bridge
  have hsize : bridged.size = g.size + 1 := g.size_push follows bridge
  have hlast : bridged.tail g.size = g.size :=
    tail_of_next_eq_none (by rw [next?, g.edge?_push_self follows bridge]; rfl)
  have hbehind : (bridged.push (some g.size) related).edge? (g.size + 1) =
      some { related with id := bridged.size, prev := some g.size, next := none } := by
    rw [← hsize, edge?_push_self, Option.map_some, hlast]
  intro i k hk hbridge
  obtain ⟨rfl, rfl⟩ | ⟨f, hf, hgrows, -⟩ := edge?_push_cases hk
  · rw [show related.bridge = true from hbridge] at hrelated
    cases hrelated
  obtain ⟨rfl, rfl⟩ | ⟨f', hf', hgrows', -⟩ := edge?_push_cases hf
  · exact ⟨hgrows.many hmany, _, hbehind, rfl, hanchor⟩
  · have hold := (hgrows'.trans hgrows)
    obtain ⟨hmany', next, hnext, hprev, hanchor'⟩ := h i f' hf' (hold.bridge ▸ hbridge)
    have hext := (g.extends_push follows bridge).trans (bridged.extends_push (some g.size) related)
    obtain ⟨next', hnext', hgrows''⟩ := hext.edge _ _ hnext
    exact ⟨hold.many hmany', next', hnext', hgrows''.prev.trans hprev,
      hgrows''.anchor.trans hanchor'⟩

/-- Bridges as an invariant of runs. -/
def bridgeInvariant (schema : Schema) : Invariant schema {} where
  Holds := Bridged
  Fits _ _ := True
  Resumes _ _ := True
  Ready _ _ _ := True
  resumes_extends _ _ := trivial
  fits_of_resumes _ _ := trivial
  fits_within _ _ := ⟨trivial, fun _ _ => trivial⟩
  fits_keyedBy _ := trivial
  fits_unkeyed _ := trivial
  change h _ _ := ⟨h.update (Setting.change_grows _) _, trivial⟩
  nested _ _ _ := trivial
  below _ _ _ _ := trivial
  markOverflowed id h := by simpa [Bridged] using h
  place := by
    intro r settings s d _ h _
    refine ⟨?_, trivial, trivial⟩
    cases r with
    | join kind target => exact h.push _ (by unfold Edge.withKind; split <;> rfl)
    | one key => exact h.push _ rfl
    | many key => exact h.push _ rfl
    | belongsToMany key p =>
      rw [Relating.graph_place_belongsToMany]
      exact h.push_related _ rfl rfl rfl

end Graph

/-- The bridges of declared graphs have their related edges. -/
lemma Script.bridged_declare (script : Script) (schema : Schema) (e : Entity) :
    (script.declare schema e).graph.Bridged :=
  (Graph.bridgeInvariant schema).declare (fun _ => Script.obeys_trivial _) script.obeys_trivial
    (by simp [Graph.bridgeInvariant, Graph.Bridged, Graph.edge?]) trivial

namespace Graph

variable {g : Graph}

/-! ### Stages -/

/-- The graph as it was when it had `n` edges, before any link to a later one. -/
def upTo (g : Graph) (n : Nat) : Graph :=
  { g with edges := ((g.edges.toList.take n).map fun e =>
      { e with next := e.next.filter (· < n) }).toArray }

lemma size_upTo {n : Nat} (h : n ≤ g.size) : (g.upTo n).size = n := by
  simp only [upTo, size, List.size_toArray, List.length_map, List.length_take, Array.length_toList]
  exact Nat.min_eq_left h

lemma edge?_upTo {n i : Nat} {k : Edge} : (g.upTo n).edge? i = some k ↔
    i < n ∧ ∃ e, g.edge? i = some e ∧ k = { e with next := e.next.filter (· < n) } := by
  simp only [upTo, edge?, List.getElem?_toArray, List.getElem?_map, List.getElem?_take]
  split
  · rename_i hi
    simp only [hi, true_and, Array.getElem?_toList, Option.map_eq_some_iff]
    exact exists_congr fun e => and_congr_right fun _ => eq_comm
  · rename_i hi
    simp [hi]

/-- The links of a stage are those that lead to its own edges. -/
lemma next?_upTo {n i m : Nat} : (g.upTo n).next? i = some m ↔
    i < n ∧ m < n ∧ g.next? i = some m := by
  simp only [next?, Option.bind_eq_some_iff, edge?_upTo]
  constructor
  · rintro ⟨_, ⟨hi, e, he, rfl⟩, hnext⟩
    obtain ⟨hnext, hm⟩ := Option.filter_eq_some_iff.mp hnext
    exact ⟨hi, by simpa using hm, e, he, hnext⟩
  · rintro ⟨hi, hm, e, he, hnext⟩
    exact ⟨_, ⟨hi, e, he, rfl⟩, Option.filter_eq_some_iff.mpr ⟨hnext, by simpa using hm⟩⟩

namespace WellFormed

variable (wf : g.WellFormed)
include wf

lemma above_upTo {n a b : Nat} (h : g.Above a b) (hb : b < n) : (g.upTo n).Above a b := by
  induction h with
  | refl => exact .refl
  | step he hp _ ih =>
    have hlt := wf.prev_lt he hp
    exact .step (edge?_upTo.mpr ⟨hb, _, he, rfl⟩) hp (ih (by omega))

/-- Every stage of a well-formed graph is well-formed. -/
lemma upTo (n : Nat) : (g.upTo n).WellFormed := by
  refine { id := ?_, prev_lt := ?_, anchor_lt := ?_, next_iff := ?_, chained := ?_, headed := ?_,
           free := ?_ }
  · intro i k hk
    obtain ⟨-, e, he, rfl⟩ := edge?_upTo.mp hk
    exact (wf.id he :)
  · intro i k p hk hp
    obtain ⟨-, e, he, rfl⟩ := edge?_upTo.mp hk
    exact wf.prev_lt he hp
  · intro i k a hk ha
    obtain ⟨-, e, he, rfl⟩ := edge?_upTo.mp hk
    exact wf.anchor_lt he ha
  · intro i k m hk
    obtain ⟨hi, e, he, rfl⟩ := edge?_upTo.mp hk
    simp only [Option.filter_eq_some_iff, wf.next_iff he, edge?_upTo]
    constructor
    · rintro ⟨⟨f, hf, hprev⟩, hm⟩
      exact ⟨_, ⟨by simpa using hm, f, hf, rfl⟩, hprev⟩
    · rintro ⟨_, ⟨hm, f, hf, rfl⟩, hprev⟩
      exact ⟨⟨f, hf, hprev⟩, by simpa using hm⟩
  · intro i k p hk hp
    obtain ⟨hi, e, he, rfl⟩ := edge?_upTo.mp hk
    obtain ⟨a, ha, habove⟩ := wf.chained he hp
    have hlt := wf.prev_lt he hp
    exact ⟨a, ha, wf.above_upTo habove (by omega)⟩
  · intro i k p hk hp
    obtain ⟨hi, e, he, rfl⟩ := edge?_upTo.mp hk
    obtain ⟨f, hf, hchain⟩ := wf.headed he hp
    have hlt := wf.prev_lt he hp
    exact ⟨_, edge?_upTo.mpr ⟨by omega, f, hf, rfl⟩, hchain⟩
  · intro i k a k' hk hp ha hk'
    obtain ⟨-, e, he, rfl⟩ := edge?_upTo.mp hk
    obtain ⟨-, f, hf, rfl⟩ := edge?_upTo.mp hk'
    exact (wf.free he hp ha hf :)

/-- The end of a chain is its tail. -/
lemma tailFrom_eq {fuel a t : Nat} (ha : a < g.size) (hfuel : g.size ≤ fuel + a)
    (h : g.Above a t) (hend : g.next? t = none) : g.tailFrom fuel a = t := by
  induction fuel generalizing a with
  | zero => omega
  | succ fuel ih =>
    unfold tailFrom
    by_cases hta : t = a
    · subst hta
      rw [hend]
    · obtain ⟨n, hn, hnt⟩ := wf.exists_next h hta
      obtain ⟨-, hlt, f, hf⟩ := wf.above_next hn
      simp only [hn]
      exact ih (lt_size_of_edge? hf) (by omega) hnt

/-- At each stage, the walk to the tail comes to the end of the chain. -/
lemma tail_upTo {n i : Nat} (hi : i < n) (hn : n ≤ g.size) :
    (g.upTo n).Above i ((g.upTo n).tail i) ∧ (g.upTo n).next? ((g.upTo n).tail i) = none := by
  have hlt : i < (g.upTo n).size := by rwa [size_upTo hn]
  obtain ⟨habove, e, he, hnext⟩ := (wf.upTo n).tail_spec hlt
  exact ⟨habove, by rw [next?, he, Option.bind_some, hnext]⟩

/-- An edge that follows another one was put behind the tail of its anchor's chain. -/
lemma tail_anchor {i p : Nat} {e : Edge} (he : g.edge? i = some e) (hp : e.prev = some p) :
    ∃ a, e.anchor = some a ∧ (g.upTo i).tail a = p := by
  obtain ⟨a, ha, habove⟩ := wf.chained he hp
  have hlt := wf.prev_lt he hp
  have hsize := size_upTo (g := g) (Nat.le_of_lt (lt_size_of_edge? he))
  have hap := wf.le_of_above habove
  refine ⟨a, ha, (wf.upTo i).tailFrom_eq (by omega) (by omega) (wf.above_upTo habove hlt) ?_⟩
  -- what follows `p` is the edge itself, which the stage does not have yet
  obtain ⟨f, hf⟩ := edge?_of_lt (Nat.lt_trans hlt (lt_size_of_edge? he))
  have hnext : g.next? p = some i := by
    rw [next?, hf, Option.bind_some, wf.next_iff hf]
    exact ⟨e, he, hp⟩
  by_contra hne
  obtain ⟨m, hm⟩ := Option.ne_none_iff_exists'.mp hne
  obtain ⟨-, hmi, hpm⟩ := next?_upTo.mp hm
  rw [hnext] at hpm
  cases hpm
  omega

/-! ### Links as lists -/

lemma isChain_chainFrom {fuel i : Nat} {e : Edge} (he : g.edge? i = some e)
    (hfuel : g.size ≤ fuel + i) :
    List.IsChain (fun a b => a.next = some b.id) (e :: g.chainFrom fuel i) ∧
      ((e :: g.chainFrom fuel i).getLast (List.cons_ne_nil _ _)).next = none := by
  induction fuel generalizing i e with
  | zero =>
    have := lt_size_of_edge? he
    omega
  | succ fuel ih =>
    cases hnext : e.next with
    | none =>
      have hend : g.chainFrom (fuel + 1) i = [] := by simp [chainFrom, next?, he, hnext]
      simp only [hend]
      exact ⟨List.isChain_singleton _, hnext⟩
    | some n =>
      obtain ⟨f, hf, hprev⟩ := (wf.next_iff he).mp hnext
      have hid := wf.id hf
      have hlt := wf.prev_lt hf hprev
      -- links ascend, so the walk goes on
      have hgo : g.chainFrom (fuel + 1) i = f :: g.chainFrom fuel n := by
        simp [chainFrom, next?, he, hnext, hf, hid, hlt]
      obtain ⟨hchain, hlast⟩ := ih hf (by omega)
      simp only [hgo]
      refine ⟨List.isChain_cons_cons.mpr ⟨by rw [hnext, hid], hchain⟩, ?_⟩
      rwa [List.getLast_cons (List.cons_ne_nil _ _)]

end WellFormed

/-- The chains of a graph are linked lists, at every stage of its growth. -/
structure Linear (g : Graph) : Prop extends g.WellFormed where
  /-- no two edges follow the same one -/
  unbranched : ∀ {i j e f p}, g.edge? i = some e → g.edge? j = some f →
    e.prev = some p → f.prev = some p → i = j
  /-- a chain of more than one edge begins with a to-many one -/
  head : ∀ {i e n}, g.edge? i = some e → e.prev = none → e.next = some n → e.many = true
  /-- right behind a bridge stands its related edge -/
  bridge : ∀ {i e}, g.edge? i = some e → e.bridge = true → e.many = true ∧
    e.next = some (i + 1) ∧ ∃ f, g.edge? (i + 1) = some f ∧ f.anchor = some i
  /-- the chain behind an edge follows the links, each time to a later edge, up to their end -/
  chain : ∀ {i e}, g.edge? i = some e →
    List.IsChain (fun a b => a.next = some b.id) (e :: g.chain i) ∧
      ((e :: g.chain i).getLast (List.cons_ne_nil _ _)).next = none ∧
      (e :: g.chain i).Pairwise (·.id < ·.id)
  /-- the walk to the tail comes to the end of the chain -/
  tail : ∀ {n i}, i < n → n ≤ g.size → (g.upTo n).Above i ((g.upTo n).tail i) ∧
    (g.upTo n).next? ((g.upTo n).tail i) = none
  /-- there, the next edge of the chain was put -/
  put : ∀ {i e p}, g.edge? i = some e → e.prev = some p →
    ∃ a, e.anchor = some a ∧ (g.upTo i).tail a = p

lemma WellFormed.linear (wf : g.WellFormed) (hbridged : g.Bridged) : g.Linear := by
  refine { wf with
           unbranched := ?_, head := ?_, bridge := ?_, chain := ?_,
           tail := wf.tail_upTo, put := wf.tail_anchor }
  · intro i j e f p he hf hep hfp
    obtain ⟨k, hk⟩ := edge?_of_lt (Nat.lt_trans (wf.prev_lt he hep) (lt_size_of_edge? he))
    have hi := (wf.next_iff hk).mpr ⟨e, he, hep⟩
    have hj := (wf.next_iff hk).mpr ⟨f, hf, hfp⟩
    exact Option.some.inj (hi.symm.trans hj)
  · intro i e n he hprev hnext
    obtain ⟨f, hf, hback⟩ := (wf.next_iff he).mp hnext
    obtain ⟨e', he', hchain⟩ := wf.headed hf hback
    obtain rfl : e = e' := Option.some.inj (he.symm.trans he')
    simpa [Edge.inChain, hprev] using hchain
  · intro i e he hbridge
    obtain ⟨hmany, f, hf, hprev, hanchor⟩ := hbridged i e he hbridge
    exact ⟨hmany, (wf.next_iff he).mpr ⟨f, hf, hprev⟩, f, hf, hanchor⟩
  · intro i e he
    obtain ⟨hlinks, hlast⟩ := wf.isChain_chainFrom he (Nat.le_add_right _ _)
    refine ⟨hlinks, hlast, List.pairwise_cons.mpr ⟨fun f hf => ?_, g.chain_ascending i⟩⟩
    rw [wf.id he]
    exact wf.lt_of_mem_chain hf

/-- A stage has the links that the graph had then. -/
lemma next?_of_extends {past : Graph} (wf : past.WellFormed) (wf' : g.WellFormed)
    (hext : past.Extends g) (j : Nat) : past.next? j = (g.upTo past.size).next? j := by
  ext m
  rw [next?_upTo]
  constructor
  · intro hm
    obtain ⟨e, he, hlink⟩ := Option.bind_eq_some_iff.mp hm
    obtain ⟨f, hf, hprev⟩ := (wf.next_iff he).mp hlink
    obtain ⟨e', he', -⟩ := hext.edge _ _ he
    obtain ⟨f', hf', hgrows⟩ := hext.edge _ _ hf
    refine ⟨lt_size_of_edge? he, lt_size_of_edge? hf, ?_⟩
    rw [next?, he', Option.bind_some, wf'.next_iff he']
    exact ⟨f', hf', hgrows.prev.trans hprev⟩
  · rintro ⟨hj, hm, hlink⟩
    obtain ⟨e', he', hlink⟩ := Option.bind_eq_some_iff.mp hlink
    obtain ⟨f', hf', hprev⟩ := (wf'.next_iff he').mp hlink
    obtain ⟨e, he⟩ := edge?_of_lt hj
    obtain ⟨f, hf⟩ := edge?_of_lt hm
    obtain ⟨f'', hf'', hgrows⟩ := hext.edge _ _ hf
    obtain rfl : f' = f'' := Option.some.inj (hf'.symm.trans hf'')
    rw [next?, he, Option.bind_some, wf.next_iff he]
    exact ⟨f, hf, hgrows.prev ▸ hprev⟩

/-- The tails of a stage are those that an earlier state of the graph had. -/
theorem tail_of_extends {past : Graph} (wf : past.WellFormed) (wf' : g.WellFormed)
    (hext : past.Extends g) (i : Nat) : past.tail i = (g.upTo past.size).tail i := by
  have hfrom : ∀ fuel j, past.tailFrom fuel j = (g.upTo past.size).tailFrom fuel j := by
    intro fuel
    induction fuel with
    | zero => exact fun _ => rfl
    | succ fuel ih =>
      intro j
      unfold tailFrom
      rw [next?_of_extends wf wf' hext j]
      split
      · exact ih _
      · rfl
  rw [tail, tail, size_upTo hext.size_le, hfrom]

end Graph

/-- **Chains as linked lists**: whatever a script says and in whatever order, the chains of its
graph neither branch nor turn back, each begins with a to-many edge and is followed to its end, and
every edge stands where the tail of its chain was when it was declared. -/
theorem Script.linear_declare (script : Script) (schema : Schema) (e : Entity) :
    (script.declare schema e).graph.Linear :=
  (script.wellFormed_declare schema e).linear (script.bridged_declare schema e)

end RelationQuery
