import RelationQuery.Proofs.Aggregation.Keys
import RelationQuery.Proofs.Relation.Ties

/-!
Which levels are accepted. A level asks three things of itself: that its to-many edge correlates,
that its other edges can be joined, unless it is left out, and that its keys are distinct. Outlines
are emitted if all of their levels are sound; the error of one that is not comes from a level where
one of the three fails.
-/

namespace RelationQuery

namespace Outline

/-- What is asked of a level, whatever is asked of the levels nested in it. -/
structure Sound (o : Outline) : Prop where
  correlates : o.root.Correlates
  joins : o.silent = false → ∀ e ∈ o.members, e.Joins
  keys : o.keys.Nodup

/-- The errors that a level may answer with, each where it breaks one of the demands. -/
inductive Breach (o : Outline) : CompileError → Prop
  | uncorrelated (h : ¬ o.root.Correlates) : Breach o (o.root.unresolvable o.root.obstacle)
  | untied {e : Edge} (hsilent : o.silent = false) (he : e ∈ o.members) (h : ¬ e.Joins) :
      Breach o e.untied
  | clash {key : String} (h : Keys.Clashes [] o.keys key) : Breach o (.duplicateKey key o.title)

lemma Breach.not_sound {o : Outline} {error : CompileError} (h : o.Breach error) : ¬ o.Sound := by
  intro hsound
  cases h with
  | uncorrelated h => exact h hsound.correlates
  | untied hsilent he h => exact h (hsound.joins hsilent _ he)
  | clash h => exact h.not_fresh (Keys.fresh_of_nothing.mpr hsound.keys)

lemma joins_of_mapM {edges : List Edge} {joins : List JoinClause}
    (h : edges.mapM Edge.join = .ok joins) : ∀ e ∈ edges, e.Joins := by
  induction edges generalizing joins with
  | nil => simp
  | cons e rest ih =>
    obtain ⟨clause, others, hclause, hothers, -⟩ := mapM_cons_eq_ok h
    rw [List.forall_mem_cons]
    exact ⟨Edge.joins_of_join hclause, ih hothers⟩

lemma untied_of_mapM {edges : List Edge} {error : CompileError}
    (h : edges.mapM Edge.join = .error error) : ∃ e ∈ edges, ¬ e.Joins ∧ error = e.untied := by
  induction edges with
  | nil => cases h
  | cons e rest ih =>
    rw [List.mapM_cons] at h
    cases hclause : e.join with
    | error error' =>
      simp only [hclause, bind, Except.bind] at h
      cases h
      exact ⟨e, List.mem_cons_self, Edge.error_of_join hclause⟩
    | ok clause =>
      cases hothers : rest.mapM Edge.join with
      | ok others => simp [hclause, hothers, bind, Except.bind, pure, Except.pure] at h
      | error error' =>
        simp only [hclause, hothers, bind, Except.bind] at h
        cases h
        obtain ⟨k, hk, hspec⟩ := ih hothers
        exact ⟨k, List.mem_cons_of_mem _ hk, hspec⟩

/-- What can be emitted at all is sound. -/
lemma sound_of_level {o : Outline} {result : Option Level} (h : o.level = .ok result) :
    o.Sound := by
  have hkeys := keys_nodup_of_level h
  have hyields := h ▸ o.yields_level
  cases hyields with
  | left _ hcorrelation hsilent =>
    refine ⟨Edge.correlates_of_correlation hcorrelation, fun hspeaks => ?_, hkeys⟩
    rw [hsilent] at hspeaks
    cases hspeaks
  | emitted _ hcorrelation _ hjoins _ _ =>
    exact ⟨Edge.correlates_of_correlation hcorrelation, fun _ => joins_of_mapM hjoins, hkeys⟩

/-- An error of an outline is that of one of its levels, provided these start at to-many edges and
no bridge among them ends its chain. -/
lemma breach_of_level {o : Outline} {error : CompileError}
    (hroots : ∀ l ∈ o.flatten, l.root.many = true ∧ (l.root.bridge = true → l.root.next ≠ none))
    (h : o.level = .error error) : ∃ l ∈ o.flatten, l.Breach error := by
  induction o using Outline.induction generalizing error with
  | outline root members nested ih =>
    set o : Outline := ⟨root, members, nested⟩
    obtain ⟨hmany, hbridge⟩ := hroots o (mem_flatten_self o)
    have hyields := h ▸ o.yields_level
    cases hyields with
    | notMany hone =>
      rw [hmany] at hone
      cases hone
    | untargeted hbridged hnext => exact absurd hnext (hbridge hbridged)
    | uncorrelated hcorrelation =>
      obtain ⟨hnot, rfl⟩ := Edge.error_of_correlation hcorrelation
      exact ⟨o, mem_flatten_self o, .uncorrelated hnot⟩
    | untied hspeaks hjoins =>
      obtain ⟨e, he, hnot, rfl⟩ := untied_of_mapM hjoins
      exact ⟨o, mem_flatten_self o, .untied hspeaks he hnot⟩
    | clash hcolumns =>
      obtain ⟨key, rfl, hclash⟩ := ObjectTemplate.clashes_of_insertAll hcolumns
      exact ⟨o, mem_flatten_self o, .clash (hclash.append_left _)⟩
    | inside hcolumns hlevels =>
      rcases clashes_of_nests (nests_levels ..) hlevels with ⟨c, hc, hlevel⟩ | ⟨key, rfl, hclash⟩
      · have hinside : ∀ l ∈ c.flatten, l ∈ o.flatten :=
          fun l hl => mem_flatten.mpr (.inr ⟨c, hc, hl⟩)
        obtain ⟨l, hl, hbreach⟩ := ih c hc (fun l hl => hroots l (hinside l hl)) hlevel
        exact ⟨l, hinside l hl, hbreach⟩
      · rw [ObjectTemplate.keys_insertAll hcolumns] at hclash
        exact ⟨o, mem_flatten_self o, .clash (Keys.Clashes.append_right hclash)⟩

end Outline

end RelationQuery
