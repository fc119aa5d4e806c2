import Mathlib.Tactic.Common
import RelationQuery.Relation.Tie

/-!
Which edges are tied. A join needs any tie at all, unless it is a cross join; a correlation is one
comparison, so it needs a single condition or a shared column.
-/

namespace RelationQuery

namespace Edge

/-- There is one comparison that relates the rows of the edge to those of its source. -/
def Correlates (e : Edge) : Prop :=
  match e.predicate with
  | .absent => False
  | .conditions terms => terms.length = 1
  | .shared column => column ≠ ""

/-- The edge can be a join: it has a tie or needs none. -/
def Joins (e : Edge) : Prop := e.kind = .cross ∨ e.predicate.isEmpty = false

/-- What is missing for a correlation: all but one of the conditions are too many, if there are
any. -/
def obstacle (e : Edge) : Obstacle :=
  if 1 < e.predicate.terms.length then .severalConditions else .noPredicate

/-- The error of a join without a tie. -/
def untied (e : Edge) : CompileError := .untiedJoin e.target.name e.target.asName

variable {e : Edge}

lemma correlates_of_correlation {key : Correlation} (h : e.correlation = .ok key) :
    e.Correlates := by
  unfold correlation at h
  unfold Correlates
  split at h
  · rename_i hone
    simp [hone]
  · cases h
  · rename_i column hshared
    split at h
    · cases h
    · rename_i hempty
      simpa [hshared] using hempty
  · cases h
  · cases h

/-- Edges that fail to correlate say what is missing. -/
lemma error_of_correlation {error : CompileError} (h : e.correlation = .error error) :
    ¬ e.Correlates ∧ error = e.unresolvable e.obstacle := by
  unfold correlation at h
  unfold Correlates obstacle
  split at h
  · cases h
  · rename_i hmany
    cases h
    simp [hmany, Predicate.terms]
  · rename_i column hshared
    split at h
    · rename_i hempty
      cases h
      exact ⟨by simpa [hshared] using hempty, by simp [hshared, Predicate.terms]⟩
    · cases h
  · rename_i hnone
    cases h
    simp [hnone, Predicate.terms]
  · rename_i habsent
    cases h
    simp [habsent, Predicate.terms]

lemma joins_of_join {clause : JoinClause} (h : e.join = .ok clause) : e.Joins := by
  unfold join at h
  split at h
  · rename_i hcross
    exact .inl hcross
  right
  split at h
  · cases h
  · cases h
  · rename_i terms hne hterms
    rw [hterms]
    simpa [Predicate.isEmpty] using hne
  · rename_i column hshared
    split at h
    · cases h
    · rename_i hempty
      rw [hshared]
      simpa [Predicate.isEmpty] using hempty

/-- Edges that fail to join have no tie. -/
lemma error_of_join {error : CompileError} (h : e.join = .error error) :
    ¬ e.Joins ∧ error = e.untied := by
  unfold join at h
  unfold Joins
  split at h
  · cases h
  rename_i hcross
  split at h
  · rename_i hnone
    cases h
    exact ⟨by simp [hcross, hnone, Predicate.isEmpty], rfl⟩
  · rename_i habsent
    cases h
    exact ⟨by simp [hcross, habsent, Predicate.isEmpty], rfl⟩
  · cases h
  · rename_i column hshared
    split at h
    · rename_i hempty
      cases h
      exact ⟨by simp [hcross, hshared, Predicate.isEmpty, hempty], rfl⟩
    · cases h

end Edge

end RelationQuery
