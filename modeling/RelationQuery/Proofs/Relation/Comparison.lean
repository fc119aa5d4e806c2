import RelationQuery.Proofs.Sql.Scope
import RelationQuery.Proofs.Text.Undotted
import RelationQuery.Relation.Tie

/-!
What edges compare in SQL, as joins and as correlations. The left column of each comparison is
under the alias of the source, unless the condition says otherwise by a qualifier.
-/

namespace RelationQuery

open Text (Undotted)

namespace Edge

variable {e : Edge} {clause : JoinClause}

lemma source_of_join (h : e.join = .ok clause) : clause.source = .table e.target := by
  unfold join at h
  split at h
  · cases h
    rfl
  split at h
  · cases h
  · cases h
  · cases h
    rfl
  · split at h
    · cases h
    · cases h
      rfl

/-- A join compares what the conditions of its edge compare; a cross join has none. -/
lemma terms_of_join (h : e.join = .ok clause) : clause.tie.terms =
    if e.kind = .cross then [] else e.predicate.terms.map fun c => (e.resolve c).term := by
  unfold join at h
  split at h
  · rename_i hcross
    cases h
    rw [if_pos hcross]
    rfl
  rename_i hcross
  rw [if_neg hcross]
  split at h
  · cases h
  · cases h
  · rename_i terms _ hterms
    cases h
    rw [hterms]
    rfl
  · rename_i column hshared
    split at h
    · cases h
    · cases h
      rw [hshared]
      rfl

lemma outer_resolve {c : Condition} (h : Undotted c.left) :
    (e.resolve c).outer = .qualified e.source.asName c.left :=
  Column.resolve_of_undotted h _

lemma qualifier_of_join (hleft : ∀ c ∈ e.predicate.terms, Undotted c.left)
    (h : e.join = .ok clause) :
    ∀ term ∈ clause.tie.terms, term.1.qualifier = some e.source.asName := by
  intro term hterm
  rw [terms_of_join h] at hterm
  split at hterm
  · cases hterm
  · obtain ⟨c, hc, rfl⟩ := List.mem_map.mp hterm
    rw [Correlation.term, outer_resolve (hleft c hc)]
    rfl

lemma qualifier_of_correlation (hleft : ∀ c ∈ e.predicate.terms, Undotted c.left)
    {key : Correlation} (h : e.correlation = .ok key) :
    key.outer.qualifier = some e.source.asName := by
  unfold correlation at h
  split at h
  · rename_i c hone
    cases h
    rw [outer_resolve (hleft c (by simp [hone, Predicate.terms]))]
    rfl
  · cases h
  · split at h
    · cases h
    · cases h
      rfl
  · cases h
  · cases h

end Edge

end RelationQuery
