import Mathlib.Tactic.Common
import RelationQuery.Sql.Select

/-!
The names that a SELECT brings into scope. Its conditions may use the tables before them; columns
of a statement around it are visible only under names that it does not bring in itself.
-/

namespace RelationQuery

/-- The name that columns refer to a table by. -/
def Table.exposed (t : Table) : String := if t.asName.isEmpty then t.name else t.asName

lemma Table.exposed_of_ne {t : Table} (h : t.asName ≠ "") : t.exposed = t.asName := by
  rw [exposed, if_neg]
  simpa using h

def JoinSource.exposed : JoinSource → String
  | .table t => t.exposed
  | .derived _ asName => asName

/-- The comparisons of a join. -/
def JoinTie.terms : JoinTie → List (Column × Comparison × Column)
  | .conditions terms => terms
  | _ => []

namespace Select

/-- Behind tables of these names, every join compares columns of tables before it. -/
def ScopedFrom (names : List String) : List JoinClause → Prop
  | [] => True
  | clause :: rest =>
    (∀ term ∈ clause.tie.terms, ∃ name ∈ names, term.1.qualifier = some name) ∧
      ScopedFrom (names ++ [clause.source.exposed]) rest

instance decidableScopedFrom (names : List String) : (joins : List JoinClause) →
    Decidable (ScopedFrom names joins)
  | [] => isTrue trivial
  | clause :: rest =>
    have := decidableScopedFrom (names ++ [clause.source.exposed]) rest
    inferInstanceAs (Decidable (_ ∧ _))

def Scoped (s : Select) : Prop := ScopedFrom [s.source.exposed] s.joins

instance (s : Select) : Decidable s.Scoped := inferInstanceAs (Decidable (ScopedFrom _ _))

/-- The names of the tables that a SELECT reads. -/
def scope (s : Select) : List String := s.source.exposed :: s.joins.map (·.source.exposed)

/-- Some comparison of the WHERE clause, which has its left column from the statement around this
one, finds a table of that name in this one. -/
def Captures (s : Select) : Prop :=
  ∃ outer op inner, Filter.columns outer op inner ∈ s.filters ∧
    ∃ name ∈ s.scope, outer.qualifier = some name

end Select

end RelationQuery
