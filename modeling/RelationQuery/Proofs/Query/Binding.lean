import RelationQuery.Proofs.Aggregation.Emission
import RelationQuery.Proofs.Query.Parts
import RelationQuery.Proofs.Sql.Placeholders

/-!
What a query binds. The values of the criteria are bound, in their order, and nothing else is;
the text of a query does not depend on them.
-/

namespace RelationQuery

namespace Term

/-- The values that a term binds. An operator that takes one value takes the first, or null. -/
def bound (term : Term) : List Value :=
  match term.op with
  | .compare _ | .like => [term.values.headD .null]
  | .oneOf => term.values
  | .isNull | .isNotNull => []

/-- The terms differ in their values at most; a list of values has the same length in both. -/
def Alike (first second : Term) : Prop :=
  first.column = second.column ∧ first.op = second.op ∧
    (first.op = .oneOf → first.values.length = second.values.length)

lemma bound_filter (term : Term) (column : Column) : (term.filter column).bound = term.bound := by
  unfold filter bound
  cases term.op <;> rfl

lemma Alike.erase_filter {first second : Term} (h : first.Alike second) (column : Column) :
    (first.filter column).erase = (second.filter column).erase := by
  obtain ⟨-, hop, hlength⟩ := h
  unfold filter
  rw [← hop]
  cases hcase : first.op with
  | oneOf => simp [Filter.erase, hlength hcase]
  | _ => rfl

end Term

namespace Criteria

/-- The values that criteria bind: those of the terms, the dates, the limit and the offset. -/
def bound (c : Criteria) : List Value :=
  c.terms.flatMap Term.bound ++ (c.dates.map fun range => [range.low, range.high]).getD [] ++
    (c.limit.map Select.count).toList ++ (c.offset.map Select.count).toList

/-- The criteria differ in their values at most. -/
structure Alike (first second : Criteria) : Prop where
  terms : List.Forall₂ Term.Alike first.terms second.terms
  dates : first.dates.map DateRange.field = second.dates.map DateRange.field
  groupBy : first.groupBy = second.groupBy
  orderBy : first.orderBy = second.orderBy
  limit : first.limit.isSome = second.limit.isSome
  offset : first.offset.isSome = second.offset.isSome

lemma bound_filters (c : Criteria) (root : Entity) : (c.filters root).flatMap Filter.bound =
    c.terms.flatMap Term.bound ++ (c.dates.map fun range => [range.low, range.high]).getD [] := by
  have hterms : (c.terms.map fun term => term.filter (root.column term.column)).flatMap
      Filter.bound = c.terms.flatMap Term.bound := by
    simp [List.flatMap_map, Term.bound_filter]
  rw [filters, List.flatMap_append, hterms]
  cases c.dates <;> rfl

lemma Alike.erase_filters {first second : Criteria} (h : first.Alike second) (root : Entity) :
    (first.filters root).map Filter.erase = (second.filters root).map Filter.erase := by
  have hterms : ∀ {l m : List Term}, List.Forall₂ Term.Alike l m →
      (l.map fun term => (term.filter (root.column term.column)).erase) =
        m.map fun term => (term.filter (root.column term.column)).erase := by
    intro l m halike
    induction halike with
    | nil => rfl
    | cons hhead _ ih =>
      rw [List.map_cons, List.map_cons, hhead.1, hhead.erase_filter, ih]
  have hdates := h.dates
  unfold filters
  rw [List.map_append, List.map_append, List.map_map, List.map_map]
  congr 1
  · exact hterms h.terms
  · cases hfirst : first.dates <;> cases hsecond : second.dates <;>
      simp_all [Filter.erase]

end Criteria

namespace Level

variable {d : Dialect}

/-- Levels bind nothing, in either form. -/
lemma params_derivedSelect (l : Level) (aggregate : String) :
    ((l.derivedSelect aggregate).render d).params = [] := by
  rw [Select.params_render]
  rfl

lemma params_scalarSelect (l : Level) (aggregate : String) :
    ((l.scalarSelect aggregate).render d).params = [] := by
  rw [Select.params_render]
  rfl

end Level

namespace Plan

/-- The parts of a plan do not depend on the criteria. -/
lemma ofGraph_criteria {root : Entity} {g : Graph} {criteria : Criteria} {plan : Plan}
    (h : ofGraph root g criteria = .ok plan) (other : Criteria) :
    ofGraph root g other = .ok { plan with criteria := other } := by
  unfold ofGraph at h ⊢
  split at h
  · cases h
  · simp only [bind, Except.bind, pure, Except.pure] at h ⊢
    split at h
    · cases h
    · cases h
      simp [*]

lemma bound_select (plan : Plan) (t : Target) : (plan.select t).bound = plan.criteria.bound := by
  rw [Select.bound, select, Criteria.bound_filters, Criteria.bound]

/-- Criteria that differ in their values ask for one statement, apart from its values. -/
lemma erase_select {plan : Plan} {other : Criteria} (h : plan.criteria.Alike other) (t : Target) :
    ({ plan with criteria := other }.select t).erase = (plan.select t).erase := by
  unfold select Select.erase
  simp only [Select.mk.injEq, true_and]
  exact ⟨(h.erase_filters plan.root).symm, by rw [h.groupBy], by rw [h.orderBy],
    Select.erase_count h.limit.symm, Select.erase_count h.offset.symm⟩

end Plan

variable {g : Graph} {root : Entity} {criteria : Criteria} {t : Target} {query : CompiledQuery}

/-- **Values are bound**: a query binds the values of the criteria, in their order and nothing
else, with the limit and the offset capped at the greatest signed integer. Its text is made of
texts with one numbered placeholder for each of them; levels bind nothing at all. Criteria that
differ in their values at most compile to the same text. -/
theorem Graph.compile_binds (h : g.compile root criteria t = .ok query) :
    query.statement.params = criteria.bound ∧
    (∀ n, ∃ i : Int64, Select.count n = .integer i ∧
      i.toInt = min (n.toNat : Int) Int64.maxValue.toInt) ∧
    (∃ plan, Plan.ofGraph root g criteria = .ok plan ∧
      let texts := Piece.texts t.dialect ((plan.select t).pieces t.dialect)
      query.statement.sql = String.ofList (t.dialect.weave 0 texts) ∧
        texts.length = criteria.bound.length + 1) ∧
    (∀ (l : Level) (aggregate : String),
      ((l.derivedSelect aggregate).render t.dialect).params = [] ∧
        ((l.scalarSelect aggregate).render t.dialect).params = []) ∧
    ∀ other, criteria.Alike other → ∃ query', g.compile root other t = .ok query' ∧
      query'.statement.sql = query.statement.sql := by
  obtain ⟨plan, hplan, rfl⟩ := Graph.compile_eq_ok_iff.mp h
  obtain ⟨-, rfl, -⟩ := Plan.gathers_of_ofGraph hplan
  have hparams : ((plan.select t).render t.dialect).params = plan.criteria.bound := by
    rw [Select.params_render, plan.bound_select]
  have htext (p : Plan) : ((p.select t).render t.dialect).sql = String.ofList
      (t.dialect.weave 0 (Piece.texts t.dialect ((p.select t).pieces t.dialect))) := by
    rw [← Piece.write_eq_weave]
    rfl
  refine ⟨hparams, Select.count_spec, ⟨plan, hplan, htext plan, ?_⟩, fun l aggregate =>
    ⟨l.params_derivedSelect aggregate, l.params_scalarSelect aggregate⟩, fun other halike => ?_⟩
  · rw [Piece.length_texts, ← hparams]
    rfl
  · refine ⟨_, Graph.compile_eq_ok_iff.mpr ⟨_, Plan.ofGraph_criteria hplan other, rfl⟩, ?_⟩
    show ((Plan.select t _).render t.dialect).sql = ((plan.select t).render t.dialect).sql
    rw [htext, htext, Select.texts_eq_of_erase (Plan.erase_select halike t)]

/-- Liked posts of a month, the second page. -/
def Criteria.ofLiked : Criteria where
  terms := [⟨"stars", .compare .ge, [.integer 3, .integer 4]⟩, ⟨"title", .like, []⟩,
    ⟨"tag", .oneOf, [.text "a", .text "b"]⟩, ⟨"hidden", .isNull, [.bool true]⟩]
  dates := some ⟨"day", .text "05-01", .text "05-31"⟩
  limit := some 18446744073709551615
  offset := some 20

theorem Graph.thread_binds : ∃ query,
    Graph.ofThread.compile (Schema.unrelated.entity "post") .ofLiked (.ofDialect .postgresql) =
        .ok query ∧
      query.statement.params = [.integer 3, .null, .text "a", .text "b", .text "05-01",
        .text "05-31", .integer 9223372036854775807, .integer 20] ∧
      ∃ query', Graph.ofThread.compile (Schema.unrelated.entity "post")
          { Criteria.ofLiked with offset := some 40 } (.ofDialect .postgresql) = .ok query' ∧
        query'.statement.sql = query.statement.sql := by
  obtain ⟨query, hquery⟩ : ∃ query, Graph.ofThread.compile (Schema.unrelated.entity "post")
      .ofLiked (.ofDialect .postgresql) = .ok query := ⟨_, rfl⟩
  obtain ⟨hparams, -, -, -, hother⟩ := Graph.compile_binds hquery
  refine ⟨query, hquery, hparams.trans (by decide), hother _ ⟨?_, rfl, rfl, rfl, rfl, rfl⟩⟩
  simp [Criteria.ofLiked, Term.Alike]

end RelationQuery
