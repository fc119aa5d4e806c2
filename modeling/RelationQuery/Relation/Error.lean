/-!
Why a declaration cannot be compiled.
-/

namespace RelationQuery

/-- Why a relation cannot be gathered into an array. -/
inductive Obstacle where
  | notMany
  | bridgeWithoutTarget
  | severalConditions
  | noPredicate
  | tooDeep
  deriving DecidableEq, Repr

inductive CompileError where
  /-- a join that is neither a cross join nor tied by anything -/
  | untiedJoin (table asName : String)
  /-- two values under one key of a JSON object or a record -/
  | duplicateKey (key level : String)
  | unresolvable (table : String) (obstacle : Obstacle)
  deriving DecidableEq, Repr

def Obstacle.message : Obstacle → String
  | .notMany => "relation is not to-many"
  | .bridgeWithoutTarget => "pivot has no related target"
  | .severalConditions => "correlation needs exactly one ON condition"
  | .noPredicate => "relation has no ON or USING predicate"
  | .tooDeep => "relation nesting exceeds the maximum depth"

def CompileError.message : CompileError → String
  | .untiedJoin table asName =>
    "join to \"" ++ table ++ "\" AS \"" ++ asName ++ "\" has no ON or USING predicate"
  | .duplicateKey key level =>
    "duplicate JSON key \"" ++ key ++ "\" in aggregation \"" ++ level ++ "\""
  | .unresolvable table obstacle => "cannot aggregate \"" ++ table ++ "\": " ++ obstacle.message

end RelationQuery
