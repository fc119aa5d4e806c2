import RelationQuery.Aggregation.ObjectTemplate
import RelationQuery.Aggregation.Outline
import RelationQuery.Relation.Tie

/-!
Levels: what a nested array is made of, whatever the database. The array of a level gathers one
object for each row of the level's tables; the objects hold the selected columns, then the arrays
of the nested levels. A level that selects nothing at all is left out.
-/

namespace RelationQuery

structure Level where
  table : Table
  kind : JoinKind
  /-- the key of the array in what is around it -/
  name : String
  correlation : Correlation
  joins : List JoinClause
  columns : ObjectTemplate
  nested : List Level

namespace Outline

/-- A bridge without a label is named after the entity that it leads to. -/
def name (root : Edge) (members : List Edge) : String :=
  match members with
  | related :: _ =>
    if root.bridge && root.label.isNone then related.displayName else root.displayName
  | [] => root.displayName

/-- The edges of a level in the order of their columns: the related entity before the pivot. -/
def columnOrder (root : Edge) (members : List Edge) : List Edge :=
  if root.bridge then members ++ [root] else root :: members

def slots (e : Edge) : List (String × Slot) :=
  e.columns.map fun selection => (selection.outputName, selection.slot e.target.asName)

def selectsColumns (root : Edge) (members : List Edge) : Bool :=
  (root :: members).any fun e => !e.columns.isEmpty

mutual

/-- The level of an outline; `none` if it selects nothing. -/
def level : Outline → Except CompileError (Option Level)
  | ⟨root, members, nested⟩ => do
    if !root.many then throw (root.unresolvable .notMany)
    if root.bridge && root.next.isNone then throw (root.unresolvable .bridgeWithoutTarget)
    let correlation ← root.correlation
    let name := name root members
    if !selectsColumns root members && nested.isEmpty then return none
    let joins ← members.mapM Edge.join
    let columns ← ObjectTemplate.insertAll name {} ((columnOrder root members).flatMap slots)
    let levels ← levels name columns.keys nested
    return some ⟨root.target, root.kind, name, correlation, joins, columns, levels⟩

/-- The levels nested in the one called `name`, whose objects have the `taken` keys already. -/
def levels (name : String) (taken : List String) : List Outline → Except CompileError (List Level)
  | [] => return []
  | outline :: rest => do
    match ← outline.level with
    | none => levels name taken rest
    | some level =>
      if taken.contains level.name then throw (.duplicateKey level.name name)
      let others ← levels name (taken ++ [level.name]) rest
      return level :: others

end

end Outline

/-- The level that the edge `id` starts, or the reason why it starts none. -/
def Graph.level (g : Graph) (id : Nat) : Except CompileError (Option Level) :=
  match g.edge? id with
  | some root => (Outline.ofEdge g root).level
  | none => .ok none

end RelationQuery
