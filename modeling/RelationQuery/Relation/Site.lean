import RelationQuery.Relation.Graph
import RelationQuery.Relation.Pivot

/-!
Sites: where a relation is declared from, and which edges a declaration there makes.
-/

namespace RelationQuery

structure Site where
  source : Table
  /-- the column of the source that foreign keys refer to -/
  sourceId : String
  /-- the entity that foreign keys and pivots are named after -/
  context : Option Entity := none
  /-- whether new edges are tied by the foreign key of the context -/
  keyed : Bool := true
  /-- the chain that new edges go to, given by one of its edges -/
  pending : Option Nat := none
  /-- the edge at whose target this site is -/
  anchor : Option Nat := none
  depth : Nat := 0
  deriving DecidableEq, Repr

namespace Site

def ofEntity (e : Entity) : Site :=
  { source := e.tableRef, sourceId := e.idColumn, context := some e }

/-- The column by which a new target refers to the source. -/
def foreignKey? (s : Site) : Option String :=
  if s.keyed then s.context.map Entity.foreignKey else none

/-- The site at the target of an edge. Its edges go to the edge's chain, if it has one. -/
def below (depth : Nat) (e : Edge) : Site :=
  { source := e.target
    sourceId := (e.entity.map Entity.idColumn).getD "id"
    context := e.entity
    pending := if e.inChain then some e.id else none
    anchor := some e.id
    depth := depth + 1 }

/-- The same place in the graph with another table as source. -/
def within (s : Site) (source : Table) : Site :=
  { s with source, sourceId := "id", context := none }

def keyedBy (s : Site) (e : Entity) : Site := { s with context := some e, keyed := true }

def unkeyed (s : Site) : Site := { s with keyed := false }

/-- Notes that an edge has extended the pending chain. -/
def advance (s : Site) (id : Nat) : Site := { s with pending := s.pending.map fun _ => id }

/-- The base name for pivots: that of the context, else the name of the source. -/
def base (s : Site) : String := (s.context.map Entity.baseName).getD s.source.name

/-- The predicate of a new edge unless it is given another. -/
def predicate (s : Site) : Predicate :=
  match s.foreignKey? with
  | some key => .conditions [⟨s.sourceId, .eq, key⟩]
  | none => .absent

/-- An edge from this site. -/
def edge (s : Site) (kind : JoinKind) (target : Table) (entity : Option Entity) : Edge :=
  { kind, source := s.source, target, predicate := s.predicate, entity, anchor := s.anchor }

/-- The edge from this site to a pivot table. -/
def bridge (s : Site) (p : Pivot) (target : Table) : Edge :=
  { kind := .left
    source := s.source
    target
    predicate := .conditions [⟨s.sourceId, .eq, p.selfKey.getD (Pivot.keyName s.base)⟩]
    columns := p.pivotColumns.map .column
    many := true
    bridge := true
    anchor := s.anchor }

end Site

namespace Pivot

/-- The columns of the related entity that come with a many-to-many relation. -/
def selections (p : Pivot) (related : Entity) : List Selection :=
  let names := if p.columns.isEmpty then related.fields else p.columns
  names.map fun name => related.select (.column name)

/-- The edge from a pivot table, which `bridge` has brought in, to the related entity. -/
def related (p : Pivot) (source : Table) (bridge : Nat) (e : Entity) : Edge :=
  { kind := .left
    source
    target := e.tableRef
    predicate := .conditions [⟨p.otherKey.getD (keyName e.baseName), .eq, e.idColumn⟩]
    columns := p.selections e
    entity := some e
    anchor := some bridge }

end Pivot

end RelationQuery
