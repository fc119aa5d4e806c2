import RelationQuery.Relation.Script
import RelationQuery.Relation.Site

/-!
Running declarations. A script is run at a site and extends a draft: the graph so far, and a
journal of what the script looked at and of the entity scripts that were run. Scripts of entities
may call each other without end, so they are followed to a fixed depth only; what is left out is
marked in the graph.
-/

namespace RelationQuery

inductive Event where
  /-- a site that a script looked at -/
  | site (source : Table) (foreignKey : Option String) (depth : Nat)
  /-- an edge that a script looked at -/
  | edge (id : Nat) (prev : Option Nat) (name : String)
  /-- an entity's own script, run at a depth -/
  | expanded (entity : EntityKey) (depth : Nat)
  deriving DecidableEq, Repr

structure Draft where
  graph : Graph
  journal : Array Event := #[]

/-- What it means to run an entity's own script at a site. -/
abbrev Expansion := EntityKey → Site → Draft → Draft

namespace Draft

def note (d : Draft) (event : Event) : Draft := { d with journal := d.journal.push event }

def noteSite (d : Draft) (s : Site) : Draft := d.note (.site s.source s.foreignKey? s.depth)

def noteEdge (d : Draft) (id : Nat) : Draft :=
  match d.graph.edge? id with
  | some e => d.note (.edge id e.prev e.displayName)
  | none => d

def push (d : Draft) (follows : Option Nat) (e : Edge) : Draft :=
  { d with graph := d.graph.push follows e }

def update (d : Draft) (id : Nat) (f : Edge → Edge) : Draft :=
  { d with graph := d.graph.update id f }

/-- Runs the script of the related entity below an edge that was made at `depth`. An edge without
an entity has nothing to run; at the greatest depth the edge is marked instead. -/
def nest (expand : Expansion) (related : Option EntityKey) (depth id : Nat) (d : Draft) : Draft :=
  match related, d.graph.edge? id with
  | some key, some e =>
    if maxDepth < depth + 1 then { d with graph := d.graph.markOverflowed id }
    else expand key (Site.below depth e) d
  | _, _ => d

end Draft

/-- The key of the entity at the target. -/
def Relating.key? : Relating → Option EntityKey
  | .join _ _ => none
  | .one key | .many key | .belongsToMany key _ => some key

/-- Makes the edges of a statement. The edge that its settings change is the last one made. -/
def Relating.place (schema : Schema) (s : Site) (d : Draft) : Relating → Draft
  | .join kind target => d.push s.pending ((s.edge .inner target none).withKind kind)
  | .one key =>
    let e := schema.entity key
    d.push s.pending (s.edge .left e.tableRef e)
  | .many key =>
    let e := schema.entity key
    d.push s.pending { s.edge .left e.tableRef e with many := true }
  | .belongsToMany key pivot =>
    let e := schema.entity key
    let target := pivot.tableRef s.base e.baseName
    let bridge := d.graph.size
    (d.push s.pending (s.bridge pivot target)).push bridge (pivot.related target bridge e)

/-- What a setting makes of its edge. -/
def Setting.change (e : Edge) : Setting → Edge
  | .condition c => { e with predicate := .conditions [c] }
  | .andCondition c => { e with predicate := e.predicate.add c }
  | .shared column => { e with predicate := .shared column }
  | .noPredicate => { e with predicate := .absent }
  | .columns selections => e.addColumns selections
  | .allFields => e.addColumns ((e.entity.map Entity.fields).getD [] |>.map .column)
  | .named label => { e with label := some label }
  | .kind k => e.withKind k
  | .many => { e with many := true }
  | .nest | .observe => e

/-- Applies a setting to an edge that was made at `depth`. -/
def Setting.run (expand : Expansion) (related : Option EntityKey) (depth id : Nat) (d : Draft)
    (setting : Setting) : Draft :=
  match setting with
  | .nest => d.nest expand related depth id
  | .observe => d.noteEdge id
  | setting => d.update id setting.change

namespace Script

/-- Runs a script at a site, the scripts of entities by `expand`. -/
def run (schema : Schema) (expand : Expansion) : Script → Site → Draft → Draft
  | .done, _, d => d
  | .relate r settings branch rest, s, d =>
    let placed := r.place schema s d
    let id := placed.graph.size - 1
    let settled := settings.foldl (Setting.run expand r.key? s.depth id) placed
    let branched := match settled.graph.edge? id with
      | some e => branch.run schema expand (Site.below s.depth e) settled
      | none => settled
    rest.run schema expand (s.advance id) branched
  | .within source body rest, s, d =>
    rest.run schema expand s (body.run schema expand (s.within source) d)
  | .keyedBy key rest, s, d => rest.run schema expand (s.keyedBy (schema.entity key)) d
  | .unkeyed rest, s, d => rest.run schema expand s.unkeyed d
  | .observe rest, s, d => rest.run schema expand s (d.noteSite s)

end Script

/-- Runs scripts of entities, `fuel` of them inside each other. Every one of them stands at least
one deeper than the one around it, so `maxDepth` is fuel enough. -/
def Schema.expand (schema : Schema) : Nat → Expansion
  | 0, _, _, d => d
  | fuel + 1, key, s, d =>
    (schema.relations key).run schema (schema.expand fuel) s (d.note (.expanded key s.depth))

/-- Runs a script at an entity. -/
def Script.declare (script : Script) (schema : Schema) (e : Entity) : Draft :=
  script.run schema (schema.expand maxDepth) (.ofEntity e) { graph := { root := e.tableRef } }

end RelationQuery
