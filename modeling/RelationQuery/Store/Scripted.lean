import RelationQuery.Store.Action

/-!
An adapter that answers from a queue of replies. It remembers the last id it gave and the last
failure it reported.
-/

namespace RelationQuery

inductive Reply where
  | rows (columns : List String) (rows : List (List Value))
  | changed (count : UInt64) (lastId : Option Int64)
  | failure (reason : String)

structure Scripted where
  replies : List Reply := []
  lastId : Int64 := 0
  lastError : Option String := none

namespace Scripted

/-- No reply, and one of the other kind, means no rows. -/
def fetch (s : Scripted) : Except String (List Row) × Scripted :=
  match s.replies with
  | .rows columns rows :: rest => (.ok (rows.map (Row.mk columns)), { s with replies := rest })
  | .failure reason :: rest => (.error reason, { s with replies := rest, lastError := some reason })
  | _ :: rest => (.ok [], { s with replies := rest })
  | [] => (.ok [], s)

/-- No reply, and one of the other kind, means no change. -/
def execute (s : Scripted) : Except String UInt64 × Scripted :=
  match s.replies with
  | .changed count id :: rest => (.ok count, { s with replies := rest, lastId := id.getD s.lastId })
  | .failure reason :: rest => (.error reason, { s with replies := rest, lastError := some reason })
  | _ :: rest => (.ok 0, { s with replies := rest })
  | [] => (.ok 0, s)

def adapter : Adapter Scripted := ⟨fun _ => fetch, fun _ => execute, lastId⟩

end Scripted

end RelationQuery
