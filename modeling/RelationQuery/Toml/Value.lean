import RelationQuery.Members
import RelationQuery.Number.Decimal

/-!
TOML values. A table remembers how it came to be, since that decides what may still be added to
it.
-/

namespace RelationQuery

/-- How a table came to be. -/
inductive TableOrigin where
  /-- by a header of its own, or as an item of an array of tables -/
  | header
  /-- on the way to the table of a longer header -/
  | implied
  /-- on the way of a dotted key -/
  | dotted
  /-- between braces -/
  | inline
  deriving DecidableEq, Repr

inductive TomlValue where
  | text (value : String)
  | integer (value : Int)
  | float (value : Binary64)
  | bool (value : Bool)
  /-- a date, a time or both, as written -/
  | dateTime (text : String)
  /-- `ofTables` where the items come from headers in double brackets -/
  | array (ofTables : Bool) (items : List TomlValue)
  | table (origin : TableOrigin) (members : List (String × TomlValue))
  deriving Inhabited

/-- The members of a table, in the order of the text. -/
abbrev TomlMembers := List (String × TomlValue)

namespace TomlMembers

/-- Puts a value under a key, in the place of one already there. -/
def put (key : String) (value : TomlValue) : TomlMembers → TomlMembers
  | [] => [(key, value)]
  | (k, v) :: rest => if k = key then (key, value) :: rest else (k, v) :: put key value rest

/-- Changes the table at the end of a path; tables that are missing on the way are made. The way
leads through the last item of an array of tables. Nothing is added to an inline table; a dotted
key adds nothing to a table that has a header either. -/
def alter (dotted : Bool) (change : TableOrigin → TomlMembers → Option TomlMembers) :
    List String → TableOrigin → TomlMembers → Option TomlMembers
  | [], origin, members => change origin members
  | key :: rest, _, members =>
    let fresh := if dotted then .dotted else .implied
    match members.lookup key with
    | none => do
      let inner ← alter dotted change rest fresh []
      return members ++ [(key, .table fresh inner)]
    | some (.table origin inner) =>
      if origin = .inline || (dotted && origin = .header) then none
      else do
        let inner ← alter dotted change rest origin inner
        return put key (.table origin inner) members
    | some (.array true items) =>
      match items.getLast? with
      | some (.table origin inner) => do
        let inner ← alter dotted change rest origin inner
        return put key (.array true (items.dropLast ++ [.table origin inner])) members
      | _ => none
    | some _ => none

/-- Sets a new key. Behind a dotted path the table has to be one that dotted keys made. -/
def set (path : List String) (value : TomlValue) (origin : TableOrigin) (members : TomlMembers) :
    Option TomlMembers :=
  match path.getLast? with
  | none => none
  | some key =>
    let way := path.dropLast
    alter true (fun origin inner =>
      if (origin = .dotted) = way.isEmpty then none
      else if (inner.lookup key).isSome then none
      else some (inner ++ [(key, value)])) way origin members

/-- Opens a table by its header. A table that only longer headers implied may still get its
own. -/
def openTable (path : List String) (members : TomlMembers) : Option TomlMembers :=
  match path.getLast? with
  | none => none
  | some key =>
    alter false (fun _ inner =>
      match inner.lookup key with
      | none => some (inner ++ [(key, .table .header [])])
      | some (.table .implied sub) => some (put key (.table .header sub) inner)
      | some _ => none) path.dropLast .header members

/-- Opens the next item of an array of tables by its header. -/
def openItem (path : List String) (members : TomlMembers) : Option TomlMembers :=
  match path.getLast? with
  | none => none
  | some key =>
    alter false (fun _ inner =>
      match inner.lookup key with
      | none => some (inner ++ [(key, .array true [.table .header []])])
      | some (.array true items) =>
        some (put key (.array true (items ++ [.table .header []])) inner)
      | some _ => none) path.dropLast .header members

/-- Sets a key of the table that the header `table` has opened. -/
def setIn (table path : List String) (value : TomlValue) (members : TomlMembers) :
    Option TomlMembers :=
  alter false (set path value) table .header members

end TomlMembers

end RelationQuery
