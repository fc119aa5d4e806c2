import RelationQuery.Toml.Atom
import RelationQuery.Toml.Text

/-!
TOML documents: one table, written as lines of keys with values under headers.
-/

namespace RelationQuery.Toml

/-- How deep arrays and inline tables may stand inside each other. -/
def maxDepth : Nat := 80

/-- Skips what may stand on either side of an equals sign: blanks, and inside an inline table line
ends and comments too. `depth` is zero outside of arrays and inline tables. -/
def gap? (depth : Nat) (input : List Char) : Option (List Char) :=
  if depth = 0 then some (skipSpaces input) else skipLines? false input

mutual

/-- A value inside `depth` arrays and inline tables, and what follows it. `fuel` bounds the
calls. -/
def value? : Nat → Nat → List Char → Option (TomlValue × List Char)
  | 0, _, _ => none
  | fuel + 1, depth, input =>
    match input with
    | '[' :: rest => do
      if maxDepth < depth + 1 then none
      let (items, rest) ← items? fuel (depth + 1) rest
      return (.array false items, rest)
    | '\x7b' :: rest => do
      if maxDepth < depth + 1 then none
      let (members, rest) ← inline? fuel (depth + 1) [] rest
      return (.table .inline members, rest)
    | '"' :: _ | '\x27' :: _ => do
      let (text, rest) ← string? input
      return (.text (String.ofList text), rest)
    | _ => do
      let (atom, rest) := splitAtom input
      return (← atom? atom, rest)

/-- The items of an array up to its closing bracket; a comma may stand before it. -/
def items? : Nat → Nat → List Char → Option (List TomlValue × List Char)
  | 0, _, _ => none
  | fuel + 1, depth, input => do
    match ← skipLines? false input with
    | ']' :: rest => return ([], rest)
    | rest =>
      let (item, rest) ← value? fuel depth rest
      match ← skipLines? false rest with
      | ']' :: rest => return ([item], rest)
      | ',' :: rest =>
        let (items, rest) ← items? fuel depth rest
        return (item :: items, rest)
      | _ => none

/-- The members of an inline table up to its closing brace, after those read already; a comma may
stand before it. -/
def inline? : Nat → Nat → TomlMembers → List Char → Option (TomlMembers × List Char)
  | 0, _, _, _ => none
  | fuel + 1, depth, members, input => do
    match ← skipLines? false input with
    | '\x7d' :: rest => return (members, rest)
    | rest =>
      let (path, value, rest) ← pair? fuel depth rest
      let members ← members.set path value .inline
      match ← skipLines? false rest with
      | '\x7d' :: rest => return (members, rest)
      | ',' :: rest => inline? fuel depth members rest
      | _ => none

/-- A key with its value inside `depth` arrays and inline tables, and what follows them. -/
def pair? : Nat → Nat → List Char → Option (List String × TomlValue × List Char)
  | 0, _, _ => none
  | fuel + 1, depth, input => do
    let (path, rest) ← key? input
    match ← gap? depth rest with
    | '=' :: rest =>
      let (value, rest) ← value? fuel depth (← gap? depth rest)
      return (path, value, rest)
    | _ => none

end

/-- A document as far as it has been read. -/
structure Reading where
  /-- the header that the following keys stand under -/
  table : List String := []
  members : TomlMembers := []

/-- One header or one key with its value, at the start of a line. -/
def Reading.line? (r : Reading) (input : List Char) : Option (Reading × List Char) :=
  match input with
  | '[' :: '[' :: rest => do
    match ← key? rest with
    | (path, ']' :: ']' :: rest) =>
      return (⟨path, ← r.members.openItem path⟩, ← lineEnd? false rest)
    | _ => none
  | '[' :: rest => do
    match ← key? rest with
    | (path, ']' :: rest) =>
      return (⟨path, ← r.members.openTable path⟩, ← lineEnd? false rest)
    | _ => none
  | _ => do
    let (path, value, rest) ← pair? (4 * input.length + 4) 0 input
    return ({ r with members := ← r.members.setIn r.table path value }, ← lineEnd? false rest)

/-- Reads line after line, at most `fuel` of them. -/
def Reading.lines? : Nat → Reading → List Char → Option TomlMembers
  | 0, _, _ => none
  | fuel + 1, r, input => do
    match ← skipLines? false input with
    | [] => return r.members
    | rest =>
      let (r, rest) ← r.line? rest
      r.lines? fuel rest

/-- The members of a document; a byte order mark in front does not count. -/
def read? (text : String) : Option TomlMembers :=
  let input := match text.toList with
    | '\uFEFF' :: rest => rest
    | input => input
  Reading.lines? (input.length + 1) {} input

end RelationQuery.Toml
