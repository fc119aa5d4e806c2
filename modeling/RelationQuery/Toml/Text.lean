import RelationQuery.Json.Text

/-!
The strings, blanks and comments of TOML.
-/

namespace RelationQuery.Toml

def isSpace (c : Char) : Bool := c = ' ' || c = '\t'

def skipSpaces (input : List Char) : List Char := input.dropWhile isSpace

/-- What may stand in strings and comments: a tab, and everything but control characters. -/
def isPlain (c : Char) : Bool := c = '\t' || (0x20 ≤ c.toNat && c.toNat ≠ 0x7F)

/-- Skips blanks, line ends and comments; `comment` inside a comment. -/
def skipLines? (comment : Bool) : List Char → Option (List Char)
  | [] => some []
  | '\n' :: rest => skipLines? false rest
  | '\r' :: '\n' :: rest => skipLines? false rest
  | c :: rest =>
    if comment then if isPlain c then skipLines? true rest else none
    else if isSpace c then skipLines? false rest
    else if c = '#' then skipLines? true rest
    else some (c :: rest)

/-- Skips blanks and a comment up to the end of the line, which has to follow. -/
def lineEnd? (comment : Bool) : List Char → Option (List Char)
  | [] => some []
  | '\n' :: rest => some rest
  | '\r' :: '\n' :: rest => some rest
  | c :: rest =>
    if comment then if isPlain c then lineEnd? true rest else none
    else if isSpace c then lineEnd? false rest
    else if c = '#' then lineEnd? true rest
    else none

/-- The character of an escape by number, unless the number is no character's. -/
def scalar? (digits : List Char) : Option Char := do
  let n ← JsonText.hexValue? digits
  if n < 0xD800 ∨ (0xE000 ≤ n ∧ n < 0x110000) then some (Char.ofNat n) else none

def escaped? (c : Char) : Option Char :=
  if c = '"' ∨ c = '\\' then some c
  else if c = 'b' then some '\x08'
  else if c = 't' then some '\t'
  else if c = 'n' then some '\n'
  else if c = 'f' then some '\x0c'
  else if c = 'r' then some '\r'
  else if c = 'e' then some '\x1b'
  else none

/-- Puts a character in front of the string that was read. -/
def push (c : Char) (answer : List Char × List Char) : List Char × List Char :=
  (c :: answer.1, answer.2)

/-- The rest of a basic string behind its opening quote, and what follows its closing one. -/
def basic? : List Char → Option (List Char × List Char)
  | [] => none
  | '"' :: rest => some ([], rest)
  | '\\' :: 'x' :: a :: b :: rest => do
    let c ← scalar? [a, b]
    (basic? rest).map (push c)
  | '\\' :: 'u' :: a :: b :: c :: d :: rest => do
    let c ← scalar? [a, b, c, d]
    (basic? rest).map (push c)
  | '\\' :: 'U' :: a :: b :: c :: d :: e :: f :: g :: h :: rest => do
    let c ← scalar? [a, b, c, d, e, f, g, h]
    (basic? rest).map (push c)
  | '\\' :: e :: rest => do
    let c ← escaped? e
    (basic? rest).map (push c)
  | c :: rest => if isPlain c ∧ c ≠ '\\' then (basic? rest).map (push c) else none

/-- The rest of a literal string behind its opening quote. -/
def literal? : List Char → Option (List Char × List Char)
  | [] => none
  | c :: rest =>
    if c = '\x27' then some ([], rest)
    else if isPlain c then (literal? rest).map (push c)
    else none

/-- Whether a backslash before these characters ends its line. -/
def endsLine (input : List Char) : Bool :=
  match skipSpaces input with
  | '\n' :: _ => true
  | '\r' :: '\n' :: _ => true
  | _ => false

/-- The rest of a basic string of several lines; `trim` skips blanks and line ends. Up to two
quotes may stand before the closing three. -/
def basicLines? (trim : Bool) : List Char → Option (List Char × List Char)
  | [] => none
  | '"' :: '"' :: '"' :: '"' :: '"' :: rest => some (['"', '"'], rest)
  | '"' :: '"' :: '"' :: '"' :: rest => some (['"'], rest)
  | '"' :: '"' :: '"' :: rest => some ([], rest)
  | '\\' :: 'x' :: a :: b :: rest => do
    let c ← scalar? [a, b]
    (basicLines? false rest).map (push c)
  | '\\' :: 'u' :: a :: b :: c :: d :: rest => do
    let c ← scalar? [a, b, c, d]
    (basicLines? false rest).map (push c)
  | '\\' :: 'U' :: a :: b :: c :: d :: e :: f :: g :: h :: rest => do
    let c ← scalar? [a, b, c, d, e, f, g, h]
    (basicLines? false rest).map (push c)
  | '\\' :: e :: rest =>
    if endsLine (e :: rest) then basicLines? true (e :: rest)
    else do
      let c ← escaped? e
      (basicLines? false rest).map (push c)
  | '\r' :: '\n' :: rest =>
    if trim then basicLines? true rest
    else (basicLines? false rest).map fun answer => push '\r' (push '\n' answer)
  | c :: rest =>
    if trim && (isSpace c || c = '\n') then basicLines? true rest
    else if c = '\n' || (isPlain c && c ≠ '\\') then (basicLines? false rest).map (push c)
    else none

/-- The rest of a literal string of several lines. -/
def literalLines? : List Char → Option (List Char × List Char)
  | [] => none
  | '\x27' :: '\x27' :: '\x27' :: '\x27' :: '\x27' :: rest => some (['\x27', '\x27'], rest)
  | '\x27' :: '\x27' :: '\x27' :: '\x27' :: rest => some (['\x27'], rest)
  | '\x27' :: '\x27' :: '\x27' :: rest => some ([], rest)
  | '\r' :: '\n' :: rest => (literalLines? rest).map fun answer => push '\r' (push '\n' answer)
  | c :: rest => if c = '\n' || isPlain c then (literalLines? rest).map (push c) else none

/-- A line end right behind the opening quotes does not count. -/
def dropFirstLineEnd : List Char → List Char
  | '\n' :: rest => rest
  | '\r' :: '\n' :: rest => rest
  | input => input

/-- A string on one line, and what follows it. -/
def line? : List Char → Option (List Char × List Char)
  | '"' :: rest => basic? rest
  | c :: rest => if c = '\x27' then literal? rest else none
  | [] => none

/-- A string of any kind, and what follows it. -/
def string? : List Char → Option (List Char × List Char)
  | '"' :: '"' :: '"' :: rest => basicLines? false (dropFirstLineEnd rest)
  | '\x27' :: '\x27' :: '\x27' :: rest => literalLines? (dropFirstLineEnd rest)
  | input => line? input

/-- A character of a key that is not quoted. -/
def isKeyChar (c : Char) : Bool := c.isAlphanum || c = '_' || c = '-'

/-- One part of a key, and what follows it. -/
def keyPart? (input : List Char) : Option (String × List Char) :=
  match input.takeWhile isKeyChar with
  | [] => (line? input).map fun answer => (String.ofList answer.1, answer.2)
  | part => some (String.ofList part, input.dropWhile isKeyChar)

/-- How many parts a key may have. -/
def maxKeyParts : Nat := 80

/-- A key of at most `limit` parts, with dots between them, and what follows it. -/
def keyWithin? : (limit : Nat) → List Char → Option (List String × List Char)
  | 0, _ => none
  | limit + 1, input => do
    let (part, rest) ← keyPart? (skipSpaces input)
    match skipSpaces rest with
    | '.' :: rest =>
      let (parts, rest) ← keyWithin? limit rest
      return (part :: parts, rest)
    | rest => return ([part], rest)

def key? (input : List Char) : Option (List String × List Char) := keyWithin? maxKeyParts input

end RelationQuery.Toml
