import RelationQuery.Text.Letter

/-!
The words of an identifier. Characters that are neither letters nor numbers separate runs; a run
is cut into words where its letter case changes: after a small letter before a capital one
(`user|Name`), and before the last of several capitals when a small letter follows it
(`HTTP|Status`). Digits and caseless letters take the case of what stands before them.
-/

namespace RelationQuery.Text

/-- The letter case a scan is in. -/
inductive Mode where
  /-- at the start of a word -/
  | boundary
  | lower
  | upper
  deriving DecidableEq, Repr

/-- The mode after one more character of the same word. -/
def Mode.after (mode : Mode) (c : Char) : Mode :=
  if isLower c then .lower else if isUpper c then .upper else mode

/-- Puts a character in front of the first word. -/
def extendFirst (c : Char) : List (List Char) → List (List Char)
  | [] => [[c]]
  | word :: words => (c :: word) :: words

/-- The words of a run read in `mode`. The first word of the answer continues the word that the
scan stands in, so it is empty when that word ends before the run's first character. -/
def runWords (mode : Mode) : List Char → List (List Char)
  | [] => []
  | [c] => [[c]]
  | c :: next :: rest =>
    if mode.after c = .lower ∧ isUpper next then
      [c] :: runWords .boundary (next :: rest)
    else if mode = .upper ∧ isUpper c ∧ isLower next then
      [] :: extendFirst c (runWords .boundary (next :: rest))
    else
      extendFirst c (runWords (mode.after c) (next :: rest))

theorem flatten_extendFirst (c : Char) (words : List (List Char)) :
    (extendFirst c words).flatten = c :: words.flatten := by
  cases words <;> rfl

/-- Cutting a run into words loses no character. -/
theorem flatten_runWords (mode : Mode) (run : List Char) : (runWords mode run).flatten = run := by
  fun_induction runWords mode run <;> simp_all [flatten_extendFirst]

/-- The maximal stretches of word characters, an empty one wherever two separators meet. -/
def runs : List Char → List (List Char)
  | [] => [[]]
  | c :: rest => if isWordChar c then extendFirst c (runs rest) else [] :: runs rest

/-- The runs hold the word characters, and these alone. -/
theorem flatten_runs (identifier : List Char) :
    (runs identifier).flatten = identifier.filter isWordChar := by
  induction identifier with
  | nil => rfl
  | cons c rest ih =>
    unfold runs
    split <;> simp_all [flatten_extendFirst]

/-- The words of an identifier, in order. -/
def words (identifier : List Char) : List (List Char) :=
  (runs identifier).flatMap (runWords .boundary)

/-- The words hold the word characters in their order, and these alone. -/
theorem flatten_words (identifier : List Char) :
    (words identifier).flatten = identifier.filter isWordChar := by
  rw [← flatten_runs, words]
  induction runs identifier with
  | nil => rfl
  | cons run rest ih => simp [ih, flatten_runWords]

end RelationQuery.Text
