import RelationQuery.Text.FieldCase

/-!
Qualified names: `users.name` is the name `name` under the qualifier `users`. The last dot
divides, so a qualifier may hold dots and a name never does.
-/

namespace RelationQuery

namespace Text

/-- What stands before the last dot, if there is one, and what stands after it. -/
def splitLastDot : List Char → Option (List Char) × List Char
  | [] => (none, [])
  | c :: rest =>
    match splitLastDot rest with
    | (some qualifier, name) => (some (c :: qualifier), name)
    | (none, name) => if c = '.' then (some [], name) else (none, c :: name)

/-- The bare name has no dot. -/
theorem dot_not_mem_splitLastDot (text : List Char) : '.' ∉ (splitLastDot text).2 := by
  induction text with
  | nil => simp [splitLastDot]
  | cons c rest ih =>
    unfold splitLastDot
    split
    · rename_i h
      simpa [h] using ih
    · rename_i h
      rw [h] at ih
      split
      · exact ih
      · rename_i hc
        simp only [List.mem_cons, not_or]
        exact ⟨fun same => hc same.symm, ih⟩

theorem splitLastDot_eq_of_not_mem {name : List Char} (h : '.' ∉ name) :
    splitLastDot name = (none, name) := by
  induction name with
  | nil => rfl
  | cons c rest ih =>
    simp only [List.mem_cons, not_or] at h
    simp [splitLastDot, ih h.2, Ne.symm h.1]

/-- A qualifier, a dot and a bare name are split at that dot. -/
theorem splitLastDot_append (qualifier : List Char) {name : List Char} (h : '.' ∉ name) :
    splitLastDot (qualifier ++ '.' :: name) = (some qualifier, name) := by
  induction qualifier with
  | nil => simp [splitLastDot, splitLastDot_eq_of_not_mem h]
  | cons c rest ih => simp [splitLastDot, ih]

/-- The qualifier, if there is one, and the bare name. -/
def splitQualified (text : String) : Option String × String :=
  let (qualifier, name) := splitLastDot text.toList
  (qualifier.map String.ofList, String.ofList name)

/-- The name without its qualifier. -/
def bareName (text : String) : String := (splitQualified text).2

end Text

/-- Spells the name after the last dot in this convention and keeps the qualifier as it is. -/
def FieldCase.applyQualified (fieldCase : FieldCase) (text : String) : String :=
  match Text.splitQualified text with
  | (some qualifier, name) => qualifier ++ "." ++ fieldCase.apply name
  | (none, name) => fieldCase.apply name

end RelationQuery
