import RelationQuery.Proofs.Text.CaseImages
import RelationQuery.Sql.Name

/-!
Names without dots. They are read as names without a qualifier, and the conventional names that
are made of an entity's name are such ones, whatever characters it has: dots only separate words,
and no letter has a dot for its small form.
-/

namespace RelationQuery

namespace Text

def Undotted (name : String) : Prop := '.' ∉ name.toList

instance (name : String) : Decidable (Undotted name) :=
  inferInstanceAs (Decidable ('.' ∉ name.toList))

lemma splitQualified_of_undotted {name : String} (h : Undotted name) :
    splitQualified name = (none, name) := by
  rw [splitQualified, splitLastDot_eq_of_not_mem h]
  simp

lemma mem_intercalate {α : Type} {separator : List α} {parts : List (List α)} {a : α}
    (h : a ∈ List.intercalate separator parts) : a ∈ separator ∨ ∃ part ∈ parts, a ∈ part := by
  induction parts with
  | nil => cases h
  | cons part rest ih =>
    cases rest with
    | nil =>
      rw [List.intercalate_singleton] at h
      exact .inr ⟨part, List.mem_cons_self, h⟩
    | cons next rest =>
      rw [List.intercalate_cons_cons, List.mem_append, List.mem_append] at h
      rcases h with (h | h) | h
      · exact .inr ⟨part, List.mem_cons_self, h⟩
      · exact .inl h
      · exact (ih h).imp_right fun ⟨p, hp, ha⟩ => ⟨p, List.mem_cons_of_mem _ hp, ha⟩

/-! ### Small forms -/

lemma mem_of_mem_words {name word : List Char} (h : word ∈ words name) {c : Char} (hc : c ∈ word) :
    c ∈ name ∧ isWordChar c = true := by
  have hmem : c ∈ (words name).flatten := List.mem_flatten.mpr ⟨word, h, hc⟩
  rwa [flatten_words, List.mem_filter] at hmem

lemma mem_lowerWord {word : List Char} {d : Char} (h : d ∈ lowerWord word) :
    d = 'ς' ∨ ∃ c ∈ word, d ∈ lowerImage c := by
  fun_induction lowerWord word with
  | case1 => cases h
  | case2 => exact .inl (List.mem_singleton.mp h)
  | case3 c => exact .inr ⟨c, List.mem_cons_self, h⟩
  | case4 c e rest ih =>
    rcases List.mem_append.mp h with hfirst | hrest
    · exact .inr ⟨c, List.mem_cons_self, hfirst⟩
    · exact (ih hrest).imp_right fun ⟨c', hc', hd⟩ => ⟨c', List.mem_cons_of_mem _ hc', hd⟩

/-- Apart from underscores, names in snake case are made of small forms of word characters. -/
lemma mem_snakeChars {name : List Char} {d : Char} (h : d ∈ snakeChars name) :
    d = '_' ∨ d = 'ς' ∨ ∃ c ∈ name, isWordChar c = true ∧ d ∈ lowerImage c := by
  rcases mem_intercalate h with hseparator | ⟨part, hpart, hd⟩
  · exact .inl (List.mem_singleton.mp hseparator)
  obtain ⟨word, hword, rfl⟩ := List.mem_map.mp hpart
  refine .inr ((mem_lowerWord hd).imp_right ?_)
  rintro ⟨c, hc, himage⟩
  exact ⟨c, (mem_of_mem_words hword hc).1, (mem_of_mem_words hword hc).2, himage⟩

lemma dot_not_mem_lowerImage {c : Char} (h : c ≠ '.') : '.' ∉ lowerImage c := fun hdot =>
  h ((origin_lowerImage c).eq_of_mem (by decide) (by decide +kernel) hdot)

lemma undotted_snake (identifier : String) : Undotted (snake identifier) := by
  intro hdot
  rw [snake, String.toList_ofList] at hdot
  rcases mem_snakeChars hdot with hsame | hsame | ⟨c, -, hword, himage⟩
  · exact absurd hsame (by decide)
  · exact absurd hsame (by decide)
  · refine dot_not_mem_lowerImage ?_ himage
    rintro rfl
    exact absurd hword (by decide)

lemma Undotted.append {a b : String} (ha : Undotted a) (hb : Undotted b) : Undotted (a ++ b) := by
  unfold Undotted at *
  simp [ha, hb]

end Text

lemma Column.resolve_of_undotted {name : String} (h : Text.Undotted name) (asName : String) :
    Column.resolve name asName = Column.qualified asName name := by
  simp [Column.resolve, Column.parse, Text.splitQualified_of_undotted h, Column.qualified]

end RelationQuery
