import Mathlib.Algebra.Order.BigOperators.Group.List
import Mathlib.Algebra.Order.Group.Nat
import RelationQuery.Proofs.Text.CaseImages
import RelationQuery.Proofs.Text.Undotted
import RelationQuery.Text.FieldCase

/-!
Names that are spelt again. The words of a name in snake case are those of the name it was made
from, but for cuts before capital letters that have no small form; such a letter is its own capital
form, so the cuts leave no trace when the words are put together in camel case. A name that comes
back from snake case therefore is in camel case already.
-/

namespace RelationQuery.Text

/-! ### Words in lower case -/

/-- Word characters that are their own small forms. -/
def Small (word : List Char) : Prop := ∀ c ∈ word, isWordChar c = true ∧ lowerImage c = [c]

/-- Word characters that have one small form each. -/
def Plain (word : List Char) : Prop := ∀ c ∈ word, isWordChar c = true ∧ c ≠ 'İ'

lemma small_cons {c : Char} {word : List Char} :
    Small (c :: word) ↔ (isWordChar c = true ∧ lowerImage c = [c]) ∧ Small word :=
  List.forall_mem_cons

lemma plain_cons {c : Char} {word : List Char} :
    Plain (c :: word) ↔ (isWordChar c = true ∧ c ≠ 'İ') ∧ Plain word :=
  List.forall_mem_cons

/-- A character and the one that stands for it in a word in lower case. -/
def Lowers (c d : Char) : Prop := lowerImage c = [d] ∨ c = 'Σ' ∧ d = 'ς'

lemma exists_lowers {c : Char} (hword : isWordChar c = true) (hc : c ≠ 'İ')
    (rest : List Char) : ∃ d, Lowers c d ∧ (isWordChar d = true ∧ lowerImage d = [d]) ∧
      lowerWord (c :: rest) = d :: lowerWord rest := by
  obtain ⟨d, hd, hdword⟩ := exists_lowerImage hword hc
  have hsmall := lowerImage_of_image hd
  cases rest with
  | cons next rest => exact ⟨d, .inl hd, ⟨hdword, hsmall⟩, by rw [lowerWord, hd]; rfl⟩
  | nil =>
    by_cases hsigma : c = 'Σ'
    · exact ⟨'ς', .inr ⟨hsigma, rfl⟩, by decide +kernel, by simp [lowerWord, hsigma]⟩
    · exact ⟨d, .inl hd, ⟨hdword, hsmall⟩, by simp [lowerWord, hsigma, hd]⟩

lemma small_lowerWord {word : List Char} (h : Plain word) : Small (lowerWord word) := by
  induction word with
  | nil => exact fun c hc => absurd hc List.not_mem_nil
  | cons c rest ih =>
    rw [plain_cons] at h
    obtain ⟨d, -, hd, hlower⟩ := exists_lowers h.1.1 h.1.2 rest
    rw [hlower, small_cons]
    exact ⟨hd, ih h.2⟩

lemma length_lowerWord {word : List Char} (h : Plain word) :
    (lowerWord word).length = word.length := by
  induction word with
  | nil => rfl
  | cons c rest ih =>
    rw [plain_cons] at h
    obtain ⟨d, -, -, hlower⟩ := exists_lowers h.1.1 h.1.2 rest
    rw [hlower, List.length_cons, List.length_cons, ih h.2]

lemma lowerWord_of_small {word : List Char} (h : Small word) : lowerWord word = word := by
  fun_induction lowerWord word with
  | case1 => rfl
  | case2 => exact absurd (h 'Σ' List.mem_cons_self).2 (by decide +kernel)
  | case3 c => exact (h c List.mem_cons_self).2
  | case4 c d rest ih =>
    rw [small_cons] at h
    rw [h.1.2, ih h.2]
    rfl

/-! ### Words of a name in snake case -/

lemma extendFirst_cons (c : Char) (word : List Char) (words : List (List Char)) :
    extendFirst c (word :: words) = (c :: word) :: words := rfl

/-- At the start of a word, the first word has the first character. -/
lemma exists_runWords_boundary (c : Char) (run : List Char) :
    ∃ word rest, runWords .boundary (c :: run) = (c :: word) :: rest := by
  cases run with
  | nil => exact ⟨[], [], rfl⟩
  | cons next run =>
    unfold runWords
    split
    · exact ⟨[], _, rfl⟩
    · rw [if_neg (by simp)]
      cases runWords (Mode.boundary.after c) (next :: run) with
      | nil => exact ⟨[], [], rfl⟩
      | cons word rest => exact ⟨word, rest, rfl⟩

/-- Within a run, words are cut before capital letters. -/
lemma isUpper_of_mem_tail_runWords (mode : Mode) (run : List Char) :
    ∀ word ∈ (runWords mode run).tail, ∃ c rest, word = c :: rest ∧ isUpper c = true := by
  fun_induction runWords mode run with
  | case1 => simp
  | case2 => simp
  | case3 mode c next rest hcut ih =>
    obtain ⟨word, words, hwords⟩ := exists_runWords_boundary next rest
    rw [hwords] at ih ⊢
    rw [List.tail_cons, List.forall_mem_cons]
    exact ⟨⟨next, word, rfl, hcut.2⟩, ih⟩
  | case4 mode c next rest _ hcut ih =>
    obtain ⟨word, words, hwords⟩ := exists_runWords_boundary next rest
    rw [hwords] at ih ⊢
    rw [extendFirst_cons, List.tail_cons, List.forall_mem_cons]
    exact ⟨⟨c, next :: word, rfl, hcut.2.1⟩, ih⟩
  | case5 mode c next rest _ _ ih =>
    cases hwords : runWords (mode.after c) (next :: rest) with
    | nil => simp [extendFirst]
    | cons word words =>
      rw [hwords] at ih
      exact ih

lemma runs_of_wordChars {word : List Char} (h : ∀ c ∈ word, isWordChar c = true) :
    runs word = [word] := by
  induction word with
  | nil => rfl
  | cons c rest ih =>
    rw [List.forall_mem_cons] at h
    rw [runs, if_pos h.1, ih h.2, extendFirst_cons]

lemma runs_append_separator {word : List Char} (h : ∀ c ∈ word, isWordChar c = true) {c : Char}
    (hc : isWordChar c = false) (rest : List Char) :
    runs (word ++ c :: rest) = word :: runs rest := by
  induction word with
  | nil => rw [List.nil_append, runs, if_neg (by simp [hc])]
  | cons d word ih =>
    rw [List.forall_mem_cons] at h
    rw [List.cons_append, runs, if_pos h.1, ih h.2, extendFirst_cons]

/-- Runs that are joined by underscores are found again. -/
lemma runs_intercalate {parts : List (List Char)} (hparts : parts ≠ [])
    (h : ∀ part ∈ parts, ∀ c ∈ part, isWordChar c = true) :
    runs (List.intercalate ['_'] parts) = parts := by
  induction parts with
  | nil => exact absurd rfl hparts
  | cons part rest ih =>
    rw [List.forall_mem_cons] at h
    cases rest with
    | nil => rw [List.intercalate_singleton, runs_of_wordChars h.1]
    | cons next rest =>
      rw [List.intercalate_cons_cons, List.append_assoc, List.singleton_append,
        runs_append_separator h.1 (by decide), ih (List.cons_ne_nil _ _) h.2]

/-- The words of a name in snake case are those of the parts that it was joined from. -/
lemma words_intercalate {parts : List (List Char)}
    (h : ∀ part ∈ parts, ∀ c ∈ part, isWordChar c = true) :
    words (List.intercalate ['_'] parts) = parts.flatMap (runWords .boundary) := by
  cases parts with
  | nil => rfl
  | cons part rest => rw [words, runs_intercalate (List.cons_ne_nil _ _) h]

/-! ### From snake case to camel case -/

/-- A word with its first character in upper case and the rest as it is. -/
def capitalHead : List Char → List Char
  | [] => []
  | c :: rest => upperImage c ++ rest

lemma capitalWord_of_small {word : List Char} (h : Small word) :
    capitalWord word = capitalHead word := by
  cases word with
  | nil => rfl
  | cons c rest =>
    rw [small_cons] at h
    rw [capitalWord, capitalHead, lowerWord_of_small h.2]

/-- Cuts before capital letters leave no trace in camel case. -/
lemma flatMap_capitalWord_tail (mode : Mode) {run : List Char} (h : Small run) :
    (runWords mode run).tail.flatMap capitalWord = (runWords mode run).tail.flatten := by
  have hsmall : ∀ word ∈ (runWords mode run).tail, Small word := by
    intro word hword c hc
    refine h c ?_
    rw [← flatten_runWords mode run]
    exact List.mem_flatten.mpr ⟨word, List.mem_of_mem_tail hword, hc⟩
  rw [← List.flatMap_id]
  refine List.flatMap_congr fun word hword => ?_
  obtain ⟨c, rest, rfl, hupper⟩ := isUpper_of_mem_tail_runWords mode run word hword
  rw [capitalWord_of_small (hsmall _ hword), capitalHead, upperImage_of_isUpper hupper]
  rfl

/-- Of the words that a run is cut into, only the first is changed by capitalization. -/
lemma flatMap_capitalWord_runWords {run : List Char} (h : Small run) :
    (runWords .boundary run).flatMap capitalWord = capitalHead run := by
  cases run with
  | nil => rfl
  | cons c run =>
    obtain ⟨word, rest, hwords⟩ := exists_runWords_boundary c run
    have hflat := flatten_runWords .boundary (c :: run)
    have htail := flatMap_capitalWord_tail .boundary h
    rw [hwords, List.flatten_cons, List.cons_append, List.cons.injEq] at hflat
    rw [hwords, List.tail_cons] at htail
    have hword : Small (c :: word) := fun d hd => h d (by
      rw [← hflat.2]
      exact List.mem_cons.mpr ((List.mem_cons.mp hd).imp_right (List.mem_append_left _)))
    rw [hwords, List.flatMap_cons, htail, capitalWord_of_small hword, capitalHead, capitalHead,
      List.append_assoc, hflat.2]

/-- A name in snake case, put into camel case. -/
lemma camelChars_intercalate {part : List Char} {parts : List (List Char)}
    (hne : part ≠ []) (h : ∀ p ∈ part :: parts, Small p) :
    camelChars (List.intercalate ['_'] (part :: parts)) = part ++ parts.flatMap capitalHead := by
  have hparts : (parts.flatMap (runWords .boundary)).flatMap capitalWord =
      parts.flatMap capitalHead := by
    rw [List.flatMap_assoc]
    exact List.flatMap_congr fun p hp =>
      flatMap_capitalWord_runWords (h p (List.mem_cons_of_mem _ hp))
  obtain ⟨c, run, rfl⟩ := List.exists_cons_of_ne_nil hne
  obtain ⟨word, rest, hwords⟩ := exists_runWords_boundary c run
  have hflat := flatten_runWords .boundary (c :: run)
  have htail := flatMap_capitalWord_tail .boundary (h _ List.mem_cons_self)
  rw [hwords, List.flatten_cons] at hflat
  rw [hwords, List.tail_cons] at htail
  have hword : Small (c :: word) := fun d hd =>
    h _ List.mem_cons_self d (by rw [← hflat]; exact List.mem_append_left _ hd)
  rw [camelChars, words_intercalate fun p hp c hc => (h p hp c hc).1, List.flatMap_cons, hwords,
    List.cons_append]
  simp only
  rw [List.flatMap_append, htail, hparts, lowerWord_of_small hword, ← List.append_assoc, hflat]

/-! ### Names that come back -/

/-- Where parts are replaced by parts that are no shorter and the whole stays the same, every part
stays the same. -/
lemma eq_of_flatMap_eq_flatten {α : Type} {parts : List (List α)} {f : List α → List α}
    (h : parts.flatMap f = parts.flatten)
    (hlength : ∀ part ∈ parts, part.length ≤ (f part).length) :
    ∀ part ∈ parts, f part = part := by
  induction parts with
  | nil => simp
  | cons part rest ih =>
    rw [List.forall_mem_cons] at hlength ⊢
    rw [List.flatMap_cons, List.flatten_cons] at h
    have hrest : rest.flatten.length ≤ (rest.flatMap f).length := by
      rw [List.length_flatten, List.length_flatMap]
      exact List.sum_le_sum hlength.2
    have htotal := congrArg List.length h
    simp only [List.length_append] at htotal
    obtain ⟨hpart, hparts⟩ := List.append_inj h (by omega)
    exact ⟨hpart, ih hparts hlength.2⟩

lemma plain_of_mem_words {name word : List Char} (hname : 'İ' ∉ name) (h : word ∈ words name) :
    Plain word := by
  intro c hc
  obtain ⟨hmem, hword⟩ := mem_of_mem_words h hc
  exact ⟨hword, fun hsame => hname (hsame ▸ hmem)⟩

lemma ne_nil_of_mem_words {name word : List Char} (h : word ∈ words name) : word ≠ [] := by
  obtain ⟨run, -, hrun⟩ := List.mem_flatMap.mp h
  cases run with
  | nil => exact absurd hrun List.not_mem_nil
  | cons c run =>
    obtain ⟨first, rest, hwords⟩ := exists_runWords_boundary c run
    have htail := isUpper_of_mem_tail_runWords .boundary (c :: run)
    rw [hwords] at hrun htail
    rcases List.mem_cons.mp hrun with rfl | hmem
    · exact List.cons_ne_nil _ _
    · obtain ⟨d, behind, rfl, -⟩ := htail word hmem
      exact List.cons_ne_nil _ _

/-- **From snake case to camel case**, word by word. -/
theorem camelChars_snakeChars {name word : List Char} {rest : List (List Char)}
    (hname : 'İ' ∉ name) (hwords : words name = word :: rest) :
    camelChars (snakeChars name) =
      lowerWord word ++ rest.flatMap fun w => capitalHead (lowerWord w) := by
  have hplain : ∀ w ∈ word :: rest, Plain w := fun w hw =>
    plain_of_mem_words hname (hwords ▸ hw)
  have hne : lowerWord word ≠ [] := by
    intro hnil
    have hlength := length_lowerWord (hplain word List.mem_cons_self)
    rw [hnil, List.length_nil] at hlength
    exact ne_nil_of_mem_words (hwords ▸ List.mem_cons_self)
      (List.length_eq_zero_iff.mp hlength.symm)
  rw [snakeChars, hwords, List.map_cons, camelChars_intercalate hne, List.flatMap_map]
  rw [← List.map_cons, List.forall_mem_map]
  exact fun w hw => small_lowerWord (hplain w hw)

lemma dotted_not_mem_lowerWord (word : List Char) : 'İ' ∉ lowerWord word := by
  intro h
  rcases mem_lowerWord h with hsame | ⟨c, -, himage⟩
  · exact absurd hsame (by decide)
  · exact dotted_not_mem_lowerImage himage

lemma dotted_not_mem_snakeChars (name : List Char) : 'İ' ∉ snakeChars name := by
  intro h
  rcases mem_snakeChars h with hsame | hsame | ⟨c, -, -, himage⟩
  · exact absurd hsame (by decide)
  · exact absurd hsame (by decide)
  · exact dotted_not_mem_lowerImage himage

lemma dotted_mem_of_camelChars {name : List Char} (h : 'İ' ∈ camelChars name) : 'İ' ∈ name := by
  unfold camelChars at h
  split at h
  · cases h
  rename_i word rest hwords
  rcases List.mem_append.mp h with hfirst | hrest
  · exact absurd hfirst (dotted_not_mem_lowerWord word)
  obtain ⟨w, hw, hmem⟩ := List.mem_flatMap.mp hrest
  cases w with
  | nil => cases hmem
  | cons c w =>
    rcases List.mem_append.mp hmem with hhead | hbehind
    · obtain rfl := eq_of_dotted_mem_upperImage hhead
      exact (mem_of_mem_words (hwords ▸ List.mem_cons_of_mem _ hw) List.mem_cons_self).1
    · exact absurd hbehind (dotted_not_mem_lowerWord w)

/-- A word whose word characters are those of its respelling is capitalized by it. -/
lemma capitalWord_of_respelt {word : List Char} (hplain : Plain word)
    (h : (capitalHead (lowerWord word)).filter isWordChar = word) :
    capitalWord word = capitalHead (lowerWord word) := by
  cases word with
  | nil => rfl
  | cons c rest =>
    rw [plain_cons] at hplain
    obtain ⟨d, hlowers, ⟨hd, -⟩, hlower⟩ := exists_lowers hplain.1.1 hplain.1.2 rest
    have hrest : (lowerWord rest).filter isWordChar = lowerWord rest :=
      List.filter_eq_self.mpr fun e he => (small_lowerWord hplain.2 e he).1
    rw [hlower, capitalHead, List.filter_append, hrest, ← List.singleton_append] at h
    obtain ⟨hhead, -⟩ := List.append_inj' h (length_lowerWord hplain.2)
    rw [capitalWord, hlower, capitalHead]
    congr 1
    rcases hlowers with himage | ⟨rfl, rfl⟩
    · exact upperImage_of_lowerImage hhead himage
    · decide +kernel

lemma length_le_filter_capitalHead {word : List Char} (h : Plain word) :
    word.length ≤ ((capitalHead (lowerWord word)).filter isWordChar).length := by
  cases word with
  | nil => exact Nat.zero_le _
  | cons c rest =>
    rw [plain_cons] at h
    obtain ⟨d, -, ⟨hd, -⟩, hlower⟩ := exists_lowers h.1.1 h.1.2 rest
    have hrest : (lowerWord rest).filter isWordChar = lowerWord rest :=
      List.filter_eq_self.mpr fun e he => (small_lowerWord h.2 e he).1
    obtain ⟨z, hz, hzword⟩ := exists_mem_upperImage hd
    have hpos : 0 < ((upperImage d).filter isWordChar).length :=
      List.length_pos_of_mem (List.mem_filter.mpr ⟨hz, hzword⟩)
    rw [hlower, capitalHead, List.filter_append, hrest, List.length_append, length_lowerWord h.2,
      List.length_cons]
    omega

/-- **A name that comes back from snake case** is in camel case. -/
theorem camelChars_eq_self {name : List Char} (h : camelChars (snakeChars name) = name) :
    camelChars name = name := by
  have hname : 'İ' ∉ name := by
    intro hmem
    rw [← h] at hmem
    exact dotted_not_mem_snakeChars name (dotted_mem_of_camelChars hmem)
  cases hwords : words name with
  | nil =>
    have hnil : name = [] := by
      rw [← h, snakeChars, hwords]
      rfl
    rw [hnil]
    rfl
  | cons word rest =>
    have hplain : ∀ w ∈ word :: rest, Plain w := fun w hw =>
      plain_of_mem_words hname (hwords ▸ hw)
    have hsame := camelChars_snakeChars hname hwords
    rw [h] at hsame
    -- the word characters of both sides, counted word by word
    have hcount : lowerWord word ++
        rest.flatMap (fun w => (capitalHead (lowerWord w)).filter isWordChar) =
          word ++ rest.flatten := by
      have hfilter := congrArg (List.filter isWordChar) hsame
      rw [← flatten_words, hwords, List.flatten_cons, List.filter_append, List.filter_flatMap,
        List.filter_eq_self.mpr fun c hc => (small_lowerWord (hplain _ List.mem_cons_self) c hc).1]
        at hfilter
      exact hfilter.symm
    obtain ⟨hfirst, hrest⟩ := List.append_inj hcount
      (length_lowerWord (hplain _ List.mem_cons_self))
    have hparts := eq_of_flatMap_eq_flatten hrest fun w hw =>
      length_le_filter_capitalHead (hplain w (List.mem_cons_of_mem _ hw))
    rw [camelChars, hwords]
    simp only
    rw [hsame]
    congr 1
    exact List.flatMap_congr fun w hw =>
      capitalWord_of_respelt (hplain w (List.mem_cons_of_mem _ hw)) (hparts w hw)

end RelationQuery.Text
