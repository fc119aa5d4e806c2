import RelationQuery.Proofs.Text.Capitals

/-!
From one convention to the other. Snake case keeps the words of an ASCII name, since words of small
letters are not cut again; so it changes no name twice, and camel case is the same before and after
it. The other way round, camel case erases where words meet. It can be told again from the capital
letters if every word starts with two letters.
-/

namespace RelationQuery.Text

/-! ### From snake case -/

/-- A run without capital letters is one word. -/
lemma runWords_of_small (mode : Mode) {run : List Char} (hne : run ≠ [])
    (h : ∀ c ∈ run, isUpper c = false) : runWords mode run = [run] := by
  have hflat := flatten_runWords mode run
  have htail := isUpper_of_mem_tail_runWords mode run
  cases hwords : runWords mode run with
  | nil =>
    rw [hwords] at hflat
    exact absurd hflat.symm hne
  | cons word words =>
    rw [hwords] at hflat htail
    cases words with
    | nil => rw [← hflat, List.flatten_singleton]
    | cons next rest =>
      obtain ⟨c, behind, rfl, hupper⟩ := htail next List.mem_cons_self
      have hmem : c ∈ run := by
        rw [← hflat]
        simp
      rw [h c hmem] at hupper
      cases hupper

lemma not_isUpper_of_mem_lowerWord {word : List Char} (h : AsciiWord word) {c : Char}
    (hc : c ∈ lowerWord word) : isUpper c = false := by
  induction word with
  | nil => cases hc
  | cons d rest ih =>
    obtain ⟨hd, hrest⟩ := asciiWord_cons.mp h
    rw [lowerWord_cons_of_ascii hd.1, List.mem_cons] at hc
    rcases hc with rfl | hc
    · exact not_isUpper_toLower hd.1
    · exact ih hrest hc

/-- **Snake case keeps the words**, but for their case. -/
theorem words_snakeChars {name : List Char} (hname : ∀ c ∈ name, c.toNat < 0x80) :
    words (snakeChars name) = (words name).map lowerWord := by
  have hwords : ∀ word ∈ words name, AsciiWord word := fun _ => asciiWord_of_mem_words hname
  have hkept : ∀ word ∈ words name, runWords .boundary (lowerWord word) = [lowerWord word] := by
    intro word hword
    refine runWords_of_small _ ?_ fun c hc => not_isUpper_of_mem_lowerWord (hwords word hword) hc
    intro hnil
    have hlength := length_lowerWord (hwords word hword).plain
    rw [hnil] at hlength
    exact ne_nil_of_mem_words hword (List.length_eq_zero_iff.mp hlength.symm)
  rw [snakeChars, words_intercalate, List.flatMap_map, List.flatMap_congr hkept,
    ← List.map_eq_flatMap]
  rw [List.forall_mem_map]
  exact fun word hword => (hwords word hword).lowerWord.wordChars

lemma capitalHead_lowerWord {word : List Char} (h : AsciiWord word) :
    capitalHead (lowerWord word) = capitalWord word := by
  cases word with
  | nil => rfl
  | cons c rest =>
    obtain ⟨hc, -⟩ := asciiWord_cons.mp h
    rw [lowerWord_cons_of_ascii hc.1, capitalHead, capitalWord, upperImage_of_ascii hc.1,
      upperImage_of_ascii (asciiWord_toLower hc).1, toUpper_toLower hc.1]

/-- A name in snake case stays as it is. -/
theorem snakeChars_snakeChars {name : List Char} (hname : ∀ c ∈ name, c.toNat < 0x80) :
    snakeChars (snakeChars name) = snakeChars name := by
  rw [snakeChars, words_snakeChars hname, List.map_map, snakeChars]
  congr 1
  refine List.map_congr_left fun word hword => ?_
  exact lowerWord_of_small (small_lowerWord (asciiWord_of_mem_words hname hword).plain)

/-- Camel case finds the same words in snake case. -/
theorem camelChars_snakeChars_of_ascii {name : List Char} (hname : ∀ c ∈ name, c.toNat < 0x80) :
    camelChars (snakeChars name) = camelChars name := by
  have hdotted : 'İ' ∉ name := fun hmem => absurd (hname _ hmem) (by decide)
  cases hwords : words name with
  | nil =>
    rw [snakeChars, camelChars.eq_def name, hwords]
    rfl
  | cons word rest =>
    rw [camelChars_snakeChars hdotted hwords, camelChars, hwords]
    congr 1
    refine List.flatMap_congr fun w hw => capitalHead_lowerWord ?_
    exact asciiWord_of_mem_words hname (hwords ▸ List.mem_cons_of_mem _ hw)

/-! ### From camel case -/

/-- Words that camel case keeps apart: two small letters, then small letters and digits. -/
def Telling : List Char → Prop
  | a :: b :: rest => a.isLower ∧ b.isLower ∧ ∀ c ∈ rest, c.isLower ∨ c.isDigit
  | _ => False

instance : DecidablePred Telling
  | [] => inferInstanceAs (Decidable False)
  | [_] => inferInstanceAs (Decidable False)
  | _ :: _ :: rest =>
    have : Decidable (∀ c ∈ rest, c.isLower ∨ c.isDigit) := List.decidableBAll _ _
    inferInstanceAs (Decidable (_ ∧ _ ∧ _))

/-- Small ASCII letters and digits. -/
def SmallChar (c : Char) : Prop :=
  (c.toNat < 0x80 ∧ isWordChar c = true) ∧ c.toLower = c ∧ isUpper c = false

lemma smallChar_of_isLower {c : Char} (h : c.isLower) : SmallChar c ∧ isLower c = true := by
  have hc : c.toNat < 0x80 := by
    have hlast : c.val ≤ 'z'.val := of_decide_eq_true (Bool.and_eq_true_iff.mp h).2
    exact Nat.lt_of_le_of_lt (UInt32.le_iff_toNat_le.mp hlast) (by decide)
  exact forall_ascii (fun c => c.isLower → SmallChar c ∧ isLower c = true)
    (by unfold SmallChar; decide) hc h

lemma smallChar_of_isDigit {c : Char} (h : c.isDigit) : SmallChar c := by
  have hc : c.toNat < 0x80 := by
    have hlast : c.toNat ≤ '9'.toNat := (Char.isDigit_iff_toNat.mp h).2
    exact Nat.lt_of_le_of_lt hlast (by decide)
  exact forall_ascii (fun c => c.isDigit → SmallChar c) (by unfold SmallChar; decide) hc h

/-- A word without capital letters belongs to the word that the scan stands in. -/
lemma cutWords_append (mode : Mode) {word : List Char} (h : ∀ c ∈ word, isUpper c = false)
    {rest next : List Char} {words : List (List Char)}
    (hrest : cutWords (word.foldl Mode.after mode) rest = next :: words) :
    cutWords mode (word ++ rest) = (word ++ next) :: words := by
  induction word generalizing mode with
  | nil => exact hrest
  | cons c word ih =>
    rw [List.forall_mem_cons] at h
    have hstarts : mode.starts c (word ++ rest) = false := by simp [Mode.starts, h.1]
    rw [List.cons_append, cutWords, hstarts, if_neg Bool.false_ne_true, ih _ h.2 hrest]
    rfl

lemma foldl_after_small {word : List Char} (h : ∀ c ∈ word, isUpper c = false) :
    word.foldl Mode.after .lower = .lower := by
  induction word with
  | nil => rfl
  | cons c word ih =>
    rw [List.forall_mem_cons] at h
    have hafter : Mode.lower.after c = .lower := by
      cases hlower : isLower c <;> simp [Mode.after, hlower, h.1]
    rw [List.foldl_cons, hafter, ih h.2]

lemma Telling.exists_letters {word : List Char} (h : Telling word) :
    ∃ a b rest, word = a :: b :: rest ∧ a.isLower ∧ b.isLower ∧
      ∀ c ∈ rest, c.isLower ∨ c.isDigit := by
  obtain _ | ⟨a, _ | ⟨b, rest⟩⟩ := word
  · cases h
  · cases h
  · exact ⟨a, b, rest, rfl, h⟩

lemma Telling.smallChars {word : List Char} (h : Telling word) : ∀ c ∈ word, SmallChar c := by
  obtain ⟨a, b, rest, rfl, ha, hb, hrest⟩ := h.exists_letters
  rw [List.forall_mem_cons, List.forall_mem_cons]
  refine ⟨(smallChar_of_isLower ha).1, (smallChar_of_isLower hb).1, fun c hc => ?_⟩
  exact (hrest c hc).elim (fun hlower => (smallChar_of_isLower hlower).1) smallChar_of_isDigit

lemma Telling.small {word : List Char} (h : Telling word) : Small word := by
  intro c hc
  obtain ⟨⟨hascii, hword⟩, hlower, -⟩ := h.smallChars c hc
  exact ⟨hword, by rw [lowerImage_of_ascii hascii, hlower]⟩

lemma toUpper_of_isLower {c : Char} (h : c.isLower) :
    isUpper c.toUpper = true ∧ c.toUpper.toLower = c := by
  obtain ⟨⟨hascii, -⟩, -, -⟩ := (smallChar_of_isLower h).1
  exact forall_ascii (fun c => c.isLower → isUpper c.toUpper = true ∧ c.toUpper.toLower = c)
    (by decide) hascii h

/-- The second letter of a word lets the next capital letter start another one. -/
lemma cutWords_capitals {parts : List (List Char)} (h : ∀ part ∈ parts, Telling part) :
    cutWords .lower (parts.flatMap capitalHead) = [] :: parts.map capitalHead := by
  induction parts with
  | nil => rfl
  | cons part parts ih =>
    rw [List.forall_mem_cons] at h
    obtain ⟨hpart, hparts⟩ := h
    obtain ⟨a, b, rest, rfl, ha, hb, -⟩ := hpart.exists_letters
    have hsmall : ∀ c ∈ b :: rest, isUpper c = false := fun c hc =>
      (hpart.smallChars c (List.mem_cons_of_mem _ hc)).2.2
    obtain ⟨⟨hascii, -⟩, -, -⟩ := (smallChar_of_isLower ha).1
    have hupper := (toUpper_of_isLower ha).1
    have hhead : capitalHead (a :: b :: rest) = a.toUpper :: (b :: rest) := by
      rw [capitalHead, upperImage_of_ascii hascii]
      rfl
    have hmode : (b :: rest).foldl Mode.after .upper = .lower := by
      rw [List.foldl_cons, Mode.after_of_isLower _ (smallChar_of_isLower hb).2]
      exact foldl_after_small fun c hc => hsmall c (List.mem_cons_of_mem _ hc)
    have hbehind : cutWords .upper ((b :: rest) ++ parts.flatMap capitalHead) =
        (b :: rest) :: parts.map capitalHead := by
      rw [cutWords_append _ hsmall (by rw [hmode]; exact ih hparts), List.append_nil]
    have hascii' := (asciiWord_toUpper (hpart.smallChars a List.mem_cons_self).1).1
    rw [List.flatMap_cons, List.map_cons, hhead, List.cons_append, cutWords,
      if_pos (by simp [Mode.starts, hupper]), Mode.after_of_isUpper _ hascii' hupper, hbehind]
    rfl

lemma asciiWord_capitals {part : List Char} (h : Telling part) : AsciiWord (capitalHead part) := by
  obtain _ | ⟨a, rest⟩ := part
  · cases h
  have hchars := h.smallChars
  rw [List.forall_mem_cons] at hchars
  rw [capitalHead, upperImage_of_ascii hchars.1.1.1, List.singleton_append, asciiWord_cons]
  exact ⟨asciiWord_toUpper hchars.1.1, fun c hc => (hchars.2 c hc).1⟩

lemma lowerWord_capitalHead {part : List Char} (h : Telling part) :
    lowerWord (capitalHead part) = part := by
  obtain ⟨a, b, rest, rfl, ha, -, -⟩ := h.exists_letters
  obtain ⟨⟨hascii, hword⟩, -, -⟩ := (smallChar_of_isLower ha).1
  have hrest : Small (b :: rest) := fun c hc => h.small c (List.mem_cons_of_mem _ hc)
  rw [capitalHead, upperImage_of_ascii hascii, List.singleton_append,
    lowerWord_cons_of_ascii (asciiWord_toUpper ⟨hascii, hword⟩).1, (toUpper_of_isLower ha).2,
    lowerWord_of_small hrest]

/-- **Telling words are told again** from their name in camel case. -/
theorem words_camelChars {part : List Char} {parts : List (List Char)}
    (h : ∀ p ∈ part :: parts, Telling p) :
    words (camelChars (List.intercalate ['_'] (part :: parts))) =
      part :: parts.map capitalHead := by
  have hpart := h part List.mem_cons_self
  have hparts : ∀ p ∈ parts, Telling p := fun p hp => h p (List.mem_cons_of_mem _ hp)
  have hsmall : ∀ c ∈ part, isUpper c = false := fun c hc => (hpart.smallChars c hc).2.2
  have hrun : AsciiWord (part ++ parts.flatMap capitalHead) := by
    intro c hc
    rcases List.mem_append.mp hc with hc | hc
    · exact (hpart.smallChars c hc).1
    · obtain ⟨p, hp, hc⟩ := List.mem_flatMap.mp hc
      exact asciiWord_capitals (hparts p hp) c hc
  obtain ⟨a, b, rest, rfl, ha, -, -⟩ := hpart.exists_letters
  have hmode : (a :: b :: rest).foldl Mode.after .boundary = .lower := by
    rw [List.foldl_cons, Mode.after_of_isLower _ (smallChar_of_isLower ha).2]
    exact foldl_after_small fun c hc => hsmall c (List.mem_cons_of_mem _ hc)
  rw [camelChars_intercalate (List.cons_ne_nil _ _) fun p hp => (h p hp).small, words,
    runs_of_wordChars hrun.wordChars, List.flatMap_singleton,
    runWords_eq_cutWords _ (by simp) hrun (by simp),
    cutWords_append _ hsmall (by rw [hmode]; exact cutWords_capitals hparts), List.append_nil]

lemma mem_name {words : List String} (h : ∀ word ∈ words, Telling word.toList) {c : Char}
    (hc : c ∈ ("_".intercalate words).toList) : c = '_' ∨ SmallChar c := by
  rw [String.toList_intercalate] at hc
  rcases mem_intercalate hc with hseparator | ⟨part, hpart, hmem⟩
  · exact .inl (List.mem_singleton.mp hseparator)
  · obtain ⟨word, hword, rfl⟩ := List.mem_map.mp hpart
    exact .inr ((h word hword).smallChars c hmem)

lemma ascii_intercalate {words : List String} (h : ∀ word ∈ words, Telling word.toList) :
    Ascii ("_".intercalate words) := by
  intro c hc
  rcases mem_name h hc with rfl | hsmall
  · decide
  · exact hsmall.1.1

lemma undotted_intercalate {words : List String} (h : ∀ word ∈ words, Telling word.toList) :
    Undotted ("_".intercalate words) := by
  intro hdot
  rcases mem_name h hdot with hsame | hsmall
  · exact absurd hsame (by decide)
  · exact absurd hsmall.1.2 (by decide)

/-- **Snake case is found again**, where it joins words that are told by camel case. -/
theorem snake_camel {words : List String} (hne : words ≠ [])
    (h : ∀ word ∈ words, Telling word.toList) :
    snake (camel ("_".intercalate words)) = "_".intercalate words := by
  have hchars : ("_".intercalate words).toList = List.intercalate ['_'] (words.map String.toList) :=
    String.toList_intercalate
  rw [← String.toList_inj, snake, camel, String.toList_ofList, String.toList_ofList, hchars]
  obtain ⟨first, rest, rfl⟩ := List.exists_cons_of_ne_nil hne
  rw [← List.forall_mem_map (P := Telling)] at h
  rw [List.map_cons] at h ⊢
  rw [snakeChars, words_camelChars h, List.map_cons, List.map_map,
    lowerWord_of_small (h _ List.mem_cons_self).small]
  congr 2
  exact (List.map_congr_left fun p hp =>
    lowerWord_capitalHead (h p (List.mem_cons_of_mem _ hp))).trans (List.map_id _)

/-- Camel case leaves no separators, so no dots. -/
lemma undotted_camel {name : String} (hname : Ascii name) : Undotted (camel name) := by
  intro hdot
  rw [camel, String.toList_ofList] at hdot
  exact absurd (asciiWord_camelChars hname _ hdot).2 (by decide)

end RelationQuery.Text
