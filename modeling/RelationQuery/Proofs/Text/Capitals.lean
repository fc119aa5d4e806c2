import Mathlib.Data.List.Induction
import RelationQuery.Proofs.Text.Respelling

/-!
Capital letters that start words. A run is cut before a capital letter if the last letter before
it is small, or is a capital one while a small letter follows. So the words of a run can be read off
character by character, and putting a run into camel case changes nothing but the capital letters
that start no word: these become small. All of it is about ASCII, where a letter has one small form
and one capital form.
-/

namespace RelationQuery.Text

/-! ### ASCII -/

/-- All characters are ASCII. -/
def Ascii (name : String) : Prop := ∀ c ∈ name.toList, c.toNat < 0x80

instance (name : String) : Decidable (Ascii name) := List.decidableBAll _ _

/-- ASCII letters and digits, nothing else. -/
def AsciiWord (run : List Char) : Prop := ∀ c ∈ run, c.toNat < 0x80 ∧ isWordChar c = true

section Ascii

variable {c : Char}

lemma lowerImage_of_ascii (h : c.toNat < 0x80) : lowerImage c = [c.toLower] := if_pos h

lemma upperImage_of_ascii (h : c.toNat < 0x80) : upperImage c = [c.toUpper] := if_pos h

lemma toLower_eq_self_iff (h : c.toNat < 0x80) : c.toLower = c ↔ isUpper c = false :=
  forall_ascii (fun c => c.toLower = c ↔ isUpper c = false) (by decide) h

lemma not_isLower_of_isUpper (h : c.toNat < 0x80) (hupper : isUpper c = true) :
    isLower c = false :=
  forall_ascii (fun c => isUpper c = true → isLower c = false) (by decide) h hupper

lemma toUpper_toLower (h : c.toNat < 0x80) : c.toLower.toUpper = c.toUpper :=
  forall_ascii (fun c => c.toLower.toUpper = c.toUpper) (by decide) h

lemma not_isUpper_toLower (h : c.toNat < 0x80) : isUpper c.toLower = false :=
  forall_ascii (fun c => isUpper c.toLower = false) (by decide) h

lemma asciiWord_toLower (h : c.toNat < 0x80 ∧ isWordChar c = true) :
    c.toLower.toNat < 0x80 ∧ isWordChar c.toLower = true :=
  forall_ascii (fun c => isWordChar c = true → c.toLower.toNat < 0x80 ∧ isWordChar c.toLower = true)
    (by decide) h.1 h.2

lemma asciiWord_toUpper (h : c.toNat < 0x80 ∧ isWordChar c = true) :
    c.toUpper.toNat < 0x80 ∧ isWordChar c.toUpper = true :=
  forall_ascii (fun c => isWordChar c = true → c.toUpper.toNat < 0x80 ∧ isWordChar c.toUpper = true)
    (by decide) h.1 h.2

lemma asciiWord_cons {run : List Char} :
    AsciiWord (c :: run) ↔ (c.toNat < 0x80 ∧ isWordChar c = true) ∧ AsciiWord run :=
  List.forall_mem_cons

lemma AsciiWord.wordChars {run : List Char} (h : AsciiWord run) :
    ∀ c ∈ run, isWordChar c = true := fun c hc => (h c hc).2

lemma AsciiWord.plain {run : List Char} (h : AsciiWord run) : Plain run := by
  intro c hc
  refine ⟨(h c hc).2, ?_⟩
  rintro rfl
  exact absurd (h _ hc).1 (by decide)

lemma lowerWord_cons_of_ascii (h : c.toNat < 0x80) (word : List Char) :
    lowerWord (c :: word) = c.toLower :: lowerWord word := by
  have hsigma : c ≠ 'Σ' := by
    rintro rfl
    exact absurd h (by decide)
  cases word with
  | nil => rw [lowerWord.eq_2, if_neg hsigma, lowerImage_of_ascii h, lowerWord.eq_1]
  | cons d rest => rw [lowerWord, lowerImage_of_ascii h, List.singleton_append]

end Ascii

/-! ### Where words start -/

/-- A character that is read in `mode` starts a word. -/
def Mode.starts (mode : Mode) (c : Char) (rest : List Char) : Bool :=
  isUpper c && (mode = .lower || mode = .upper && rest.head?.any isLower)

/-- The words of a run read in `mode`, cut right before the characters that start them. The first
one continues the word that the scan stands in. -/
def cutWords (mode : Mode) : List Char → List (List Char)
  | [] => [[]]
  | c :: rest =>
    if mode.starts c rest then [] :: extendFirst c (cutWords (mode.after c) rest)
    else extendFirst c (cutWords (mode.after c) rest)

lemma Mode.after_of_isLower (mode : Mode) {c : Char} (h : isLower c = true) :
    mode.after c = .lower := if_pos h

lemma Mode.after_of_isUpper (mode : Mode) {c : Char} (hc : c.toNat < 0x80)
    (h : isUpper c = true) : mode.after c = .upper := by
  rw [Mode.after, if_neg (by simp [not_isLower_of_isUpper hc h]), if_pos h]

/-- Looking one character ahead and looking one character back finds the same words. -/
theorem runWords_eq_cutWords (mode : Mode) {run : List Char} (hne : run ≠ [])
    (hrun : AsciiWord run) (hmode : mode = .lower → run.head?.any isUpper = false) :
    runWords mode run = cutWords mode run := by
  fun_induction runWords mode run with
  | case1 => exact absurd rfl hne
  | case2 mode c =>
    have hstarts : mode.starts c [] = false := by
      cases mode <;> simp_all [Mode.starts]
    simp [cutWords, hstarts, extendFirst]
  | case3 mode c next rest hcut ih =>
    obtain ⟨hc, hnext⟩ := asciiWord_cons.mp hrun
    have hstarts : mode.starts c (next :: rest) = false := by
      by_contra hstarts
      simp only [Mode.starts, Bool.not_eq_false, Bool.and_eq_true] at hstarts
      rw [Mode.after_of_isUpper mode hc.1 hstarts.1] at hcut
      cases hcut.1
    have hupper := fun m => Mode.after_of_isUpper m (hnext next List.mem_cons_self).1 hcut.2
    rw [ih (List.cons_ne_nil _ _) hnext (by simp), cutWords.eq_2 mode, if_neg (by simp [hstarts]),
      hcut.1, cutWords, cutWords, if_neg (by simp [Mode.starts]),
      if_pos (by simp [Mode.starts, hcut.2]), hupper, hupper]
    rfl
  | case4 mode c next rest _ hcut ih =>
    obtain ⟨hc, hnext⟩ := asciiWord_cons.mp hrun
    obtain ⟨rfl, hupper, hlower⟩ := hcut
    have hsmall : isUpper next = false := by
      by_contra hboth
      rw [Bool.not_eq_false] at hboth
      simp [not_isLower_of_isUpper (hnext next List.mem_cons_self).1 hboth] at hlower
    rw [ih (List.cons_ne_nil _ _) hnext (by simp), cutWords.eq_2 .upper,
      if_pos (by simp [Mode.starts, hupper, hlower]), Mode.after_of_isUpper _ hc.1 hupper, cutWords,
      cutWords, if_neg (by simp [Mode.starts]), if_neg (by simp [Mode.starts, hsmall]),
      Mode.after_of_isLower _ hlower, Mode.after_of_isLower _ hlower]
  | case5 mode c next rest hlower hupper ih =>
    obtain ⟨hc, hnext⟩ := asciiWord_cons.mp hrun
    have hstarts : mode.starts c (next :: rest) = false := by
      cases mode <;> simp_all [Mode.starts]
    rw [ih (List.cons_ne_nil _ _) hnext (by simpa using fun h => by simpa [h] using hlower),
      cutWords.eq_2 mode, if_neg (by simp [hstarts])]

/-! ### Runs in camel case -/

/-- A run read in `mode`, with the capital letters made small that start no word. -/
def respell (mode : Mode) : List Char → List Char
  | [] => []
  | c :: rest => (if mode.starts c rest then c else c.toLower) :: respell (mode.after c) rest

lemma exists_cutWords (mode : Mode) (run : List Char) :
    ∃ word words, cutWords mode run = word :: words := by
  cases run with
  | nil => exact ⟨[], [], rfl⟩
  | cons c rest =>
    unfold cutWords
    split
    · exact ⟨_, _, rfl⟩
    · cases cutWords (mode.after c) rest with
      | nil => exact ⟨_, _, rfl⟩
      | cons word words => exact ⟨_, _, rfl⟩

lemma isUpper_of_starts {mode : Mode} {c : Char} {rest : List Char}
    (h : mode.starts c rest = true) : isUpper c = true := by
  rw [Mode.starts, Bool.and_eq_true] at h
  exact h.1

lemma respell_eq (mode : Mode) {run word : List Char} {words : List (List Char)}
    (hrun : AsciiWord run) (hwords : cutWords mode run = word :: words) :
    respell mode run = lowerWord word ++ words.flatMap capitalWord := by
  induction run generalizing mode word words with
  | nil =>
    cases hwords
    rfl
  | cons c rest ih =>
    obtain ⟨hc, hrest⟩ := asciiWord_cons.mp hrun
    obtain ⟨first, others, hcut⟩ := exists_cutWords (mode.after c) rest
    rw [cutWords, hcut] at hwords
    rw [respell, ih _ hrest hcut]
    split at hwords
    · rename_i hstarts
      cases hwords
      rw [if_pos hstarts, extendFirst_cons, List.flatMap_cons, capitalWord,
        upperImage_of_isUpper (isUpper_of_starts hstarts)]
      rfl
    · rename_i hstarts
      cases hwords
      rw [if_neg hstarts, lowerWord_cons_of_ascii hc.1]
      rfl

/-- **A run in camel case** is the run with all its other capital letters made small. -/
theorem camelChars_run {run : List Char} (hrun : AsciiWord run) :
    camelChars run = respell .boundary run := by
  obtain rfl | hne := eq_or_ne run []
  · rfl
  have hwords : words run = runWords .boundary run := by
    rw [words, runs_of_wordChars hrun.wordChars, List.flatMap_singleton]
  obtain ⟨word, rest, hcut⟩ := exists_cutWords .boundary run
  rw [runWords_eq_cutWords .boundary hne hrun (by simp), hcut] at hwords
  rw [camelChars, hwords, respell_eq .boundary hrun hcut]

lemma countP_respell_le (mode : Mode) {run : List Char} (hrun : AsciiWord run) :
    (respell mode run).countP isUpper ≤ run.countP isUpper := by
  induction run generalizing mode with
  | nil => exact Nat.le_refl _
  | cons c rest ih =>
    obtain ⟨hc, hrest⟩ := asciiWord_cons.mp hrun
    have hle := ih (mode.after c) hrest
    rw [respell, List.countP_cons, List.countP_cons]
    split
    · omega
    · rw [not_isUpper_toLower hc.1, if_neg Bool.false_ne_true]
      omega

/-- Only capital letters are lost. -/
lemma respell_eq_self_of_countP (mode : Mode) {run : List Char} (hrun : AsciiWord run)
    (h : (respell mode run).countP isUpper = run.countP isUpper) : respell mode run = run := by
  induction run generalizing mode with
  | nil => rfl
  | cons c rest ih =>
    obtain ⟨hc, hrest⟩ := asciiWord_cons.mp hrun
    have hle := countP_respell_le (mode.after c) hrest
    rw [respell, List.countP_cons, List.countP_cons] at h
    rw [respell]
    split at h
    · rename_i hstarts
      rw [if_pos hstarts, ih _ hrest (by omega)]
    · rename_i hstarts
      rw [not_isUpper_toLower hc.1, if_neg Bool.false_ne_true] at h
      have hsmall : isUpper c = false := by
        by_contra hupper
        rw [Bool.not_eq_false] at hupper
        rw [if_pos hupper] at h
        omega
      rw [if_neg hstarts, (toLower_eq_self_iff hc.1).mpr hsmall,
        ih _ hrest (by simpa [hsmall] using h)]

/-! ### Names that stay as they are -/

/-- The last letter of a text. -/
def lastLetter? (text : List Char) : Option Char :=
  text.reverse.find? fun c => isLower c || isUpper c

/-- A capital letter between two texts can be seen to start a word: the last letter before it is
small, or there is one and a small letter follows. -/
def announces (before after : List Char) : Bool :=
  (lastLetter? before).any fun b => isLower b || after.head?.any isLower

/-- Every capital letter can be seen to start a word. -/
def Legible (name : String) : Prop :=
  ∀ before c after, name.toList = before ++ c :: after → isUpper c = true →
    announces before after = true

lemma legible_iff {name : String} : Legible name ↔ ∀ i, ∀ h : i < name.toList.length,
    isUpper (name.toList.get ⟨i, h⟩) = true →
      announces (name.toList.take i) (name.toList.drop (i + 1)) = true := by
  unfold Legible
  generalize name.toList = text
  constructor
  · intro h i hi hupper
    refine h _ _ _ ?_ hupper
    rw [List.get_eq_getElem, ← List.drop_eq_getElem_cons, List.take_append_drop]
  · rintro h before c after rfl hupper
    simpa [hupper] using h before.length (by simp)

instance (name : String) : Decidable (Legible name) := decidable_of_iff' _ legible_iff

/-- The mode after a text that starts with a word. -/
lemma foldl_after_boundary (text : List Char) : text.foldl Mode.after .boundary =
    match lastLetter? text with
    | none => .boundary
    | some b => if isLower b then .lower else .upper := by
  induction text using List.reverseRecOn with
  | nil => rfl
  | append_singleton text c ih =>
    rw [List.foldl_append, List.foldl_cons, List.foldl_nil, Mode.after, ih, lastLetter?,
      lastLetter?, List.reverse_append, List.reverse_singleton, List.singleton_append,
      List.find?_cons]
    cases hlower : isLower c <;> cases hupper : isUpper c <;> simp [hlower]

lemma starts_eq {before after : List Char} {c : Char} (hupper : isUpper c = true) :
    (before.foldl Mode.after .boundary).starts c after = announces before after := by
  rw [foldl_after_boundary, Mode.starts, hupper, Bool.true_and, announces]
  cases lastLetter? before with
  | none => rfl
  | some b => cases hb : isLower b <;> simp [hb]

lemma respell_eq_self_iff (mode : Mode) {run : List Char} (hrun : AsciiWord run) :
    respell mode run = run ↔ ∀ before c after, run = before ++ c :: after → isUpper c = true →
      (before.foldl Mode.after mode).starts c after = true := by
  induction run generalizing mode with
  | nil => simp [respell]
  | cons c rest ih =>
    obtain ⟨hc, hrest⟩ := asciiWord_cons.mp hrun
    have hhead : (if mode.starts c rest then c else c.toLower) = c ↔
        (isUpper c = true → mode.starts c rest = true) := by
      cases hstarts : mode.starts c rest with
      | true => simp
      | false => simp [toLower_eq_self_iff hc.1]
    rw [respell, List.cons.injEq, hhead, ih _ hrest]
    constructor
    · rintro ⟨hfirst, hothers⟩ before d after hsplit hupper
      cases before with
      | nil =>
        cases hsplit
        exact hfirst hupper
      | cons b before =>
        cases hsplit
        exact hothers before d after rfl hupper
    · intro h
      refine ⟨h [] c rest rfl, fun before d after hsplit => h (c :: before) d after ?_⟩
      rw [hsplit]
      rfl

lemma asciiWord_of_mem_words {name : List Char} (hname : ∀ c ∈ name, c.toNat < 0x80)
    {word : List Char} (h : word ∈ words name) : AsciiWord word := fun _ hc =>
  ⟨hname _ (mem_of_mem_words h hc).1, (mem_of_mem_words h hc).2⟩

lemma AsciiWord.lowerWord {word : List Char} (h : AsciiWord word) : AsciiWord (lowerWord word) := by
  induction word with
  | nil => exact h
  | cons c rest ih =>
    obtain ⟨hc, hrest⟩ := asciiWord_cons.mp h
    rw [lowerWord_cons_of_ascii hc.1, asciiWord_cons]
    exact ⟨asciiWord_toLower hc, ih hrest⟩

/-- Camel case leaves a single run. -/
lemma asciiWord_camelChars {name : List Char} (hname : ∀ c ∈ name, c.toNat < 0x80) :
    AsciiWord (camelChars name) := by
  have hwords : ∀ word ∈ words name, AsciiWord word := fun _ => asciiWord_of_mem_words hname
  unfold camelChars
  split
  · exact fun _ h => absurd h List.not_mem_nil
  rename_i word rest heq
  rw [heq, List.forall_mem_cons] at hwords
  intro d hd
  rcases List.mem_append.mp hd with hfirst | hrest
  · exact hwords.1.lowerWord d hfirst
  obtain ⟨w, hw, hd⟩ := List.mem_flatMap.mp hrest
  cases w with
  | nil => cases hd
  | cons c w =>
    obtain ⟨hc, hbehind⟩ := asciiWord_cons.mp (hwords.2 _ hw)
    rw [capitalWord, upperImage_of_ascii hc.1, List.singleton_append, List.mem_cons] at hd
    rcases hd with rfl | hd
    · exact asciiWord_toUpper hc
    · exact hbehind.lowerWord d hd

/-- **Where camel case stays as it is** when it is applied again. -/
theorem camel_camel_iff {name : String} (hname : Ascii name) :
    camel (camel name) = camel name ↔ Legible (camel name) := by
  have hrun : AsciiWord (camelChars name.toList) := asciiWord_camelChars hname
  have hchars : (camel name).toList = camelChars name.toList := String.toList_ofList
  rw [← String.toList_inj, camel, String.toList_ofList, hchars, camelChars_run hrun,
    respell_eq_self_iff .boundary hrun, Legible, hchars]
  refine forall₅_congr fun before c after _ hupper => ?_
  rw [starts_eq hupper]

end RelationQuery.Text
