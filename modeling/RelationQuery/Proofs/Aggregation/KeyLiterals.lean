import Mathlib.Tactic.Common
import RelationQuery.Aggregation.ObjectTemplate

/-!
Keys of objects as string literals. A database reads a literal up to the first quote that is not
doubled; in one of the dialects a backslash in it also changes what the next character means. Keys
are written with their quotes doubled and everything else as it is. So each is read back as it was,
up to the end of what was written for it, except where backslashes have that effect: there a key
survives only if its backslashes happen to mean themselves.
-/

namespace RelationQuery

/-! ### Literals -/

namespace Literal

/-- What a character stands for behind a backslash that has an effect. The wildcards of patterns
keep the backslash; characters that are not named here stand for themselves. -/
def escaped : Char → List Char
  | '0' => ['\x00']
  | 'b' => ['\x08']
  | 'n' => ['\n']
  | 'r' => ['\r']
  | 't' => ['\t']
  | 'Z' => ['\x1a']
  | '%' => ['\\', '%']
  | '_' => ['\\', '_']
  | c => [c]

/-- What was read, with `front` before its text. -/
def prepend (front : List Char) : Option (List Char × List Char) → Option (List Char × List Char) :=
  Option.map fun (text, behind) => (front ++ text, behind)

/-- Reads a literal behind its first quote: its text, and what is behind its last quote. -/
def tail? (escapes : Bool) : List Char → Option (List Char × List Char)
  | [] => none
  | [c] => if c = '\x27' then some ([], []) else none
  | c :: next :: rest =>
    if c = '\x27' then
      if next = '\x27' then prepend ['\x27'] (tail? escapes rest) else some ([], next :: rest)
    else if c = '\\' ∧ escapes = true then prepend (escaped next) (tail? escapes rest)
    else prepend [c] (tail? escapes (next :: rest))

/-- Every backslash stands right before a wildcard of patterns, where it means itself. -/
def Settled (key : List Char) : Prop :=
  ∀ before after, key = before ++ '\\' :: after →
    after.head? = some '%' ∨ after.head? = some '_'

variable {escapes : Bool} {c : Char} {key text rest behind front : List Char}

lemma prepend_eq_some_iff {read : Option (List Char × List Char)} :
    prepend front read = some (text, behind) ↔
      ∃ more, read = some (more, behind) ∧ text = front ++ more := by
  unfold prepend
  rw [Option.map_eq_some_iff]
  constructor
  · rintro ⟨⟨more, behind⟩, hread, hsame⟩
    cases hsame
    exact ⟨more, hread, rfl⟩
  · rintro ⟨more, hread, rfl⟩
    exact ⟨(more, behind), hread, rfl⟩

lemma tail?_doubled : tail? escapes ('\x27' :: '\x27' :: rest) =
    prepend ['\x27'] (tail? escapes rest) := by
  rw [tail?, if_pos rfl, if_pos rfl]

lemma tail?_closed (h : ¬ ['\x27'] <+: rest) :
    tail? escapes ('\x27' :: rest) = some ([], rest) := by
  cases rest with
  | nil => rfl
  | cons next behind =>
    have hnext : next ≠ '\x27' := fun hsame => h (by simp [hsame])
    rw [tail?, if_pos rfl, if_neg hnext]

lemma tail?_plain (hquote : c ≠ '\x27') (hplain : c = '\\' → escapes = false) :
    tail? escapes (c :: rest) = prepend [c] (tail? escapes rest) := by
  cases rest with
  | nil => simp [tail?, hquote, prepend]
  | cons next rest => rw [tail?, if_neg hquote, if_neg fun h => by simp [hplain h.1] at h]

lemma tail?_escaped : tail? true ('\\' :: c :: rest) = prepend (escaped c) (tail? true rest) := by
  rw [tail?, if_neg (by decide), if_pos ⟨rfl, rfl⟩]

/-- Before a wildcard a backslash is a character like any other. -/
lemma tail?_wildcard (h : c = '%' ∨ c = '_') :
    tail? escapes ('\\' :: c :: rest) = prepend ['\\'] (tail? escapes (c :: rest)) := by
  cases escapes with
  | false => exact tail?_plain (by decide) fun _ => rfl
  | true =>
    rw [tail?_escaped, tail?_plain (by rcases h with rfl | rfl <;> decide)
      (by rcases h with rfl | rfl <;> decide)]
    unfold prepend
    rw [Option.map_map]
    congr 1
    rcases h with rfl | rfl <;> rfl

lemma tail?_before_wildcard (h : key.head? = some '%' ∨ key.head? = some '_') :
    tail? escapes ('\\' :: (Text.double '\x27' key ++ rest)) =
      prepend ['\\'] (tail? escapes (Text.double '\x27' key ++ rest)) := by
  cases key with
  | nil => simp at h
  | cons w key =>
    have hw : w = '%' ∨ w = '_' := by simpa using h
    have hplain : w ≠ '\x27' := by rcases hw with rfl | rfl <;> decide
    simp only [Text.double, hplain, if_false, List.cons_append]
    exact tail?_wildcard hw

/-! ### Keys that survive -/

lemma settled_nil : Settled [] := by
  intro before after h
  simp at h

lemma settled_cons : Settled (c :: key) ↔
    (c = '\\' → key.head? = some '%' ∨ key.head? = some '_') ∧ Settled key := by
  constructor
  · intro h
    refine ⟨?_, fun before after hkey => h (c :: before) after (by rw [hkey]; rfl)⟩
    rintro rfl
    exact h [] key rfl
  · rintro ⟨hhead, hkey⟩ before after hsplit
    cases before with
    | nil =>
      cases hsplit
      exact hhead rfl
    | cons b before =>
      cases hsplit
      exact hkey before after rfl

/-- What was written for a key is read as the key. -/
lemma tail?_of_settled (hbehind : ¬ ['\x27'] <+: behind) (hkey : escapes = true → Settled key) :
    tail? escapes (Text.double '\x27' key ++ '\x27' :: behind) = some (key, behind) := by
  induction key with
  | nil => exact tail?_closed hbehind
  | cons c key ih =>
    have hread := ih fun hescapes => (settled_cons.mp (hkey hescapes)).2
    have hprepend : prepend [c] (some (key, behind)) = some (c :: key, behind) := rfl
    by_cases hquote : c = '\x27'
    · subst hquote
      simp only [Text.double, if_true, List.cons_append]
      rw [tail?_doubled, hread, hprepend]
    simp only [Text.double, hquote, if_false, List.cons_append]
    by_cases hescape : c = '\\' ∧ escapes = true
    · obtain ⟨rfl, hescapes⟩ := hescape
      rw [tail?_before_wildcard ((settled_cons.mp (hkey hescapes)).1 rfl), hread, hprepend]
    · rw [tail?_plain hquote fun hc => by simpa [hc] using hescape, hread, hprepend]

/-- Two characters with a backslash at the front mean no more than two characters. -/
lemma length_escaped_le (c : Char) : (Text.double '\x27' (escaped c)).length ≤ 2 := by
  unfold escaped
  split <;> simp [Text.double]
  split <;> simp

/-- A literal is at least as long as its text is when it is written. -/
lemma length_le_of_tail? (h : tail? escapes text = some (key, behind)) :
    (Text.double '\x27' key).length + 1 + behind.length ≤ text.length := by
  fun_induction tail? escapes text generalizing key behind with
  | case1 => cases h
  | case2 =>
    cases h
    simp [Text.double]
  | case3 => cases h
  | case4 rest ih =>
    obtain ⟨more, hread, rfl⟩ := prepend_eq_some_iff.mp h
    have := ih hread
    simp only [List.singleton_append, Text.double, if_true, List.length_cons]
    omega
  | case5 next rest hnext =>
    cases h
    simp [Text.double, Nat.add_comm]
  | case6 c next rest hquote hescape ih =>
    obtain ⟨more, hread, rfl⟩ := prepend_eq_some_iff.mp h
    have := ih hread
    have := length_escaped_le next
    rw [Text.double_append, List.length_append, List.length_cons, List.length_cons]
    omega
  | case7 c next rest hquote hescape ih =>
    obtain ⟨more, hread, rfl⟩ := prepend_eq_some_iff.mp h
    have := ih hread
    simp only [List.singleton_append, Text.double, hquote, if_false, List.length_cons] at this ⊢
    omega

/-- Only a backslash is read as a backslash, wildcards apart. -/
lemma eq_of_escaped {w : Char} (hw : ¬ (w = '%' ∨ w = '_'))
    (h : '\\' :: key = escaped w ++ text) : w = '\\' ∧ text = key := by
  unfold escaped at h
  split at h <;> simp_all [eq_comm]

lemma exists_double (c : Char) (key rest : List Char) : ∃ more,
    Text.double '\x27' (c :: key) ++ rest = c :: more ∧
      (c ≠ '\x27' → more = Text.double '\x27' key ++ rest) := by
  by_cases hquote : c = '\x27'
  · subst hquote
    exact ⟨_, by rw [Text.double, if_pos rfl]; rfl, fun hne => absurd rfl hne⟩
  · exact ⟨_, by rw [Text.double, if_neg hquote]; rfl, fun _ => rfl⟩

/-- A backslash that is read as itself stands before a wildcard. -/
lemma wildcard_of_tail?
    (h : tail? true ('\\' :: (Text.double '\x27' key ++ '\x27' :: behind)) =
      some ('\\' :: key, behind)) :
    key.head? = some '%' ∨ key.head? = some '_' := by
  cases key with
  | nil =>
    simp only [Text.double, List.nil_append] at h
    rw [tail?_escaped] at h
    obtain ⟨more, -, hsame⟩ := prepend_eq_some_iff.mp h
    exact absurd (eq_of_escaped (by decide) hsame).1 (by decide)
  | cons w key =>
    by_contra hwild
    have hw : ¬ (w = '%' ∨ w = '_') := by simpa using hwild
    obtain ⟨rest, hrest, hplain⟩ := exists_double w key ('\x27' :: behind)
    rw [hrest, tail?_escaped] at h
    obtain ⟨text, htext, hsame⟩ := prepend_eq_some_iff.mp h
    obtain ⟨rfl, rfl⟩ := eq_of_escaped hw hsame
    -- two backslashes were read as one, and what follows cannot make up for the other
    have hlength := length_le_of_tail? htext
    rw [hplain (by decide)] at hlength
    simp only [Text.double, List.length_append, List.length_cons] at hlength
    rw [if_neg (by decide), List.length_cons] at hlength
    omega

/-- What was written for a key is read as the key only if its backslashes mean themselves. -/
lemma settled_of_tail?
    (h : tail? true (Text.double '\x27' key ++ '\x27' :: behind) = some (key, behind)) :
    Settled key := by
  induction key with
  | nil => exact settled_nil
  | cons c key ih =>
    -- a character that is read by itself leaves the rest of the key to be read
    have hrest : ∀ {read}, prepend [c] read = some (c :: key, behind) →
        read = some (key, behind) := by
      intro read hread
      obtain ⟨more, hmore, hsame⟩ := prepend_eq_some_iff.mp hread
      cases hsame
      exact hmore
    by_cases hquote : c = '\x27'
    · subst hquote
      simp only [Text.double, if_true, List.cons_append] at h
      rw [tail?_doubled] at h
      exact settled_cons.mpr ⟨fun hc => absurd hc (by decide), ih (hrest h)⟩
    simp only [Text.double, hquote, if_false, List.cons_append] at h
    by_cases hescape : c = '\\'
    · subst hescape
      have hwild := wildcard_of_tail? h
      rw [tail?_before_wildcard hwild] at h
      exact settled_cons.mpr ⟨fun _ => hwild, ih (hrest h)⟩
    · rw [tail?_plain hquote fun hc => absurd hc hescape] at h
      exact settled_cons.mpr ⟨fun hc => absurd hc hescape, ih (hrest h)⟩

lemma tail?_double_iff (hbehind : ¬ ['\x27'] <+: behind) :
    tail? escapes (Text.double '\x27' key ++ '\x27' :: behind) = some (key, behind) ↔
      (escapes = true → Settled key) := by
  refine ⟨?_, tail?_of_settled hbehind⟩
  rintro hread rfl
  exact settled_of_tail? hread

end Literal

namespace Dialect

/-- Whether a backslash in a literal changes what the next character means. -/
def escapes : Dialect → Bool
  | .mysql => true
  | .sqlite | .postgresql => false

/-- Reads the literal that a text begins with: what it says, and what is behind it. -/
def literal? (d : Dialect) : List Char → Option (List Char × List Char)
  | [] => none
  | c :: rest => if c = '\x27' then Literal.tail? d.escapes rest else none

lemma literal?_enclose_iff {d : Dialect} {key behind : List Char}
    (hbehind : ¬ ['\x27'] <+: behind) :
    d.literal? (Text.enclose '\x27' key ++ behind) = some (key, behind) ↔
      (d = .mysql → Literal.Settled key) := by
  have hescapes : d.escapes = true ↔ d = .mysql := by cases d <;> decide
  rw [← hescapes, ← Literal.tail?_double_iff hbehind]
  simp [literal?, Text.enclose]

end Dialect

/-! ### Objects -/

namespace ObjectTemplate

/-- An entry as two arguments of the constructor. -/
def argument (t : Target) (entry : String × Slot) : List Char :=
  Text.enclose '\x27' entry.1.toList ++ (", ".toList ++ (entry.2.render t).toList)

/-- What is written before the key that follows some entries. -/
def opening (t : Target) (entries : List (String × Slot)) : List Char :=
  (t.json.object ++ "(").toList ++ entries.flatMap fun entry => argument t entry ++ ", ".toList

/-- What is written behind a key: what stands under it, and the entries that follow. -/
def behindKey (t : Target) (slot : Slot) (entries : List (String × Slot)) : List Char :=
  ", ".toList ++ ((slot.render t).toList ++
    (entries.flatMap (fun entry => ", ".toList ++ argument t entry) ++ [')']))

/-- At the place of each key a literal is read that says the key and ends right before what is
written behind it. -/
def KeysRead (t : Target) (o : ObjectTemplate) : Prop :=
  ∀ before key slot after, o.entries = before ++ (key, slot) :: after →
    t.dialect.literal? ((o.render t).toList.drop (opening t before).length) =
      some (key.toList, behindKey t slot after)

lemma intercalate_split {α : Type} (separator part : List α) (before after : List (List α)) :
    List.intercalate separator (before ++ part :: after) =
      before.flatMap (· ++ separator) ++ (part ++ after.flatMap (separator ++ ·)) := by
  induction before with
  | nil =>
    induction after generalizing part with
    | nil => simp
    | cons next after ih =>
      simp only [List.nil_append, List.flatMap_nil] at ih ⊢
      rw [List.intercalate_cons_cons, ih, List.flatMap_cons, List.append_assoc, List.append_assoc]
  | cons first before ih =>
    rw [List.cons_append, List.intercalate_cons_of_ne_nil (by simp), ih, List.flatMap_cons,
      List.append_assoc (first ++ separator)]

variable {t : Target} {o : ObjectTemplate}

lemma toList_render {before after : List (String × Slot)} {key : String} {slot : Slot}
    (h : o.entries = before ++ (key, slot) :: after) :
    (o.render t).toList =
      opening t before ++ (Text.enclose '\x27' key.toList ++ behindKey t slot after) := by
  have hrender : o.render t = t.json.object ++ "(" ++ ", ".intercalate (o.entries.map fun entry =>
      Text.quote '\x27' entry.1 ++ ", " ++ entry.2.render t) ++ ")" := rfl
  have hargument : ∀ entry : String × Slot,
      (Text.quote '\x27' entry.1 ++ ", " ++ entry.2.render t).toList = argument t entry :=
    fun entry => by simp [argument, Text.quote]
  have harguments : (o.entries.map fun entry =>
      Text.quote '\x27' entry.1 ++ ", " ++ entry.2.render t).map String.toList =
        before.map (argument t) ++ argument t (key, slot) :: after.map (argument t) := by
    rw [h, List.map_map, ← List.map_cons, ← List.map_append]
    exact List.map_congr_left fun entry _ => hargument entry
  rw [hrender, String.toList_append, String.toList_append, String.toList_intercalate, harguments,
    intercalate_split, List.flatMap_map, List.flatMap_map, opening, behindKey, argument]
  simp

/-- **Keys are read back as they were** in every dialect where a backslash is a character like any
other; in the one where it is not, exactly if all backslashes in keys stand before wildcards. -/
theorem keys_read_iff (t : Target) (o : ObjectTemplate) :
    o.KeysRead t ↔
      (t.dialect = .mysql → ∀ key ∈ o.keys, Literal.Settled key.toList) := by
  have hplace : ∀ {before key slot after}, o.entries = before ++ (key, slot) :: after →
      (t.dialect.literal? ((o.render t).toList.drop (opening t before).length) =
          some (key.toList, behindKey t slot after) ↔
        (t.dialect = .mysql → Literal.Settled key.toList)) := by
    intro before key slot after h
    rw [toList_render h, List.drop_left]
    exact Dialect.literal?_enclose_iff (by simp [behindKey])
  constructor
  · intro hread hdialect key hkey
    obtain ⟨⟨_, slot⟩, hentry, rfl⟩ := List.mem_map.mp hkey
    obtain ⟨before, after, h⟩ := List.append_of_mem hentry
    exact (hplace h).mp (hread before _ slot after h) hdialect
  · intro hsettled before key slot after h
    refine (hplace h).mpr fun hdialect => hsettled hdialect key ?_
    rw [keys, h]
    simp

/-- A backslash at the end of a key takes the quote that was to close it for a part of it. -/
theorem key_runs_on :
    let o : ObjectTemplate := ⟨[("C:\\", .raw "1"), ("d", .raw "2")]⟩
    let t : Target := .ofDialect .mysql
    ¬ o.KeysRead t ∧
      t.dialect.literal? ((o.render t).toList.drop (opening t []).length) =
        some ("C:', 1, ".toList, "d', 2)".toList) := by
  intro o t
  refine ⟨fun h => ?_, by decide +kernel⟩
  have hkey := h [] "C:\\" (.raw "1") [("d", .raw "2")] rfl
  revert hkey
  decide +kernel

end ObjectTemplate

end RelationQuery
