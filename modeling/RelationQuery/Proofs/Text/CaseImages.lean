import Mathlib.Tactic.Common
import RelationQuery.Text.Letter

/-!
What the case maps of characters do to characters that are images already. The tables give the
images stride by stride, so the images of a stride are a stride themselves, and what holds of all
images is decided by comparing strides: by their ends, and code point by code point only where two
of them overlap.
-/

namespace RelationQuery.Text

namespace Stride

/-- The code points of a stride, one by one. -/
def members (s : Stride) : List Nat :=
  (List.range ((s.last - s.first) / s.step + 1)).map fun i => s.first + s.step * i

/-- The code points of a stride with an amount added. -/
def moved (s : Stride) (amount : Int) : Stride :=
  ⟨(s.first + amount).toNat, (s.last + amount).toNat, s.step⟩

/-- No code point is in both. The ends decide where they can. -/
def apart (s t : Stride) : Bool :=
  bif s.last.blt t.first then true
  else bif t.last.blt s.first then true
  else s.members.all fun n => !t.contains n

/-- All code points are those of characters. -/
def valid (s : Stride) : Bool := s.last < 0xD800 || (0xDFFF < s.first && s.last < 0x110000)

variable {s t : Stride} {n : Nat}

lemma contains_iff : s.contains n = true ↔
    s.first ≤ n ∧ n ≤ s.last ∧ (n - s.first) % s.step = 0 := by
  simp [contains, and_assoc]

lemma mem_members (h : s.contains n = true) : n ∈ s.members := by
  obtain ⟨hfirst, hlast, hstep⟩ := contains_iff.mp h
  refine List.mem_map.mpr ⟨(n - s.first) / s.step, List.mem_range.mpr ?_, ?_⟩
  · have : (n - s.first) / s.step ≤ (s.last - s.first) / s.step := Nat.div_le_div_right (by omega)
    omega
  · rw [Nat.mul_div_cancel' (Nat.dvd_of_mod_eq_zero hstep)]
    omega

lemma contains_moved {amount : Int} (h : s.contains n = true) (hfirst : 0 ≤ s.first + amount) :
    (s.moved amount).contains (n + amount).toNat = true := by
  obtain ⟨hfrom, hto, hstep⟩ := contains_iff.mp h
  have hoffset : ((n : Int) + amount).toNat - (s.first + amount).toNat = n - s.first := by omega
  refine contains_iff.mpr ⟨?_, ?_, ?_⟩ <;> simp only [moved]
  · omega
  · omega
  · rw [hoffset, hstep]

lemma not_contains_of_apart (h : s.apart t = true) (hs : s.contains n = true) :
    t.contains n = false := by
  by_contra ht
  rw [Bool.not_eq_false] at ht
  obtain ⟨hsfirst, hslast, -⟩ := contains_iff.mp hs
  obtain ⟨htfirst, htlast, -⟩ := contains_iff.mp ht
  have hbefore : s.last.blt t.first = false := by
    rw [← Bool.not_eq_true, Nat.blt_eq]
    omega
  have hbehind : t.last.blt s.first = false := by
    rw [← Bool.not_eq_true, Nat.blt_eq]
    omega
  rw [apart, hbefore, hbehind, cond_false, cond_false, List.all_eq_true] at h
  simpa [ht] using h n (mem_members hs)

lemma toNat_ofNat (hvalid : s.valid = true) (h : s.contains n = true) :
    (Char.ofNat n).toNat = n := by
  obtain ⟨hfirst, hlast, -⟩ := contains_iff.mp h
  have hchar : n.isValidChar := by
    simp only [valid, Bool.or_eq_true, Bool.and_eq_true, decide_eq_true_eq] at hvalid
    unfold Nat.isValidChar
    omega
  rw [Char.ofNat, dif_pos hchar]
  rfl

end Stride

/-! ### Tables of images -/

section Tables

variable {ascii : Char → Char} {expansions : List (Nat × List Nat)} {shifts : List (Stride × Int)}

/-- The strides of the images that shifts lead to. -/
def imageStrides (shifts : List (Stride × Int)) : List Stride :=
  shifts.map fun entry => entry.1.moved entry.2

/-- The shifts lead to characters only. -/
def sound (shifts : List (Stride × Int)) : Bool :=
  shifts.all fun entry => 0 ≤ (entry.1.first : Int) + entry.2 && (entry.1.moved entry.2).valid

/-- Where the image of a character comes from. -/
inductive Origin (ascii : Char → Char) (expansions : List (Nat × List Nat))
    (shifts : List (Stride × Int)) (c : Char) (image : List Char) : Prop
  | ascii (hc : c.toNat < 0x80) (himage : image = [ascii c])
  | expanded {codes : List Nat} (hmem : (c.toNat, codes) ∈ expansions)
      (himage : image = codes.map Char.ofNat)
  | shifted {s : Stride} {d : Char} (hs : s ∈ imageStrides shifts)
      (hd : s.contains d.toNat = true) (himage : image = [d])
  | same (himage : image = [c])

lemma origin_caseImage (ascii : Char → Char) (expansions : List (Nat × List Nat))
    (hsound : sound shifts = true) (c : Char) :
    Origin ascii expansions shifts c
      (if c.toNat < 0x80 then [ascii c] else caseImage expansions shifts c) := by
  split
  · rename_i hascii
    exact .ascii hascii rfl
  unfold caseImage
  cases hlookup : expansions.lookup c.toNat with
  | some codes =>
    obtain ⟨before, after, hsplit, -⟩ := List.lookup_eq_some_iff.mp hlookup
    refine .expanded ?_ rfl
    rw [hsplit]
    exact List.mem_append_right _ List.mem_cons_self
  | none =>
    simp only [Stride.shift]
    cases hfound : shifts.find? fun entry => entry.1.contains c.toNat with
    | none => exact .same rfl
    | some entry =>
      have hentry := List.mem_of_find?_eq_some hfound
      have hcontains : entry.1.contains c.toNat = true := by simpa using List.find?_some hfound
      have hgood := List.all_eq_true.mp hsound entry hentry
      simp only [Bool.and_eq_true, decide_eq_true_eq] at hgood
      have hmoved := Stride.contains_moved hcontains hgood.1
      refine .shifted (List.mem_map_of_mem hentry) ?_ rfl
      simp only [Option.map_some, Option.getD_some]
      rwa [Stride.toNat_ofNat hgood.2 hmoved]

/-- The characters of a stride have no image but themselves. -/
def fixes (expansions : List (Nat × List Nat)) (shifts : List (Stride × Int)) (s : Stride) : Bool :=
  (shifts.all fun entry => s.apart entry.1) && expansions.all fun entry => !s.contains entry.1

lemma caseImage_of_fixes {s : Stride} (hfixes : fixes expansions shifts s = true) {c : Char}
    (hc : s.contains c.toNat = true) : caseImage expansions shifts c = [c] := by
  simp only [fixes, Bool.and_eq_true, List.all_eq_true] at hfixes
  have hlookup : expansions.lookup c.toNat = none := by
    rw [List.lookup_eq_none_iff]
    intro entry hentry
    rw [bne_iff_ne]
    intro hsame
    simpa [← hsame, hc] using hfixes.2 entry hentry
  have hfind : shifts.find? (fun entry => entry.1.contains c.toNat) = none := by
    rw [List.find?_eq_none]
    intro entry hentry
    simp [Stride.not_contains_of_apart (hfixes.1 entry hentry) hc]
  simp [caseImage, hlookup, Stride.shift, hfind]

/-- The strides of images past ASCII are fixed, and so are the ASCII characters that are images. -/
def settled (expansions : List (Nat × List Nat)) (shifts : List (Stride × Int))
    (ascii : Char → Char) : Bool :=
  (expansions.all fun entry => entry.2.length != 1) &&
    (imageStrides shifts).all fun s =>
      if s.last.blt 0x80 then s.members.all fun n => ascii (Char.ofNat n) == Char.ofNat n
      else Nat.ble 0x80 s.first && fixes expansions shifts s

/-- A single image is its own image, where this holds in ASCII and of the strides of images. -/
lemma image_of_settled {image : Char → List Char}
    (himage : ∀ c, image c = if c.toNat < 0x80 then [ascii c] else caseImage expansions shifts c)
    (hsound : sound shifts = true) (hsettled : settled expansions shifts ascii = true)
    (hascii : ∀ n < 0x80, image (ascii (Char.ofNat n)) = [ascii (Char.ofNat n)]) {c d : Char}
    (h : image c = [d]) : image d = [d] := by
  simp only [settled, Bool.and_eq_true, List.all_eq_true] at hsettled
  have horigin := origin_caseImage ascii expansions hsound c
  rw [← himage, h] at horigin
  cases horigin with
  | ascii hc hd =>
    rw [List.cons.injEq] at hd
    have hfixed := hascii c.toNat hc
    rwa [Char.ofNat_toNat, ← hd.1] at hfixed
  | expanded hmem hd =>
    have hone : 1 = _ := congrArg List.length hd
    rw [List.length_map] at hone
    simpa [← hone] using hsettled.1 _ hmem
  | @shifted s d' hs hd hsame =>
    obtain rfl : d = d' := by simpa using hsame
    obtain ⟨hfirst, hlast, -⟩ := Stride.contains_iff.mp hd
    have hstride := hsettled.2 s hs
    rw [himage]
    split at hstride
    · rename_i hbelow
      rw [Nat.blt_eq] at hbelow
      have hfixed := List.all_eq_true.mp hstride _ (Stride.mem_members hd)
      rw [Char.ofNat_toNat, beq_iff_eq] at hfixed
      rw [if_pos (by omega), hfixed]
    · rw [Bool.and_eq_true, Nat.ble_eq] at hstride
      rw [if_neg (by omega), caseImage_of_fixes hstride.2 hd]
  | same hd =>
    obtain rfl : d = c := by simpa using hd
    exact h

/-- A character that no image brings in, whatever is expanded or shifted. -/
def unmade (expansions : List (Nat × List Nat)) (shifts : List (Stride × Int)) (d : Char) : Bool :=
  (expansions.all fun entry => !(entry.2.map Char.ofNat).contains d) &&
    (imageStrides shifts).all fun s => !s.contains d.toNat

lemma Origin.eq_of_mem {c d : Char} {image : List Char}
    (horigin : Origin ascii expansions shifts c image)
    (hascii : ∀ n < 0x80, ascii (Char.ofNat n) = d → Char.ofNat n = d)
    (hunmade : unmade expansions shifts d = true) (h : d ∈ image) : c = d := by
  simp only [unmade, Bool.and_eq_true, List.all_eq_true] at hunmade
  cases horigin with
  | ascii hc himage =>
    have hsame := hascii c.toNat hc
    rw [Char.ofNat_toNat] at hsame
    rw [himage, List.mem_singleton] at h
    exact hsame h.symm
  | expanded hmem himage =>
    have hnone := hunmade.1 _ hmem
    rw [← himage, List.contains_iff_mem.mpr h] at hnone
    cases hnone
  | @shifted s d' hs hd himage =>
    obtain rfl : d = d' := by simpa [himage] using h
    simpa [hd] using hunmade.2 s hs
  | same himage => simpa [himage, eq_comm] using h

end Tables

/-! ### Small and capital characters -/

lemma sound_lowerShifts : sound Table.lowerShifts = true := by decide +kernel

lemma sound_upperShifts : sound Table.upperShifts = true := by decide +kernel

lemma origin_lowerImage (c : Char) :
    Origin Char.toLower Table.lowerExpansions Table.lowerShifts c (lowerImage c) :=
  origin_caseImage _ _ sound_lowerShifts c

lemma origin_upperImage (c : Char) :
    Origin Char.toUpper Table.upperExpansions Table.upperShifts c (upperImage c) :=
  origin_caseImage _ _ sound_upperShifts c

variable {c d : Char}

/-- Small images are small. -/
lemma lowerImage_of_image (h : lowerImage c = [d]) : lowerImage d = [d] :=
  image_of_settled (fun _ => rfl) sound_lowerShifts (by decide +kernel) (by decide) h

/-- Capital images are capital. -/
lemma upperImage_of_image (h : upperImage c = [d]) : upperImage d = [d] :=
  image_of_settled (fun _ => rfl) sound_upperShifts (by decide +kernel) (by decide) h

lemma forall_ascii (p : Char → Prop) (h : ∀ n < 0x80, p (Char.ofNat n)) (hc : c.toNat < 0x80) :
    p c := by
  have hp := h c.toNat hc
  rwa [Char.ofNat_toNat] at hp

/-- Capital letters are their own capital images. -/
lemma upperImage_of_isUpper (h : isUpper c = true) : upperImage c = [c] := by
  unfold isUpper at h
  unfold upperImage
  split at h
  · rename_i hascii
    rw [if_pos hascii,
      forall_ascii (fun c => c.isUpper = true → c.toUpper = c) (by decide) hascii h]
  · rename_i hascii
    have hfixed : Table.uppercase.all (fixes Table.upperExpansions Table.upperShifts) = true := by
      decide +kernel
    obtain ⟨s, hs, hc⟩ := List.any_eq_true.mp h
    rw [if_neg hascii, caseImage_of_fixes (List.all_eq_true.mp hfixed s hs) hc]

/-- `İ` is the capital form of nothing else. -/
lemma eq_of_dotted_mem_upperImage (h : 'İ' ∈ upperImage c) : c = 'İ' :=
  (origin_upperImage c).eq_of_mem (by decide) (by decide +kernel) h

/-- `İ` is no small form. -/
lemma dotted_not_mem_lowerImage : 'İ' ∉ lowerImage c := by
  intro h
  obtain rfl := (origin_lowerImage c).eq_of_mem (by decide) (by decide +kernel) h
  revert h
  decide

/-! ### Images of word characters -/

/-- The characters of a stride are word characters. -/
def worded (s : Stride) : Bool :=
  (Nat.ble 0x80 s.first && Table.alphanumeric.any fun t =>
      t.step == 1 && t.first.ble s.first && s.last.ble t.last) ||
    s.members.all fun n => isWordChar (Char.ofNat n)

lemma isWordChar_of_worded {s : Stride} (h : worded s = true) (hc : s.contains c.toNat = true) :
    isWordChar c = true := by
  obtain ⟨hfirst, hlast, -⟩ := Stride.contains_iff.mp hc
  rw [worded, Bool.or_eq_true] at h
  rcases h with h | h
  · simp only [Bool.and_eq_true, List.any_eq_true, Nat.ble_eq, beq_iff_eq] at h
    obtain ⟨hpast, t, ht, ⟨hstep, hfrom⟩, hto⟩ := h
    rw [isWordChar, if_neg (by omega), List.any_eq_true]
    refine ⟨t, ht, Stride.contains_iff.mpr ⟨by omega, by omega, ?_⟩⟩
    rw [hstep, Nat.mod_one]
  · have := List.all_eq_true.mp h _ (Stride.mem_members hc)
    rwa [Char.ofNat_toNat] at this

/-- But for `İ`, word characters have one small image each, which is a word character. -/
lemma exists_lowerImage (hword : isWordChar c = true) (hc : c ≠ 'İ') :
    ∃ d, lowerImage c = [d] ∧ isWordChar d = true := by
  cases origin_lowerImage c with
  | ascii hascii himage =>
    refine ⟨c.toLower, himage, ?_⟩
    exact forall_ascii (fun c => isWordChar c = true → isWordChar c.toLower = true) (by decide)
      hascii hword
  | expanded hmem =>
    have hall : ∀ entry ∈ Table.lowerExpansions, entry.1 = 'İ'.toNat := by decide
    exact absurd (Char.toNat_inj.mp (hall _ hmem)) hc
  | shifted hs hd himage =>
    have hall : (imageStrides Table.lowerShifts).all worded = true := by decide +kernel
    exact ⟨_, himage, isWordChar_of_worded (List.all_eq_true.mp hall _ hs) hd⟩
  | same himage => exact ⟨c, himage, hword⟩

/-- Capitalization never erases a word character. -/
lemma exists_mem_upperImage (hword : isWordChar c = true) :
    ∃ d ∈ upperImage c, isWordChar d = true := by
  cases origin_upperImage c with
  | ascii hascii himage =>
    rw [himage]
    refine ⟨c.toUpper, List.mem_singleton_self _, ?_⟩
    exact forall_ascii (fun c => isWordChar c = true → isWordChar c.toUpper = true) (by decide)
      hascii hword
  | expanded hmem himage =>
    have hall : (Table.upperExpansions.all fun entry =>
        (entry.2.map Char.ofNat).any isWordChar) = true := by
      decide +kernel
    rw [himage]
    exact List.any_eq_true.mp (List.all_eq_true.mp hall _ hmem)
  | shifted hs hd himage =>
    have hall : (imageStrides Table.upperShifts).all worded = true := by decide +kernel
    rw [himage]
    exact ⟨_, List.mem_singleton_self _, isWordChar_of_worded (List.all_eq_true.mp hall _ hs) hd⟩
  | same himage =>
    rw [himage]
    exact ⟨c, List.mem_singleton_self _, hword⟩

/-- The word characters of an expansion are no single one whose small image expands to them. -/
def reversible (entry : Nat × List Nat) : Bool :=
  match (entry.2.map Char.ofNat).filter isWordChar with
  | [d] => lowerImage d != [Char.ofNat entry.1]
  | _ => true

/-- A character and its small image have the same capital image, if that one has no other word
character. -/
lemma upperImage_of_lowerImage (hword : (upperImage c).filter isWordChar = [d])
    (h : lowerImage d = [c]) : upperImage d = upperImage c := by
  have hsingle : ∀ z, upperImage c = [z] → upperImage d = upperImage c := by
    intro z hz
    obtain rfl : z = d := by
      have hmem : d ∈ (upperImage c).filter isWordChar := by simp [hword]
      simpa [hz, eq_comm] using (List.mem_filter.mp hmem).1
    rw [hz, upperImage_of_image hz]
  cases origin_upperImage c with
  | ascii _ himage => exact hsingle _ himage
  | expanded hmem himage =>
    have hall : Table.upperExpansions.all reversible = true := by decide +kernel
    have hreversible := List.all_eq_true.mp hall _ hmem
    rw [reversible, ← himage, hword] at hreversible
    simp [h] at hreversible
  | shifted _ _ himage => exact hsingle _ himage
  | same himage => exact hsingle _ himage

end RelationQuery.Text
