import Mathlib.Algebra.Order.BigOperators.Group.List
import RelationQuery.Proofs.Query.ItemKeys
import RelationQuery.Proofs.Record.Columns
import RelationQuery.Proofs.Text.Conventions

/-!
Names that are brought into a convention twice. Into snake case the second time changes nothing, and
the keys that plans reserve for fields are those that records derive from their columns. Into camel
case it may: the capital letters that stand for words of one letter run together, and when the name
is read again they are taken for one word. So nothing changes exactly where all capital letters are
seen to start words; for the keys of a JSON value it is the same, since no key can take another's
place without one of them losing capital letters.
-/

namespace RelationQuery

namespace Text

lemma mem_of_mem_splitLastDot {text : List Char} {c : Char} (h : c ∈ (splitLastDot text).2) :
    c ∈ text := by
  induction text with
  | nil => exact h
  | cons d rest ih =>
    unfold splitLastDot at h
    split at h
    · rename_i hrest
      rw [hrest] at ih
      exact List.mem_cons_of_mem _ (ih h)
    · rename_i hrest
      rw [hrest] at ih
      split at h
      · exact List.mem_cons_of_mem _ (ih h)
      · exact List.mem_cons.mpr ((List.mem_cons.mp h).imp_right ih)

lemma Ascii.bareName {name : String} (h : Ascii name) : Ascii (bareName name) := by
  intro c hc
  rw [Text.bareName, splitQualified, String.toList_ofList] at hc
  exact h c (mem_of_mem_splitLastDot hc)

end Text

/-! ### Qualified names and selections -/

namespace FieldCase

variable {fieldCase : FieldCase} {name : String}

lemma apply_snake (h : Text.Ascii name) (fieldCase : FieldCase) :
    fieldCase.apply (Text.snake name) = fieldCase.apply name := by
  cases fieldCase with
  | snake => simp only [apply, Text.snake, String.toList_ofList, Text.snakeChars_snakeChars h]
  | camel =>
    simp only [apply, Text.camel, Text.snake, String.toList_ofList,
      Text.camelChars_snakeChars_of_ascii h]

lemma applyQualified_eq (fieldCase : FieldCase) (name : String) : fieldCase.applyQualified name =
    match (Text.splitQualified name).1 with
    | some qualifier => qualifier ++ "." ++ fieldCase.apply (Text.bareName name)
    | none => fieldCase.apply (Text.bareName name) := by
  unfold applyQualified Text.bareName
  rcases Text.splitQualified name with ⟨_ | qualifier, bare⟩ <;> rfl

/-- The qualifier has no part in it. -/
lemma applyQualified_twice_iff (h : Text.Undotted (fieldCase.apply (Text.bareName name))) :
    fieldCase.applyQualified (fieldCase.applyQualified name) = fieldCase.applyQualified name ↔
      fieldCase.apply (fieldCase.apply (Text.bareName name)) =
        fieldCase.apply (Text.bareName name) := by
  have hsplit := Text.splitQualified_applyQualified h
  rw [applyQualified_eq fieldCase (fieldCase.applyQualified name), Text.bareName, hsplit,
    applyQualified_eq fieldCase name]
  cases (Text.splitQualified name).1 with
  | none => exact Iff.rfl
  | some qualifier => simp

end FieldCase

namespace Selection

/-- The name of the column; raw SQL has none. -/
def name? : Selection → Option String
  | .column name => some name
  | .raw _ => none
  | .renamed name _ => some name

/-- Neither raw SQL nor another name for the column matters. -/
lemma convert_twice_iff (fieldCase : FieldCase) (asName : Option String) (s : Selection) :
    (s.convert fieldCase asName).convert fieldCase asName = s.convert fieldCase asName ↔
      ∀ name, s.name? = some name →
        fieldCase.applyQualified (fieldCase.applyQualified name) =
          fieldCase.applyQualified name := by
  cases s <;> cases asName <;> simp [convert, name?]

end Selection

/-- **Either convention absorbs snake case.** So bringing a column into snake case twice is the same
as doing it once, and the key that is reserved for a field is the one of its column. -/
theorem FieldCase.snake_absorbed {name : String} (hname : Text.Ascii name) {s : Selection}
    (hs : ∀ column, s.name? = some column → Text.Ascii column) (asName : Option String)
    (e : Entity) :
    (∀ fieldCase : FieldCase, fieldCase.apply (Text.snake name) = fieldCase.apply name) ∧
      snake.applyQualified (snake.applyQualified name) = snake.applyQualified name ∧
      (s.convert .snake asName).convert .snake asName = s.convert .snake asName ∧
      (Text.Undotted name →
        Plan.recordKey e ⟨(e.column name).name, false⟩ = e.fieldCase.apply name) := by
  have hqualified : ∀ column, Text.Ascii column →
      snake.applyQualified (snake.applyQualified column) = snake.applyQualified column := by
    intro column hcolumn
    have hundotted : Text.Undotted (snake.apply (Text.bareName column)) := Text.undotted_snake _
    exact (applyQualified_twice_iff hundotted).mpr (apply_snake hcolumn.bareName .snake)
  refine ⟨apply_snake hname, hqualified name hname, ?_, fun hundotted => ?_⟩
  · exact (Selection.convert_twice_iff ..).mpr fun column hcolumn =>
      hqualified column (hs column hcolumn)
  · rw [Plan.recordKey, Entity.name_column, Entity.bareName_columnName,
      Text.bareName_eq_self_iff.mpr hundotted]
    cases hcase : e.fieldCase with
    | snake => rfl
    | camel => exact apply_snake hname .camel

theorem FieldCase.snake_absorbed_userId :
    let name := "2ndHTTPUser--Id_"
    let s := Selection.renamed "u.createdAt2" "made"
    let e : Entity := { name := "user", table := "users", asName := "u", fieldCase := .camel }
    Text.Ascii name ∧ (∀ column, s.name? = some column → Text.Ascii column) ∧
      (∀ fieldCase : FieldCase, fieldCase.apply (Text.snake name) = fieldCase.apply name) ∧
      snake.applyQualified (snake.applyQualified name) = snake.applyQualified name ∧
      (s.convert .snake none).convert .snake none = s.convert .snake none ∧
      Text.Undotted name ∧ (e.column name).name = "2nd_http_user_id" ∧
      Plan.recordKey e ⟨(e.column name).name, false⟩ = e.fieldCase.apply name := by
  intro name s e
  have hname : Text.Ascii name := by decide
  have hs : ∀ column, s.name? = some column → Text.Ascii column := by
    intro column hcolumn
    rw [← Option.some.inj hcolumn]
    decide
  have hundotted : Text.Undotted name := by decide
  obtain ⟨happly, hqualified, hconvert, hkey⟩ := snake_absorbed hname hs none e
  exact ⟨hname, hs, happly, hqualified, hconvert, hundotted, by decide +kernel, hkey hundotted⟩

/-! ### The keys of JSON values -/

namespace Json

mutual

/-- The keys of all objects in a value, at any depth. -/
def keys : Json → List String
  | .array items => itemKeys items
  | .object members => memberKeys members
  | _ => []

def itemKeys : List Json → List String
  | [] => []
  | item :: rest => keys item ++ itemKeys rest

def memberKeys : List (String × Json) → List String
  | [] => []
  | (key, value) :: rest => key :: (keys value ++ memberKeys rest)

end

variable {fieldCase : FieldCase} {items : List Json} {members : List (String × Json)}

lemma forall_keys_array {p : String → Prop} :
    (∀ key ∈ (array items).keys, p key) ↔ ∀ item ∈ items, ∀ key ∈ item.keys, p key := by
  rw [keys]
  induction items with
  | nil => simp [itemKeys]
  | cons item rest ih => rw [itemKeys, List.forall_mem_append, List.forall_mem_cons, ih]

lemma forall_keys_object {p : String → Prop} :
    (∀ key ∈ (object members).keys, p key) ↔
      ∀ member ∈ members, p member.1 ∧ ∀ key ∈ member.2.keys, p key := by
  rw [keys]
  induction members with
  | nil => simp [memberKeys]
  | cons member rest ih =>
    rw [memberKeys, List.forall_mem_cons, List.forall_mem_append, List.forall_mem_cons, ih,
      and_assoc]

lemma convertKeys_array : convertKeys fieldCase (array items) =
    array (items.map (convertKeys fieldCase)) := by
  rw [convertKeys]
  congr 1
  induction items with
  | nil => rfl
  | cons item rest ih => rw [convertItems, ih, List.map_cons]

/-- What holds of a value if it holds of the values in it, holds of all values. -/
theorem induction {p : Json → Prop} (scalar : ∀ json, json.isScalar = true → p json)
    (array : ∀ items, (∀ item ∈ items, p item) → p (array items))
    (object : ∀ members, (∀ member ∈ members, p member.2) → p (object members)) (json : Json) :
    p json :=
  match json with
  | .null => scalar _ rfl
  | .bool _ => scalar _ rfl
  | .integer _ => scalar _ rfl
  | .real _ => scalar _ rfl
  | .text _ => scalar _ rfl
  | .array items => array items fun item _ => induction scalar array object item
  | .object members => object members fun member _ => induction scalar array object member.2
termination_by json
decreasing_by
  · rename_i hitem
    have := List.sizeOf_lt_of_mem hitem
    simp only [Json.array.sizeOf_spec]
    omega
  · rename_i hmember
    have := List.sizeOf_lt_of_mem hmember
    obtain ⟨key, value⟩ := member
    simp only [Prod.mk.sizeOf_spec, Json.object.sizeOf_spec] at *
    omega

end Json

/-- Names in camel case that only take each other's places stay in their own. -/
lemma Text.camel_eq_self_of_perm {names : List String}
    (hnames : ∀ name ∈ names, Text.AsciiWord name.toList)
    (hperm : (names.map Text.camel).Perm names) : ∀ name ∈ names, Text.camel name = name := by
  have hchars : ∀ name ∈ names,
      (Text.camel name).toList = Text.respell .boundary name.toList := fun name hname => by
    rw [Text.camel, String.toList_ofList, Text.camelChars_run (hnames name hname)]
  -- the capital letters of all names, counted before and after
  let capitals (name : String) : Nat := name.toList.countP Text.isUpper
  have hle : ∀ name ∈ names, capitals (Text.camel name) ≤ capitals name := fun name hname => by
    simp only [capitals, hchars name hname]
    exact Text.countP_respell_le _ (hnames name hname)
  have hsum : (names.map fun name => capitals (Text.camel name)).sum =
      (names.map capitals).sum := by
    have := (hperm.map capitals).sum_eq
    rwa [List.map_map] at this
  intro name hname
  have hsame : capitals (Text.camel name) = capitals name := by
    by_contra hne
    have := List.sum_lt_sum _ _ hle ⟨name, hname, Nat.lt_of_le_of_ne (hle name hname) hne⟩
    omega
  simp only [capitals, hchars name hname] at hsame
  rw [← String.toList_inj, hchars name hname]
  exact Text.respell_eq_self_of_countP _ (hnames name hname) hsame

namespace Json

/-- Members whose keys are spelt in camel case stay as they are exactly if they do so one by one. -/
lemma ofList_respelt_iff {pairs : List (String × Json)}
    (hkeys : ∀ pair ∈ pairs, Text.AsciiWord pair.1.toList) :
    let members := Members.ofList pairs
    Members.ofList (members.map fun member =>
        (Text.camel member.1, convertKeys .camel member.2)) = members ↔
      ∀ member ∈ members, Text.camel member.1 = member.1 ∧
        convertKeys .camel member.2 = member.2 := by
  intro members
  have hrespelt : (members.map fun member =>
      (Text.camel member.1, convertKeys .camel member.2)).map Prod.fst =
        (members.map Prod.fst).map Text.camel := by
    rw [List.map_map, List.map_map]
    rfl
  constructor
  · intro hsame
    -- nothing is lost, so the old keys are the new ones in another order
    have hnodup : ((members.map Prod.fst).map Text.camel).Nodup := by
      rw [← hrespelt, ← Members.length_ofList_eq_iff, hsame, List.length_map]
    have hperm : ((members.map Prod.fst).map Text.camel).Perm (members.map Prod.fst) := by
      have hkeys : (members.map Prod.fst).Perm _ := hsame ▸ Members.keys_ofList_perm
      rw [hrespelt, hnodup.dedup] at hkeys
      exact hkeys.symm
    have hfixed : ∀ member ∈ members, Text.camel member.1 = member.1 := by
      intro member hmember
      refine Text.camel_eq_self_of_perm ?_ hperm member.1 (List.mem_map_of_mem hmember)
      rw [List.forall_mem_map]
      exact fun m hm => hkeys m (Members.mem_of_mem_ofList hm)
    have hkept : (members.map Prod.fst).map Text.camel = members.map Prod.fst := by
      rw [List.map_map]
      exact List.map_congr_left hfixed
    have hascending : ((members.map Prod.fst).map Text.camel).Pairwise (· < ·) := by
      rw [hkept]
      exact Members.ascending_ofList
    rw [Members.ofList_of_ascending (hrespelt ▸ hascending)] at hsame
    intro member hmember
    have hvalue := List.map_inj_left.mp (hsame.trans (List.map_id members).symm) member hmember
    exact ⟨hfixed member hmember, congrArg Prod.snd hvalue⟩
  · intro hfixed
    have hsame : (members.map fun member =>
        (Text.camel member.1, convertKeys .camel member.2)) = members := by
      conv_rhs => rw [← List.map_id members]
      refine List.map_congr_left fun member hmember => ?_
      rw [(hfixed member hmember).1, (hfixed member hmember).2]
      rfl
    rw [hsame, Members.ofList_of_ascending Members.ascending_ofList]

/-- Keys in camel case stay as they are exactly if each of them does. -/
theorem convertKeys_camel_twice_iff {json : Json} (h : ∀ key ∈ json.keys, Text.Ascii key) :
    convertKeys .camel (convertKeys .camel json) = convertKeys .camel json ↔
      ∀ key ∈ (convertKeys .camel json).keys, Text.Legible key := by
  induction json using Json.induction with
  | scalar json hscalar => cases json <;> simp_all [isScalar, convertKeys, keys]
  | array items ih =>
    rw [forall_keys_array] at h
    rw [convertKeys_array, convertKeys_array, forall_keys_array, Json.array.injEq, List.map_map,
      List.map_inj_left, List.forall_mem_map]
    exact forall₂_congr fun item hitem => ih item hitem (h item hitem)
  | object members ih =>
    rw [forall_keys_object] at h
    let pairs := members.map fun member =>
      (FieldCase.camel.apply member.1, convertKeys .camel member.2)
    have hpair : ∀ pair ∈ Members.ofList pairs, ∃ member ∈ members,
        (Text.camel member.1, convertKeys .camel member.2) = pair := fun pair hmem =>
      List.mem_map.mp (Members.mem_of_mem_ofList hmem)
    have hkeys : ∀ pair ∈ pairs, Text.AsciiWord pair.1.toList := by
      rw [List.forall_mem_map]
      intro member hmember
      simp only [FieldCase.apply, Text.camel, String.toList_ofList]
      exact Text.asciiWord_camelChars (h member hmember).1
    rw [convertKeys_object, convertKeys_object, forall_keys_object, Json.object.injEq]
    refine (ofList_respelt_iff hkeys).trans (forall₂_congr fun pair hmem => ?_)
    obtain ⟨member, hmember, rfl⟩ := hpair pair hmem
    obtain ⟨hkey, hvalue⟩ := h member hmember
    exact and_congr (Text.camel_camel_iff hkey) (ih member hmember hvalue)

end Json

/-- **Where camel case changes nothing when it is applied again**: exactly where every capital
letter is seen to start a word. The same holds of qualified names, of columns, and of all keys of a
JSON value. -/
theorem FieldCase.camel_twice_iff {name : String} (hname : Text.Ascii name) {s : Selection}
    (hs : ∀ column, s.name? = some column → Text.Ascii column) (asName : Option String)
    {json : Json} (hjson : ∀ key ∈ json.keys, Text.Ascii key) :
    (Text.camel (Text.camel name) = Text.camel name ↔ Text.Legible (Text.camel name)) ∧
      (camel.applyQualified (camel.applyQualified name) = camel.applyQualified name ↔
        Text.Legible (Text.camel (Text.bareName name))) ∧
      ((s.convert .camel asName).convert .camel asName = s.convert .camel asName ↔
        ∀ column, s.name? = some column → Text.Legible (Text.camel (Text.bareName column))) ∧
      (Json.convertKeys .camel (Json.convertKeys .camel json) = Json.convertKeys .camel json ↔
        ∀ key ∈ (Json.convertKeys .camel json).keys, Text.Legible key) := by
  have hqualified : ∀ column, Text.Ascii column →
      (camel.applyQualified (camel.applyQualified column) = camel.applyQualified column ↔
        Text.Legible (Text.camel (Text.bareName column))) := by
    intro column hcolumn
    have hundotted : Text.Undotted (camel.apply (Text.bareName column)) :=
      Text.undotted_camel hcolumn.bareName
    exact (applyQualified_twice_iff hundotted).trans (Text.camel_camel_iff hcolumn.bareName)
  refine ⟨Text.camel_camel_iff hname, hqualified name hname, ?_,
    Json.convertKeys_camel_twice_iff hjson⟩
  rw [Selection.convert_twice_iff]
  exact forall₂_congr fun column hcolumn => hqualified column (hs column hcolumn)

theorem FieldCase.camel_twice_createdAt :
    let name := "u.created_by_id2"
    let s := Selection.column "p.HTTP_status"
    let json := Json.object [("user_id", .array [.object [("first_name", .null)]])]
    Text.Ascii name ∧ (∀ column, s.name? = some column → Text.Ascii column) ∧
      (∀ key ∈ json.keys, Text.Ascii key) ∧
      Text.camel (Text.camel name) = Text.camel name ∧
      camel.applyQualified (camel.applyQualified name) = camel.applyQualified name ∧
      (s.convert .camel none).convert .camel none = s.convert .camel none ∧
      Json.convertKeys .camel (Json.convertKeys .camel json) = Json.convertKeys .camel json := by
  intro name s json
  have hname : Text.Ascii name := by decide
  have hs : ∀ column, s.name? = some column → Text.Ascii column := by
    intro column hcolumn
    rw [← Option.some.inj hcolumn]
    decide
  have hjson : ∀ key ∈ json.keys, Text.Ascii key := by decide
  obtain ⟨hbare, hqualified, hselection, hkeys⟩ := camel_twice_iff hname hs none hjson
  refine ⟨hname, hs, hjson, hbare.mpr (by decide), hqualified.mpr (by decide),
    hselection.mpr ?_, hkeys.mpr ?_⟩
  · intro column hcolumn
    rw [← Option.some.inj hcolumn]
    decide
  · decide

/-- Two words of one letter run together: `a_b_c` is `aBC`, which is read as `aBc`. -/
theorem FieldCase.words_of_one_letter_merge :
    let json := Json.convertKeys .camel (.object [("a_b_c", .null)])
    Text.Ascii "a_b_c" ∧ Text.camel "a_b_c" = "aBC" ∧
      Text.camel (Text.camel "a_b_c") ≠ Text.camel "a_b_c" ∧
      camel.applyQualified (camel.applyQualified "t.a_b_c") ≠ camel.applyQualified "t.a_b_c" ∧
      json.keys = ["aBC"] ∧ (Json.convertKeys .camel json).keys = ["aBc"] := by
  decide

end RelationQuery
