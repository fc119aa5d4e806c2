/-!
Members under distinct keys, kept in ascending order of the keys. Strings are ordered by their
code points, which is also the order of their UTF-8 bytes.
-/

namespace RelationQuery.Members

variable {α : Type}

/-- Puts a value under a key; a value already there gives way. -/
def insert (key : String) (value : α) : List (String × α) → List (String × α)
  | [] => [(key, value)]
  | (k, v) :: rest =>
    if key = k then (key, value) :: rest
    else if key < k then (key, value) :: (k, v) :: rest
    else (k, v) :: insert key value rest

/-- Inserts one pair after the other, so of equal keys the last stays. -/
def insertAll (members pairs : List (String × α)) : List (String × α) :=
  pairs.foldl (fun members pair => insert pair.1 pair.2 members) members

def ofList (pairs : List (String × α)) : List (String × α) := insertAll [] pairs

/-- The value under a key. -/
def get? (key : String) (members : List (String × α)) : Option α := members.lookup key

theorem get?_nil (key : String) : get? key ([] : List (String × α)) = none := rfl

theorem get?_cons (key k : String) (v : α) (rest : List (String × α)) :
    get? key ((k, v) :: rest) = if key = k then some v else get? key rest := by
  by_cases h : key = k
  · simp [get?, h]
  · have : (key == k) = false := by simpa using h
    simp [get?, List.lookup_cons, h, this]

theorem get?_insert_self (key : String) (value : α) (members : List (String × α)) :
    get? key (insert key value members) = some value := by
  induction members with
  | nil => simp [insert, get?_cons]
  | cons pair rest ih =>
    obtain ⟨k, v⟩ := pair
    unfold insert
    split
    · simp [get?_cons]
    · split <;> simp_all [get?_cons]

theorem get?_insert_of_ne {key other : String} (h : other ≠ key) (value : α)
    (members : List (String × α)) : get? other (insert key value members) = get? other members := by
  induction members with
  | nil => simp [insert, get?_cons, h]
  | cons pair rest ih =>
    obtain ⟨k, v⟩ := pair
    unfold insert
    split
    · rename_i same
      subst same
      simp [get?_cons, h]
    · split
      · simp [get?_cons, h]
      · simp [get?_cons, ih]

theorem insertAll_cons (members : List (String × α)) (pair : String × α)
    (pairs : List (String × α)) :
    insertAll members (pair :: pairs) = insertAll (insert pair.1 pair.2 members) pairs := rfl

theorem insertAll_append (members first second : List (String × α)) :
    insertAll members (first ++ second) = insertAll (insertAll members first) second :=
  List.foldl_append

/-- Inserting brings in one key and drops none. -/
theorem mem_keys_insert {key other : String} {value : α} {members : List (String × α)} :
    other ∈ (insert key value members).map Prod.fst ↔
      other = key ∨ other ∈ members.map Prod.fst := by
  induction members with
  | nil => simp [insert]
  | cons pair rest ih =>
    obtain ⟨k, v⟩ := pair
    unfold insert
    split
    · rename_i same
      subst same
      simp
    · split
      · simp
      · simp only [List.map_cons, List.mem_cons, ih]
        exact or_left_comm

end RelationQuery.Members
