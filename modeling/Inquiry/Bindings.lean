set_option autoImplicit false

namespace Inquiry

structure Bindings (κ ν : Type) where
  entries : List (κ × ν)

namespace Bindings

variable {κ ν : Type}

def empty : Bindings κ ν := ⟨[]⟩

instance : Inhabited (Bindings κ ν) := ⟨empty⟩

def isEmpty (b : Bindings κ ν) : Bool := b.entries.isEmpty

def size (b : Bindings κ ν) : Nat := b.entries.length

def keys (b : Bindings κ ν) : List κ := b.entries.map Prod.fst

section
variable [LT κ] [DecidableLT κ] [DecidableEq κ]

def insertEntry (key : κ) (value : ν) : List (κ × ν) → List (κ × ν)
  | [] => [(key, value)]
  | (k, v) :: rest =>
      if key = k then (key, value) :: rest
      else if key < k then (key, value) :: (k, v) :: rest
      else (k, v) :: insertEntry key value rest

def insert (b : Bindings κ ν) (key : κ) (value : ν) : Bindings κ ν :=
  ⟨insertEntry key value b.entries⟩

def insertAll (b : Bindings κ ν) (entries : List (κ × ν)) : Bindings κ ν :=
  entries.foldl (fun table entry => table.insert entry.1 entry.2) b

end

def get? [DecidableEq κ] (b : Bindings κ ν) (key : κ) : Option ν := b.entries.lookup key

def last? (b : Bindings κ ν) : Option (κ × ν) := b.entries.getLast?

theorem lookup_first [DecidableEq κ] (key query : κ) (value : ν) (rest : List (κ × ν)) :
    ((key, value) :: rest).lookup query = if query = key then some value else rest.lookup query := by
  by_cases same : query = key
  · simp [same]
  · have differ : (query == key) = false := beq_false_of_ne same
    rw [List.lookup_cons, differ, if_neg same]

theorem lookup_insert_entry [LT κ] [DecidableLT κ] [DecidableEq κ] (key query : κ) (value : ν)
    (entries : List (κ × ν)) :
    (insertEntry key value entries).lookup query =
      if query = key then some value else entries.lookup query := by
  induction entries with
  | nil => rw [insertEntry, lookup_first]
  | cons entry rest ih =>
      obtain ⟨k, v⟩ := entry
      by_cases found : key = k
      · subst found
        rw [insertEntry, if_pos rfl, lookup_first, lookup_first]
        by_cases same : query = key <;> simp [same]
      · by_cases less : key < k
        · rw [insertEntry, if_neg found, if_pos less, lookup_first]
        · rw [insertEntry, if_neg found, if_neg less, lookup_first, lookup_first, ih]
          by_cases same : query = k
          · simp [same, Ne.symm found]
          · simp [same]

theorem get_insert [LT κ] [DecidableLT κ] [DecidableEq κ] (b : Bindings κ ν) (key query : κ)
    (value : ν) :
    (b.insert key value).get? query = if query = key then some value else b.get? query :=
  lookup_insert_entry key query value b.entries

end Bindings

end Inquiry
