import Inquiry.Bindings

set_option autoImplicit false

namespace Inquiry.Bindings

variable {κ ν : Type}

section Keys

variable [LT κ] [DecidableLT κ] [DecidableEq κ]

def insertKey (key : κ) : List κ → List κ
  | [] => [key]
  | k :: rest =>
      if key = k then key :: rest
      else if key < k then key :: k :: rest
      else k :: insertKey key rest

theorem keys_insert_entry (key : κ) (value : ν) (entries : List (κ × ν)) :
    (insertEntry key value entries).map Prod.fst = insertKey key (entries.map Prod.fst) := by
  induction entries with
  | nil => rfl
  | cons entry rest ih =>
      obtain ⟨k, v⟩ := entry
      by_cases same : key = k
      · simp [insertEntry, insertKey, same]
      · by_cases less : key < k
        · simp [insertEntry, insertKey, same, less]
        · simp [insertEntry, insertKey, same, less, ih]

theorem keys_insert (b : Bindings κ ν) (key : κ) (value : ν) :
    (b.insert key value).keys = insertKey key b.keys :=
  keys_insert_entry key value b.entries

theorem keys_insert_all (b : Bindings κ ν) (entries : List (κ × ν)) :
    (b.insertAll entries).keys =
      (entries.map Prod.fst).foldl (fun keys key => insertKey key keys) b.keys := by
  induction entries generalizing b with
  | nil => rfl
  | cons entry rest ih =>
      rw [insertAll, List.foldl_cons, ← insertAll, ih, keys_insert, List.map_cons, List.foldl_cons]

theorem mem_insert_key (key query : κ) (keys : List κ) :
    query ∈ insertKey key keys ↔ query = key ∨ query ∈ keys := by
  induction keys with
  | nil => simp [insertKey]
  | cons k rest ih =>
      by_cases same : key = k
      · simp [insertKey, same]
      · by_cases less : key < k
        · simp [insertKey, same, less]
        · rw [insertKey, if_neg same, if_neg less, List.mem_cons, ih, List.mem_cons]
          exact or_left_comm

theorem mem_keys_insert_all (b : Bindings κ ν) (entries : List (κ × ν)) (query : κ) :
    query ∈ (b.insertAll entries).keys ↔ query ∈ entries.map Prod.fst ∨ query ∈ b.keys := by
  induction entries generalizing b with
  | nil => simp [insertAll]
  | cons entry rest ih =>
      rw [insertAll, List.foldl_cons, ← insertAll, ih, keys_insert, mem_insert_key, List.map_cons,
        List.mem_cons]
      exact or_left_comm.trans or_assoc.symm

theorem get_insert_all (b : Bindings κ ν) (entries : List (κ × ν)) (query : κ) :
    (b.insertAll entries).get? query = (entries.reverse.lookup query).or (b.get? query) := by
  induction entries generalizing b with
  | nil => rfl
  | cons entry rest ih =>
      obtain ⟨key, value⟩ := entry
      rw [insertAll, List.foldl_cons, ← insertAll, ih, get_insert, List.reverse_cons,
        List.lookup_append, Option.or_assoc, lookup_first]
      by_cases same : query = key <;> simp [same]

theorem insert_all_append (b : Bindings κ ν) (before after : List (κ × ν)) :
    b.insertAll (before ++ after) = (b.insertAll before).insertAll after :=
  List.foldl_append

end Keys

theorem get_empty [DecidableEq κ] (query : κ) : (empty : Bindings κ ν).get? query = none := rfl

section Order

variable [LT κ] [DecidableLT κ] [DecidableEq κ] [LE κ] [Std.IsLinearOrder κ] [Std.LawfulOrderLT κ]

theorem insert_key_ascending (key : κ) (keys : List κ) (ascending : keys.Pairwise (· < ·)) :
    (insertKey key keys).Pairwise (· < ·) := by
  induction keys with
  | nil => exact List.pairwise_singleton _ _
  | cons k rest ih =>
      obtain ⟨above, restAscending⟩ := List.pairwise_cons.mp ascending
      by_cases same : key = k
      · subst same
        rw [insertKey, if_pos rfl]
        exact ascending
      · by_cases less : key < k
        · rw [insertKey, if_neg same, if_pos less]
          refine List.pairwise_cons.mpr ⟨?_, ascending⟩
          intro other member
          rcases List.mem_cons.mp member with rfl | member
          · exact less
          · exact Std.lt_trans less (above other member)
        · rw [insertKey, if_neg same, if_neg less]
          refine List.pairwise_cons.mpr ⟨?_, ih restAscending⟩
          intro other member
          rcases (mem_insert_key key other rest).mp member with rfl | member
          · exact Std.lt_of_le_of_ne (Std.not_lt.mp less) (Ne.symm same)
          · exact above other member

theorem insert_entry_above (key : κ) (value : ν) (entries : List (κ × ν))
    (below : ∀ k ∈ entries.map Prod.fst, k < key) :
    insertEntry key value entries = entries ++ [(key, value)] := by
  induction entries with
  | nil => rfl
  | cons entry rest ih =>
      obtain ⟨k, v⟩ := entry
      obtain ⟨less, restBelow⟩ := List.forall_mem_cons.mp below
      rw [insertEntry, if_neg (Std.ne_of_lt less).symm, if_neg (Std.not_lt.mpr (Std.le_of_lt less)),
        ih restBelow, List.cons_append]

theorem insert_all_above (b : Bindings κ ν) (entries : List (κ × ν))
    (ascending : ((b.entries ++ entries).map Prod.fst).Pairwise (· < ·)) :
    (b.insertAll entries).entries = b.entries ++ entries := by
  induction entries generalizing b with
  | nil => exact (List.append_nil _).symm
  | cons entry rest ih =>
      have below : ∀ k ∈ b.entries.map Prod.fst, k < entry.1 := by
        rw [List.map_append, List.pairwise_append] at ascending
        exact fun k member => ascending.2.2 k member entry.1 List.mem_cons_self
      have appended : (b.insert entry.1 entry.2).entries = b.entries ++ [entry] :=
        insert_entry_above entry.1 entry.2 b.entries below
      rw [List.append_cons, ← appended] at ascending
      rw [List.append_cons, ← appended]
      exact ih (b.insert entry.1 entry.2) ascending

end Order

theorem mem_entries_iff [DecidableEq κ] [LT κ] [LE κ] [Std.LawfulOrderLT κ] (b : Bindings κ ν)
    (ascending : b.keys.Pairwise (· < ·)) (key : κ) (value : ν) :
    (key, value) ∈ b.entries ↔ b.get? key = some value := by
  obtain ⟨entries⟩ := b
  rw [get?]
  induction entries with
  | nil => simp
  | cons entry rest ih =>
      obtain ⟨k, v⟩ := entry
      obtain ⟨above, restAscending⟩ := List.pairwise_cons.mp ascending
      rw [lookup_first, List.mem_cons, Prod.mk.injEq]
      by_cases same : key = k
      · subst same
        have absent : (key, value) ∉ rest := fun member =>
          Std.lt_irrefl (above key (List.mem_map_of_mem member))
        simp [absent, eq_comm]
      · simp [same, ih restAscending]

def Ascending (b : Bindings Nat ν) : Prop := b.keys.Pairwise (· < ·)

theorem empty_ascending : (empty : Bindings Nat ν).Ascending := .nil

theorem insert_all_ascending (b : Bindings Nat ν) (entries : List (Nat × ν))
    (ascending : b.Ascending) : (b.insertAll entries).Ascending := by
  induction entries generalizing b with
  | nil => exact ascending
  | cons entry rest ih =>
      refine ih (b.insert entry.1 entry.2) ?_
      rw [Ascending, keys_insert]
      exact insert_key_ascending entry.1 b.keys ascending

def greatest (b : Bindings Nat ν) : Nat := (b.last?.map Prod.fst).getD 0

theorem greatest_eq_last_key (b : Bindings Nat ν) : b.greatest = b.keys.getLast?.getD 0 := by
  rw [greatest, last?, keys, List.getLast?_map]

theorem last_le_iff (keys : List Nat) (ascending : keys.Pairwise (· < ·)) (bound : Nat) :
    keys.getLast?.getD 0 ≤ bound ↔ ∀ key ∈ keys, key ≤ bound := by
  induction keys with
  | nil => simp
  | cons k rest ih =>
      obtain ⟨above, restAscending⟩ := List.pairwise_cons.mp ascending
      cases rest with
      | nil => simp
      | cons next tail =>
          rw [List.getLast?_cons_cons, ih restAscending]
          constructor
          · intro all key member
            rcases List.mem_cons.mp member with rfl | member
            · have first := above next (List.mem_cons_self ..)
              have second := all next (List.mem_cons_self ..)
              omega
            · exact all key member
          · intro all key member
            exact all key (List.mem_cons_of_mem k member)

theorem greatest_le_iff (b : Bindings Nat ν) (ascending : b.Ascending) (bound : Nat) :
    b.greatest ≤ bound ↔ ∀ key ∈ b.keys, key ≤ bound := by
  rw [greatest_eq_last_key]
  exact last_le_iff b.keys ascending bound

end Inquiry.Bindings
