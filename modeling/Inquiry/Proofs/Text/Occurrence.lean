import Inquiry.Text.Bytes

set_option autoImplicit false

namespace Inquiry.Text

def FirstAfter (pattern cs before : List Char) : Prop :=
  (∃ after, cs = before ++ pattern ++ after) ∧
    ∀ x y, cs = x ++ pattern ++ y → before.length ≤ x.length

theorem first_after_unique (pattern cs a b : List Char) (first : FirstAfter pattern cs a)
    (second : FirstAfter pattern cs b) : a = b := by
  obtain ⟨⟨afterA, eqA⟩, leastA⟩ := first
  obtain ⟨⟨afterB, eqB⟩, leastB⟩ := second
  have same : a.length = b.length := Nat.le_antisymm (leastA b afterB eqB) (leastB a afterA eqA)
  rw [eqB, List.append_assoc, List.append_assoc] at eqA
  exact (List.append_inj_left eqA same.symm).symm

theorem first_after_nil (pattern cs : List Char) (begins : ∃ after, cs = pattern ++ after) :
    FirstAfter pattern cs [] :=
  ⟨begins, fun _ _ _ => Nat.zero_le _⟩

theorem first_after_cons_iff (pattern rest before : List Char) (c : Char)
    (absent : ¬ ∃ after, c :: rest = pattern ++ after) :
    FirstAfter pattern (c :: rest) before ↔
      ∃ shorter, before = c :: shorter ∧ FirstAfter pattern rest shorter := by
  constructor
  · intro first
    obtain ⟨⟨after, eq⟩, least⟩ := first
    cases before with
    | nil => exact absurd ⟨after, eq⟩ absent
    | cons d shorter =>
        obtain ⟨rfl, restEq⟩ := List.cons.inj eq
        refine ⟨shorter, rfl, ⟨after, restEq⟩, ?_⟩
        intro x y occurs
        have bound := least (c :: x) y (congrArg (c :: ·) occurs)
        simpa using bound
  · intro later
    obtain ⟨shorter, rfl, ⟨after, restEq⟩, least⟩ := later
    refine ⟨⟨after, congrArg (c :: ·) restEq⟩, ?_⟩
    intro x y occurs
    cases x with
    | nil => exact absurd ⟨y, occurs⟩ absent
    | cons d x =>
        obtain ⟨rfl, restOccurs⟩ := List.cons.inj occurs
        exact Nat.succ_le_succ (least x y restOccurs)

def before? (pattern : List Char) : List Char → Option (List Char)
  | [] => if pattern.isEmpty then some [] else none
  | c :: rest =>
      if pattern.isPrefixOf (c :: rest) then some []
      else (before? pattern rest).map fun before => c :: before

theorem prefix_iff (pattern cs : List Char) :
    pattern.isPrefixOf cs = true ↔ ∃ after, cs = pattern ++ after := by
  rw [List.isPrefixOf_iff_prefix]
  exact ⟨fun ⟨after, eq⟩ => ⟨after, eq.symm⟩, fun ⟨after, eq⟩ => ⟨after, eq.symm⟩⟩

theorem before_iff (pattern cs before : List Char) :
    before? pattern cs = some before ↔ FirstAfter pattern cs before := by
  induction cs generalizing before with
  | nil =>
      rw [before?]
      cases pattern with
      | nil =>
          have here := first_after_nil [] [] ⟨[], rfl⟩
          simp only [List.isEmpty_nil, if_true, Option.some.injEq]
          exact ⟨fun eq => eq ▸ here, first_after_unique [] [] [] before here⟩
      | cons p rest => simp [FirstAfter]
  | cons c rest ih =>
      rw [before?]
      by_cases begins : pattern.isPrefixOf (c :: rest) = true
      · have here := first_after_nil pattern (c :: rest) ((prefix_iff _ _).mp begins)
        rw [if_pos begins, Option.some.injEq]
        exact ⟨fun eq => eq ▸ here, first_after_unique pattern (c :: rest) [] before here⟩
      · have absent := fun starts => begins ((prefix_iff pattern (c :: rest)).mpr starts)
        rw [if_neg begins, first_after_cons_iff pattern rest before c absent,
          Option.map_eq_some_iff]
        simp only [ih, eq_comm, and_comm]

theorem before_none_iff (pattern cs : List Char) :
    before? pattern cs = none ↔ ¬ pattern <:+: cs := by
  induction cs with
  | nil => cases pattern <;> simp [before?]
  | cons c rest ih =>
      rw [before?, List.infix_cons_iff, ← List.isPrefixOf_iff_prefix, not_or, ← ih]
      cases pattern.isPrefixOf (c :: rest) <;> simp

theorem find_eq (pattern cs : List Char) : find? pattern cs = (before? pattern cs).map byteSize := by
  induction cs with
  | nil =>
      rw [find?, before?]
      split <;> rfl
  | cons c rest ih =>
      rw [find?, before?, ih]
      split
      · rfl
      · rw [Option.map_map, Option.map_map]
        rfl

theorem replace_first_eq (pattern replacement cs : List Char) :
    replaceFirst? pattern replacement cs = (before? pattern cs).map fun before =>
      before ++ replacement ++ cs.drop (before.length + pattern.length) := by
  induction cs with
  | nil =>
      rw [replaceFirst?, before?]
      split <;> simp
  | cons c rest ih =>
      rw [replaceFirst?, before?, ih]
      split
      · simp
      · rw [Option.map_map, Option.map_map]
        refine congrArg (Option.map · (before? pattern rest)) (funext fun before => ?_)
        simp [Nat.add_right_comm]

theorem find_iff (pattern cs : List Char) (n : Nat) :
    find? pattern cs = some n ↔ ∃ before, FirstAfter pattern cs before ∧ byteSize before = n := by
  rw [find_eq, Option.map_eq_some_iff]
  simp only [before_iff]

theorem replace_first_iff (pattern replacement cs out : List Char) :
    replaceFirst? pattern replacement cs = some out ↔
      ∃ before after, FirstAfter pattern cs before ∧ cs = before ++ pattern ++ after ∧
        out = before ++ replacement ++ after := by
  rw [replace_first_eq, Option.map_eq_some_iff]
  constructor
  · intro replaced
    obtain ⟨before, found, rfl⟩ := replaced
    have first := (before_iff pattern cs before).mp found
    obtain ⟨⟨after, eq⟩, -⟩ := first
    refine ⟨before, after, (before_iff pattern cs before).mp found, eq, ?_⟩
    rw [eq, ← List.length_append, List.drop_left]
  · intro stands
    obtain ⟨before, after, first, eq, rfl⟩ := stands
    refine ⟨before, (before_iff pattern cs before).mpr first, ?_⟩
    rw [eq, ← List.length_append, List.drop_left]

theorem replace_first_none_iff (pattern replacement cs : List Char) :
    replaceFirst? pattern replacement cs = none ↔ ¬ pattern <:+: cs := by
  rw [replace_first_eq, Option.map_eq_none_iff, before_none_iff]

theorem byte_size_zero_iff (cs : List Char) : byteSize cs = 0 ↔ cs = [] := by
  cases cs with
  | nil => simp [byteSize]
  | cons c rest =>
      have positive := c.utf8Size_pos
      simp only [byteSize, List.cons_ne_nil, iff_false]
      omega

theorem split_bytes_zero (cs before after : List Char) :
    splitBytes? 0 cs = some (before, after) ↔ cs = before ++ after ∧ byteSize before = 0 := by
  have start : splitBytes? 0 cs = some ([], cs) := by cases cs <;> rfl
  rw [start, byte_size_zero_iff]
  constructor
  · intro eq
    obtain ⟨rfl, rfl⟩ := Prod.mk.inj (Option.some.inj eq)
    exact ⟨rfl, rfl⟩
  · intro nothing
    obtain ⟨rfl, rfl⟩ := nothing
    rfl

theorem split_bytes_iff (n : Nat) (cs before after : List Char) :
    splitBytes? n cs = some (before, after) ↔ cs = before ++ after ∧ byteSize before = n := by
  induction cs generalizing n before with
  | nil =>
      cases n with
      | zero => exact split_bytes_zero [] before after
      | succ n =>
          simp only [splitBytes?, reduceCtorEq, false_iff, not_and]
          intro empty
          rw [(List.append_eq_nil_iff.mp empty.symm).1]
          exact Nat.succ_ne_zero n ∘ Eq.symm
  | cons c rest ih =>
      cases n with
      | zero => exact split_bytes_zero (c :: rest) before after
      | succ n =>
          have positive := c.utf8Size_pos
          rw [splitBytes?]
          constructor
          · intro split
            by_cases fits : c.utf8Size ≤ n + 1
            · rw [if_pos fits, Option.map_eq_some_iff] at split
              obtain ⟨⟨shorter, tail⟩, found, eq⟩ := split
              obtain ⟨rfl, rfl⟩ := Prod.mk.inj eq
              obtain ⟨rfl, size⟩ := (ih _ _).mp found
              refine ⟨rfl, ?_⟩
              rw [byteSize, size]
              omega
            · rw [if_neg fits] at split
              cases split
          · intro cut
            obtain ⟨eq, size⟩ := cut
            cases before with
            | nil => cases size
            | cons d shorter =>
                obtain ⟨rfl, restEq⟩ := List.cons.inj eq
                rw [byteSize] at size
                have fits : c.utf8Size ≤ n + 1 := by omega
                have tail : byteSize shorter = n + 1 - c.utf8Size := by omega
                rw [if_pos fits, (ih _ shorter).mpr ⟨restEq, tail⟩]
                rfl

theorem slice_iff (start stop : Nat) (cs inside : List Char) :
    slice? start stop cs = some inside ↔
      ∃ before after, cs = before ++ inside ++ after ∧ byteSize before = start ∧
        byteSize inside = stop - start := by
  rw [slice?, Option.bind_eq_some_iff]
  constructor
  · intro sliced
    obtain ⟨⟨before, rest⟩, split, found⟩ := sliced
    obtain ⟨⟨middle, after⟩, splitRest, eq⟩ := Option.map_eq_some_iff.mp found
    obtain rfl : middle = inside := eq
    obtain ⟨rfl, start⟩ := (split_bytes_iff _ _ _ _).mp split
    obtain ⟨rfl, size⟩ := (split_bytes_iff _ _ _ _).mp splitRest
    exact ⟨before, after, (List.append_assoc ..).symm, start, size⟩
  · intro stands
    obtain ⟨before, after, rfl, start, size⟩ := stands
    refine ⟨(before, inside ++ after), ?_, Option.map_eq_some_iff.mpr ⟨(inside, after), ?_, rfl⟩⟩
    · exact (split_bytes_iff _ _ _ _).mpr ⟨List.append_assoc .., start⟩
    · exact (split_bytes_iff _ _ _ _).mpr ⟨rfl, size⟩

end Inquiry.Text
