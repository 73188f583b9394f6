import Inquiry.Proofs.Builder.History
import Mathlib.Order.Nat

set_option autoImplicit false

namespace Inquiry.Builder

def highestPosition (steps : List Step) : Nat :=
  ((explicitParams steps).map Prod.fst).max?.getD 0

def lastGiven? (steps : List Step) (position : Nat) : Option Value :=
  (explicitParams steps).reverse.lookup position

theorem highest_position_le_iff (steps : List Step) (bound : Nat) :
    highestPosition steps ≤ bound ↔
      ∀ position ∈ (explicitParams steps).map Prod.fst, position ≤ bound := by
  rw [highestPosition]
  cases greatest : ((explicitParams steps).map Prod.fst).max? with
  | none => simp [List.max?_eq_none_iff.mp greatest]
  | some position => exact List.max?_le_iff greatest

theorem last_given_above (steps : List Step) (position : Nat)
    (above : highestPosition steps < position) : lastGiven? steps position = none := by
  apply List.lookup_eq_none_iff.mpr
  intro entry member
  have bound := (highest_position_le_iff steps _).mp (Nat.le_refl _) entry.1
    (List.mem_map_of_mem (List.mem_reverse.mp member))
  have different : position ≠ entry.1 := by omega
  simpa using different

section

variable (entity : Entity) (config : Config) (steps : List Step)

theorem new_run_positional (orderly : (new entity config).Orderly steps) :
    ((new entity config).run steps).positional = Bindings.empty.insertAll (explicitParams steps) :=
  run_positional (new entity config) steps orderly

theorem new_run_get (orderly : (new entity config).Orderly steps) (position : Nat) :
    ((new entity config).run steps).positional.get? position = lastGiven? steps position := by
  rw [new_run_positional entity config steps orderly, Bindings.get_insert_all, Bindings.get_empty,
    Option.or_none, lastGiven?]

theorem new_run_ascending (orderly : (new entity config).Orderly steps) :
    ((new entity config).run steps).positional.Ascending := by
  rw [new_run_positional entity config steps orderly]
  exact Bindings.insert_all_ascending .empty _ Bindings.empty_ascending

theorem new_run_first_index (orderly : (new entity config).Orderly steps) :
    ((new entity config).run steps).firstIndex = highestPosition steps + 1 := by
  have ascending := new_run_ascending entity config steps orderly
  rw [first_index_eq, Nat.add_right_cancel_iff]
  apply eq_of_forall_ge_iff
  intro bound
  rw [Bindings.greatest_le_iff _ ascending, highest_position_le_iff,
    new_run_positional entity config steps orderly]
  have written (position : Nat) :
      position ∈ (Bindings.empty.insertAll (explicitParams steps)).keys ↔
        position ∈ (explicitParams steps).map Prod.fst :=
    (Bindings.mem_keys_insert_all .empty _ position).trans (or_iff_left List.not_mem_nil)
  simp only [written]

theorem new_run_where_bindings (orderly : (new entity config).Orderly steps) (w : Fragment)
    (built : ((new entity config).run steps).whereClause = .ok w) :
    w.bindings = Fragment.numbered (highestPosition steps + 1) (predicateValues steps) := by
  have index := new_run_first_index entity config steps orderly
  rw [conditions_bindings _ false _ w built, run_segment_values, Compiler.new, index,
    Nat.max_eq_left (Nat.le_add_left 1 _)]
  rfl

theorem build_parameters (s : Statement)
    (built : ((new entity config).run steps).build = .ok s) :
    s.positional.Ascending ∧
      (∀ position, s.positional.get? position =
        if position ≤ highestPosition steps then lastGiven? steps position
        else (predicateValues steps)[position - (highestPosition steps + 1)]?) ∧
      (∀ position, highestPosition steps < position → lastGiven? steps position = none) ∧
      ∃ head w, ((new entity config).run steps).head .rows = .ok head ∧
        ((new entity config).run steps).whereClause = .ok w ∧
        s.text = head ++ ((new entity config).run steps).joinText ++ w.text ++
          ((new entity config).run steps).tailText .rows ∧
        w.bindings = Fragment.numbered (highestPosition steps + 1) (predicateValues steps) ∧
        w.marks = (List.range' (highestPosition steps + 1) (predicateValues steps).length).map
          fun position => "?" ++ toString position := by
  have orderly := orderly_of_built (new entity config) steps .rows s built
  obtain ⟨-, head, w, headBuilt, whereBuilt, rfl⟩ := (statement_ok_iff _ .rows s).mp built
  have bound := new_run_where_bindings entity config steps orderly w whereBuilt
  have ascending := new_run_ascending entity config steps orderly
  refine ⟨Bindings.insert_all_ascending _ _ ascending, ?_,
    last_given_above steps, head, w, headBuilt, whereBuilt, rfl, bound, ?_⟩
  · intro position
    rw [assemble, Bindings.get_insert_all, bound, Fragment.lookup_numbered_reverse,
      new_run_get entity config steps orderly]
    by_cases low : position ≤ highestPosition steps
    · have early : ¬ highestPosition steps + 1 ≤ position := by omega
      rw [if_neg early, if_pos low, Option.none_or]
    · have late : highestPosition steps + 1 ≤ position := by omega
      rw [if_pos late, if_neg low, last_given_above steps position late, Option.or_none]
  · rw [Fragment.marks_eq, bound, ← Fragment.numbered_keys, List.map_map]
    rfl

end

theorem mixed_run_parameters :
    ∃ s, ((new ⟨"Person"⟩ .default).run
        [.raw "SELECT m FROM Person m", .filter [.inList "sort" (.list [.int 5, .null])],
          .param 2 (.text "x"), .or [.equal "name" .null, .equal "name" (.text "y")],
          .param 2 (.text "z")]).build = .ok s ∧
      s.positional.get? 2 = some (.text "z") ∧ s.positional.get? 3 = some (.int 5) ∧
      s.positional.get? 4 = some .null ∧ s.positional.get? 5 = some (.text "y") := by
  have given := build_parameters ⟨"Person"⟩ .default
    [.raw "SELECT m FROM Person m", .filter [.inList "sort" (.list [.int 5, .null])],
      .param 2 (.text "x"), .or [.equal "name" .null, .equal "name" (.text "y")],
      .param 2 (.text "z")] _ rfl
  exact ⟨_, rfl, given.2.1 2, given.2.1 3, given.2.1 4, given.2.1 5⟩

end Inquiry.Builder
