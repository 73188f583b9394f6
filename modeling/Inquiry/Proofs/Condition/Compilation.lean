import Inquiry.Proofs.Condition.Numbering
import Mathlib.Data.List.Forall2

set_option autoImplicit false

namespace Inquiry

namespace Predicate

def FirstInvalid (p : Predicate) (l : Leaf) : Prop :=
  ∃ before after, p.leaves = before ++ l :: after ∧ l.isValid = false ∧
    ∀ k ∈ before, k.isValid = true

theorem first_invalid_iff (p : Predicate) (l : Leaf) :
    p.firstInvalid? = some l ↔ p.FirstInvalid l := by
  rw [firstInvalid?, List.find?_eq_some_iff_append, FirstInvalid]
  constructor
  · rintro ⟨invalid, before, after, split, valid⟩
    exact ⟨before, after, split, by simpa using invalid, by simpa using valid⟩
  · rintro ⟨before, after, split, invalid, valid⟩
    exact ⟨by simpa using invalid, before, after, split, by simpa using valid⟩

theorem first_invalid_none_iff (p : Predicate) :
    p.firstInvalid? = none ↔ ∀ l ∈ p.leaves, l.isValid = true := by
  rw [firstInvalid?, List.find?_eq_none]
  simp

theorem first_invalid_exists (p : Predicate) (l : Leaf) (inside : l ∈ p.leaves)
    (invalid : l.isValid = false) : ∃ first, p.FirstInvalid first := by
  cases found : p.firstInvalid? with
  | none =>
      have valid := p.first_invalid_none_iff.mp found l inside
      rw [invalid] at valid
      cases valid
  | some first => exact ⟨first, (p.first_invalid_iff first).mp found⟩

theorem first_invalid_of_all (ps : List Predicate) :
    (leavesOfAll ps).find? (fun leaf => !leaf.isValid) = ps.findSome? firstInvalid? := by
  induction ps with
  | nil => rfl
  | cons p rest ih =>
      rw [leavesOfAll, List.find?_append, ih, List.findSome?_cons, ← firstInvalid?]
      cases p.firstInvalid? <;> rfl

theorem first_invalid_eq (p : Predicate) :
    p.firstInvalid? = match p with
      | simple l => if l.isValid then none else some l
      | p => p.children.findSome? firstInvalid? := by
  cases p with
  | simple l => cases valid : l.isValid <;> simp [firstInvalid?, leaves, valid]
  | conjunction ps => exact first_invalid_of_all ps
  | disjunction ps => exact first_invalid_of_all ps
  | negation p => exact (List.findSome?_singleton ..).symm

end Predicate

namespace Compiler

theorem first_refusal_alike (alike : Leaf → Leaf → Prop)
    (valid : ∀ l k, alike l k → l.isValid = k.isValid)
    (refused : ∀ l k, alike l k → refusal l = refusal k) (ls ks : List Leaf)
    (each : List.Forall₂ alike ls ks) :
    (ls.find? fun leaf => !leaf.isValid).map refusal =
      (ks.find? fun leaf => !leaf.isValid).map refusal := by
  induction each with
  | nil => rfl
  | @cons l k ls ks first rest ih =>
      rw [List.find?_cons, List.find?_cons, valid l k first]
      cases k.isValid with
      | true => exact ih
      | false => exact congrArg some (refused l k first)

def advance (c : Compiler) (p : Predicate) : Compiler :=
  { c with next := c.next + p.boundValues.length }

theorem compile_ok_iff (c d : Compiler) (p : Predicate) (f : Fragment) :
    c.compile p = .ok (f, d) ↔
      (c.policy = .reject → p.firstInvalid? = none) ∧
        f = Condition.render c.aliases c.next p ∧ d = c.advance p := by
  have bound := Condition.render_binding_count c.aliases c.next p
  obtain ⟨policy, aliases, next⟩ := c
  cases policy with
  | ignore => simp [compile, advance, bound, eq_comm]
  | reject =>
      cases invalid : p.firstInvalid? with
      | none => simp [compile, invalid, advance, bound, eq_comm]
      | some leaf => simp [compile, invalid]

theorem accepted_of_ignore (c : Compiler) (p : Predicate) (ignore : c.policy = .ignore)
    (reject : c.policy = .reject) : p.firstInvalid? = none := by
  rw [ignore] at reject
  cases reject

theorem compile_of_ignore (c : Compiler) (p : Predicate) (ignore : c.policy = .ignore) :
    c.compile p = .ok (Condition.render c.aliases c.next p, c.advance p) :=
  (c.compile_ok_iff _ p _).mpr ⟨c.accepted_of_ignore p ignore, rfl, rfl⟩

theorem advance_of_drops (c : Compiler) (p : Predicate) (drops : p.drops = true) :
    c.advance p = c := by
  rw [advance, p.bound_values_of_drops drops]
  rfl

theorem compile_error_iff (c : Compiler) (p : Predicate) (e : QueryError) :
    c.compile p = .error e ↔
      c.policy = .reject ∧ ∃ leaf, p.firstInvalid? = some leaf ∧ e = refusal leaf := by
  obtain ⟨policy, aliases, next⟩ := c
  cases policy with
  | ignore => simp [compile]
  | reject =>
      cases invalid : p.firstInvalid? with
      | none => simp [compile, invalid]
      | some leaf => simp [compile, invalid, eq_comm]

end Compiler

end Inquiry
