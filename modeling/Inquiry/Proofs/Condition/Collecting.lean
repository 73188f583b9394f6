import Inquiry.Condition.Collector
import Inquiry.Predicate.Build
import Inquiry.Proofs.Condition.Compilation
import Inquiry.Proofs.Condition.Relabeling

set_option autoImplicit false

namespace Inquiry

namespace Predicate

def leavesValid (p : Predicate) : Bool := p.leaves.all Leaf.isValid

theorem leaves_valid_iff (p : Predicate) : p.leavesValid = true ↔ p.firstInvalid? = none := by
  rw [leavesValid, List.all_eq_true, first_invalid_none_iff]

end Predicate

namespace Collector

def ignoring (c : Collector) : Collector :=
  { c with compiler := { c.compiler with policy := .ignore } }

theorem compile_accepted (c : Collector) (p : Predicate)
    (accepted : c.compiler.policy = .reject → p.firstInvalid? = none) :
    c.compile p =
      (.ok (Condition.render c.compiler.aliases c.compiler.next p).text,
        ⟨c.compiler.advance p,
          c.params.insertAll (Fragment.numbered c.compiler.next p.boundValues)⟩) := by
  have compiled := (c.compiler.compile_ok_iff _ p _).mpr ⟨accepted, rfl, rfl⟩
  rw [compile, compiled, ← Condition.render_bindings c.compiler.aliases]

theorem compile_of_ignore (c : Collector) (p : Predicate) (ignore : c.compiler.policy = .ignore) :
    c.compile p =
      (.ok (Condition.render c.compiler.aliases c.compiler.next p).text,
        ⟨c.compiler.advance p,
          c.params.insertAll (Fragment.numbered c.compiler.next p.boundValues)⟩) :=
  c.compile_accepted p (c.compiler.accepted_of_ignore p ignore)

theorem compile_refused (c : Collector) (p : Predicate) (l : Leaf)
    (reject : c.compiler.policy = .reject) (invalid : p.firstInvalid? = some l) :
    c.compile p = (.error (Compiler.refusal l), c) := by
  have refused := (c.compiler.compile_error_iff p _).mpr ⟨reject, l, invalid, rfl⟩
  rw [compile, refused]

theorem compile_all_cons (c : Collector) (p : Predicate) (rest : List Predicate) :
    c.compileAll (p :: rest) =
      ((c.compile p).1 :: ((c.compile p).2.compileAll rest).1,
        ((c.compile p).2.compileAll rest).2) :=
  rfl

theorem compile_all_append (c : Collector) (before after : List Predicate) :
    c.compileAll (before ++ after) =
      ((c.compileAll before).1 ++ ((c.compileAll before).2.compileAll after).1,
        ((c.compileAll before).2.compileAll after).2) := by
  induction before generalizing c with
  | nil => rfl
  | cons p rest ih =>
      rw [List.cons_append, compile_all_cons, compile_all_cons, ih, List.cons_append]

theorem compile_all_length (c : Collector) (ps : List Predicate) :
    (c.compileAll ps).1.length = ps.length := by
  induction ps generalizing c with
  | nil => rfl
  | cons p rest ih => rw [compile_all_cons, List.length_cons, ih, List.length_cons]

theorem compile_policy (c : Collector) (p : Predicate) :
    (c.compile p).2.compiler.policy = c.compiler.policy := by
  cases compiled : c.compiler.compile p with
  | error e => rw [compile, compiled]
  | ok result =>
      obtain ⟨f, compiler⟩ := result
      obtain ⟨-, -, next⟩ := (c.compiler.compile_ok_iff compiler p f).mp compiled
      rw [compile, compiled, next]
      rfl

theorem compile_all_policy (c : Collector) (ps : List Predicate) :
    (c.compileAll ps).2.compiler.policy = c.compiler.policy := by
  induction ps generalizing c with
  | nil => rfl
  | cons p rest ih =>
      rw [compile_all_cons]
      exact (ih (c.compile p).2).trans (c.compile_policy p)

structure FailsAtomically (c : Collector) (p : Predicate) : Prop where
  fails : (∃ e, (c.compile p).1 = .error e) ↔ ∃ l ∈ p.leaves, l.isValid = false
  named : ∀ e, (c.compile p).1 = .error e → ∃ l, p.FirstInvalid l ∧
    e = .invalidPredicate l.column ("null value for operator " ++ l.op.keyword)
  unchanged : ∀ e, (c.compile p).1 = .error e → (c.compile p).2 = c

theorem fails_atomically (c : Collector) (p : Predicate) (reject : c.compiler.policy = .reject) :
    c.FailsAtomically p := by
  cases invalid : p.firstInvalid? with
  | none =>
      have valid := p.first_invalid_none_iff.mp invalid
      have accepted := c.compile_accepted p fun _ => invalid
      constructor
      · simpa [accepted] using valid
      · intro e failed
        simp [accepted] at failed
      · intro e failed
        simp [accepted] at failed
  | some l =>
      have refused := c.compile_refused p l reject invalid
      have first := (p.first_invalid_iff l).mp invalid
      constructor
      · obtain ⟨before, after, split, invalidLeaf, -⟩ := first
        have present : l ∈ p.leaves := split ▸ List.mem_append_right before List.mem_cons_self
        simp only [refused]
        exact iff_of_true ⟨_, rfl⟩ ⟨l, present, invalidLeaf⟩
      · intro e failed
        rw [refused] at failed
        exact ⟨l, first, (Except.error.inj failed).symm⟩
      · intro e failed
        rw [refused]

theorem compile_ignoring (c : Collector) (p : Predicate) (valid : p.firstInvalid? = none) :
    c.ignoring.compile p = ((c.compile p).1, (c.compile p).2.ignoring) := by
  rw [c.compile_accepted p fun _ => valid, c.ignoring.compile_accepted p fun _ => valid]
  rfl

-- The induction follows the run that refuses; where it refuses a tree, the other run has none.
theorem compile_all_ignoring (c : Collector) (ps : List Predicate)
    (reject : c.compiler.policy = .reject) :
    c.ignoring.compileAll (ps.filter Predicate.leavesValid) =
      (((c.compileAll ps).1.filterMap Except.toOption).map .ok, (c.compileAll ps).2.ignoring) := by
  induction ps generalizing c with
  | nil => rfl
  | cons p rest ih =>
      cases invalid : p.firstInvalid? with
      | none =>
          have policy : (c.compile p).2.compiler.policy = .reject := (c.compile_policy p).trans reject
          have later := ih (c.compile p).2 policy
          have accepted := c.compile_accepted p fun _ => invalid
          rw [List.filter_cons_of_pos (p.leaves_valid_iff.mpr invalid), compile_all_cons,
            c.compile_ignoring p invalid, later, compile_all_cons, accepted]
          rfl
      | some l =>
          have kept : ¬ p.leavesValid = true := by simp [p.leaves_valid_iff, invalid]
          rw [List.filter_cons_of_neg kept, ih c reject, compile_all_cons,
            c.compile_refused p l reject invalid]
          rfl

theorem reject_leaves_no_trace (aliases : AliasMap) (first : Nat) (ps : List Predicate) :
    (∀ before p after, ps = before ++ p :: after →
      ((new .reject aliases first).compileAll before).2.FailsAtomically p ∧
        ((new .reject aliases first).compileAll ps).1[before.length]? =
          some (((new .reject aliases first).compileAll before).2.compile p).1) ∧
      (new .ignore aliases first).compileAll (ps.filter Predicate.leavesValid) =
        ((((new .reject aliases first).compileAll ps).1.filterMap Except.toOption).map .ok,
          ((new .reject aliases first).compileAll ps).2.ignoring) := by
  refine ⟨?_, compile_all_ignoring (new .reject aliases first) ps rfl⟩
  intro before p after split
  refine ⟨fails_atomically _ p (compile_all_policy _ before), ?_⟩
  have position := compile_all_length (new .reject aliases first) before
  rw [split, compile_all_append, compile_all_cons, ← position,
    List.getElem?_append_right (Nat.le_refl _), Nat.sub_self]
  rfl

theorem reject_leaves_no_trace_of_not :
    let read := Predicate.equal "a" (.int 1)
    let broken := Predicate.negation (.disjunction [.equal "b" .null])
    let written := Predicate.between "c" (.int 2) (.int 3)
    let run := (new .reject (.new "_this") 4).compileAll [read, broken, written]
    run.1 = [.ok "_this.a = ?4", .error (.invalidPredicate "b" "null value for operator ="),
        .ok "_this.c BETWEEN ?5 AND ?6"] ∧
      ((new .reject (.new "_this") 4).compileAll [read]).2.FailsAtomically broken ∧
      ((new .ignore (.new "_this") 4).compileAll [read, written]).2 = run.2.ignoring := by
  obtain ⟨each, agrees⟩ := reject_leaves_no_trace (.new "_this") 4
    [.equal "a" (.int 1), .negation (.disjunction [.equal "b" .null]),
      .between "c" (.int 2) (.int 3)]
  exact ⟨by rfl, (each [_] _ [_] rfl).1, congrArg Prod.snd agrees⟩

theorem compile_all_of_ignore (c : Collector) (ps : List Predicate)
    (ignore : c.compiler.policy = .ignore) :
    c.compileAll ps =
      ((Condition.renderEach c.compiler.aliases c.compiler.next ps).map fun f => .ok f.text,
        ⟨{ c.compiler with next := c.compiler.next + (ps.flatMap Predicate.boundValues).length },
          c.params.insertAll
            (Fragment.numbered c.compiler.next (ps.flatMap Predicate.boundValues))⟩) := by
  induction ps generalizing c with
  | nil => rfl
  | cons p rest ih =>
      have policy : (c.compile p).2.compiler.policy = .ignore := (c.compile_policy p).trans ignore
      rw [compile_all_cons, ih (c.compile p).2 policy, c.compile_of_ignore p ignore,
        Condition.render_each_cons,
        List.flatMap_cons, Fragment.numbered_append, Bindings.insert_all_append,
        List.length_append, ← Nat.add_assoc]
      rfl

structure NumberedFrom (c : Collector) (first : Nat) (vs : List Value) : Prop where
  keys : c.params.keys = List.range' first vs.length
  value : ∀ i, c.params.get? (first + i) = vs[i]?
  next : c.compiler.next = first + vs.length

theorem insert_numbered_keys (first : Nat) (vs : List Value) :
    (Bindings.empty.insertAll (Fragment.numbered first vs)).keys = List.range' first vs.length := by
  have ascending : ((Bindings.empty.entries ++ Fragment.numbered first vs).map Prod.fst).Pairwise
      (· < ·) := by
    rw [Bindings.empty, List.nil_append, Fragment.numbered_keys]
    exact List.pairwise_lt_range'
  rw [Bindings.keys, Bindings.insert_all_above _ _ ascending, Bindings.empty, List.nil_append,
    Fragment.numbered_keys]

theorem insert_numbered_value (first i : Nat) (vs : List Value) :
    (Bindings.empty.insertAll (Fragment.numbered first vs)).get? (first + i) = vs[i]? := by
  rw [Bindings.get_insert_all, Fragment.lookup_numbered_reverse, if_pos (Nat.le_add_right first i),
    Nat.add_sub_cancel_left, Bindings.get_empty, Option.or_none]

theorem numbers_valid_leaves (aliases : AliasMap) (first : Nat) (ps : List Predicate) :
    let values := ((Predicate.leavesOfAll ps).filter Leaf.isValid).flatMap (·.operand.values)
    let fragments := Condition.renderEach aliases (max first 1) ps
    ((new .ignore aliases first).compileAll ps).2.NumberedFrom (max first 1) values ∧
      ((new .ignore aliases first).compileAll ps).1 = fragments.map (fun f => .ok f.text) ∧
      fragments.flatMap Fragment.bindings = Fragment.numbered (max first 1) values ∧
      ∀ (m d : Nat) (params : Bindings Nat Value) (p : Predicate),
        (compile ⟨⟨.ignore, aliases, m⟩, params⟩ p).1 = .ok (Condition.render aliases m p).text ∧
          (compile ⟨⟨.ignore, aliases, m + d⟩, params⟩ p).1 =
            .ok ((Condition.render aliases m p).raise d).text := by
  intro values fragments
  have collected := compile_all_of_ignore (new .ignore aliases first) ps rfl
  rw [← Predicate.bound_values_of_all] at collected
  refine ⟨?_, ?_, ?_, ?_⟩
  · rw [collected]
    exact ⟨insert_numbered_keys _ values, fun i => insert_numbered_value _ i values, rfl⟩
  · rw [collected]
    rfl
  · exact (Condition.render_each_bindings aliases _ ps).trans
      (congrArg _ (Predicate.bound_values_of_all ps).symm)
  · intro m d params p
    rw [← Condition.render_raised]
    exact ⟨rfl, rfl⟩

end Collector

end Inquiry
