import Inquiry.Condition.Compiler
import Inquiry.Proofs.Bindings

set_option autoImplicit false

namespace Inquiry

namespace Fragment

def numbered (index : Nat) : List Value → List (Nat × Value)
  | [] => []
  | v :: rest => (index, v) :: numbered (index + 1) rest

theorem numbered_append (index : Nat) (vs ws : List Value) :
    numbered index (vs ++ ws) = numbered index vs ++ numbered (index + vs.length) ws := by
  induction vs generalizing index with
  | nil => rfl
  | cons v rest ih =>
      rw [List.cons_append, numbered, ih, numbered, List.cons_append, List.length_cons,
        Nat.add_assoc, Nat.add_comm 1]

theorem numbered_length (index : Nat) (vs : List Value) :
    (numbered index vs).length = vs.length := by
  induction vs generalizing index with
  | nil => rfl
  | cons v rest ih => rw [numbered, List.length_cons, ih, List.length_cons]

theorem numbered_keys (index : Nat) (vs : List Value) :
    (numbered index vs).map Prod.fst = List.range' index vs.length := by
  induction vs generalizing index with
  | nil => rfl
  | cons v rest ih => rw [numbered, List.map_cons, ih, List.length_cons, List.range'_succ]

-- The numbers are all different, so that it does not matter from which end one looks.
theorem lookup_numbered_reverse (index query : Nat) (vs : List Value) :
    (numbered index vs).reverse.lookup query =
      if index ≤ query then vs[query - index]? else none := by
  induction vs generalizing index with
  | nil => simp [numbered]
  | cons v rest ih =>
      rw [numbered, List.reverse_cons, List.lookup_append, ih, Bindings.lookup_first]
      rcases Nat.lt_trichotomy query index with below | same | above
      · have later : ¬ index + 1 ≤ query := by omega
        have first : ¬ index ≤ query := by omega
        simp [later, first, Nat.ne_of_lt below]
      · subst same
        have later : ¬ query + 1 ≤ query := by omega
        simp [later]
      · have later : index + 1 ≤ query := above
        have first : index ≤ query := by omega
        have different : query ≠ index := by omega
        have shifted : query - index = (query - (index + 1)) + 1 := by omega
        rw [if_pos later, if_pos first, if_neg different, shifted, List.getElem?_cons_succ]
        simp

theorem text_word (s : String) (f : Fragment) : text (.word s :: f) = s ++ text f := by
  simp [text, String.join_cons, Piece.text]

def marks (f : Fragment) : List String :=
  (f.filter fun piece => piece.binding?.isSome).map Piece.text

theorem marks_eq (f : Fragment) :
    f.marks = f.bindings.map fun entry => "?" ++ toString entry.1 := by
  induction f with
  | nil => rfl
  | cons piece rest ih =>
      cases piece with
      | word s => exact ih
      | placeholder index value => exact congrArg (_ :: ·) ih

theorem bindings_of_blank (f : Fragment) (blank : f.isBlank = true) : f.bindings = [] := by
  apply List.filterMap_eq_nil_iff.mpr
  intro piece member
  have empty := List.all_eq_true.mp blank piece member
  cases piece with
  | word s => rfl
  | placeholder index value => simp [Piece.isBlank] at empty

theorem join_cons_cons (separator : String) (f g : Fragment) (rest : List Fragment) :
    join separator (f :: g :: rest) = f ++ .word separator :: join separator (g :: rest) := by
  simp [join, List.intercalate]

theorem bindings_join (separator : String) (fs : List Fragment) :
    (join separator fs).bindings = fs.flatMap bindings := by
  induction fs with
  | nil => rfl
  | cons f rest ih =>
      cases rest with
      | nil => simp [join, List.intercalate]
      | cons g tail =>
          rw [join_cons_cons, bindings_append, bindings_word, ih]
          rfl

theorem bindings_bind_from (index : Nat) (vs : List Value) :
    (bindFrom index vs).flatMap bindings = numbered index vs := by
  induction vs generalizing index with
  | nil => rfl
  | cons v rest ih => rw [bindFrom, List.flatMap_cons, ih]; rfl

theorem bindings_kept (fs : List Fragment) :
    (fs.filter fun f => !Fragment.isBlank f).flatMap bindings = fs.flatMap bindings := by
  induction fs with
  | nil => rfl
  | cons f rest ih =>
      rw [List.filter_cons, List.flatMap_cons]
      by_cases blank : f.isBlank = true
      · simp [blank, ih, bindings_of_blank f blank]
      · simp [blank, ih]

end Fragment

namespace Predicate

theorem bound_values_of_all (ps : List Predicate) :
    ((leavesOfAll ps).filter Leaf.isValid).flatMap (fun leaf => leaf.operand.values) =
      ps.flatMap boundValues := by
  induction ps with
  | nil => rfl
  | cons p rest ih =>
      rw [leavesOfAll, List.filter_append, List.flatMap_append, ih, List.flatMap_cons]
      rfl

theorem bound_values_conjunction (ps : List Predicate) :
    boundValues (conjunction ps) = ps.flatMap boundValues :=
  bound_values_of_all ps

theorem bound_values_disjunction (ps : List Predicate) :
    boundValues (disjunction ps) = ps.flatMap boundValues :=
  bound_values_of_all ps

mutual
theorem valid_leaves_of_drops (p : Predicate) (drops : p.drops = true) :
    p.leaves.filter Leaf.isValid = [] := by
  cases p with
  | simple leaf =>
      have invalid : leaf.isValid = false := by simpa [Predicate.drops] using drops
      simp [leaves, invalid]
  | conjunction ps => exact valid_leaves_of_drops_all ps drops
  | disjunction ps => exact valid_leaves_of_drops_all ps drops
  | negation p => simp [Predicate.drops] at drops

theorem valid_leaves_of_drops_all (ps : List Predicate) (drops : dropsAll ps = true) :
    (leavesOfAll ps).filter Leaf.isValid = [] := by
  cases ps with
  | nil => rfl
  | cons p rest =>
      obtain ⟨first, others⟩ := (Bool.and_eq_true _ _).mp drops
      rw [leavesOfAll, List.filter_append, valid_leaves_of_drops p first,
        valid_leaves_of_drops_all rest others, List.nil_append]
end

theorem bound_values_of_drops (p : Predicate) (drops : p.drops = true) : p.boundValues = [] := by
  rw [boundValues, valid_leaves_of_drops p drops, List.flatMap_nil]

theorem bound_values_of_drops_all (ps : List Predicate) (drops : dropsAll ps = true) :
    ps.flatMap boundValues = [] := by
  rw [← bound_values_of_all, valid_leaves_of_drops_all ps drops, List.flatMap_nil]

end Predicate

namespace Condition

theorem bindings_parenthesized (f : Fragment) : (parenthesized f).bindings = f.bindings := by
  rw [parenthesized, List.cons_append, Fragment.bindings_word, Fragment.bindings_append]
  exact List.append_nil _

def conjoined (fs : List Fragment) : Fragment :=
  match fs.filter fun f => !Fragment.isBlank f with
  | [] => []
  | kept => parenthesized (Fragment.join " AND " kept)

theorem render_conjunction (aliases : AliasMap) (index : Nat) (ps : List Predicate) :
    render aliases index (.conjunction ps) = conjoined (renderEach aliases index ps) := by
  rw [render]
  rfl

theorem bindings_conjoined (fs : List Fragment) :
    (conjoined fs).bindings = fs.flatMap Fragment.bindings := by
  rw [← Fragment.bindings_kept fs, conjoined]
  split
  · next none => rw [none]; rfl
  · rw [bindings_parenthesized, Fragment.bindings_join]

theorem render_leaf_bindings (aliases : AliasMap) (index : Nat) (l : Leaf) :
    (renderLeaf aliases index l).bindings = Fragment.numbered index l.operand.values := by
  obtain ⟨target, column, op, operand⟩ := l
  cases operand with
  | none => rfl
  | single v => rfl
  | pair a b => rfl
  | list v =>
      cases v with
      | list items =>
          cases items with
          | nil => rfl
          | cons item rest =>
              simp only [renderLeaf, List.cons_append, Fragment.bindings_word,
                Fragment.bindings_append, Fragment.bindings_join, Fragment.bindings_bind_from]
              exact List.append_nil _
      | _ => rfl

mutual
theorem render_bindings (aliases : AliasMap) (index : Nat) (p : Predicate) :
    (render aliases index p).bindings = Fragment.numbered index p.boundValues := by
  cases p with
  | simple leaf =>
      by_cases valid : leaf.isValid = true
      · simp [render, valid, render_leaf_bindings, Predicate.boundValues, Predicate.leaves]
      · simp [render, valid, Predicate.boundValues, Predicate.leaves, Fragment.bindings,
          Fragment.numbered]
  | conjunction ps =>
      rw [render_conjunction, bindings_conjoined, render_each_bindings aliases index ps,
        Predicate.bound_values_conjunction]
  | disjunction ps =>
      rw [render]
      by_cases drops : ps.all Predicate.drops = true
      · have nothing : (Predicate.disjunction ps).drops = true := by
          rw [Predicate.drops, Predicate.drops_all_eq_all, drops]
        rw [if_pos drops, Predicate.bound_values_of_drops _ nothing]
        rfl
      · rw [if_neg drops, bindings_parenthesized, Fragment.bindings_join,
          render_each_bindings aliases index ps, Predicate.bound_values_disjunction]
  | negation p =>
      have inner := render_bindings aliases index p
      rw [render, List.cons_append, Fragment.bindings_word, Fragment.bindings_append, inner]
      exact List.append_nil _

theorem render_each_bindings (aliases : AliasMap) (index : Nat) (ps : List Predicate) :
    (renderEach aliases index ps).flatMap Fragment.bindings =
      Fragment.numbered index (ps.flatMap Predicate.boundValues) := by
  cases ps with
  | nil => rfl
  | cons p rest =>
      have first := render_bindings aliases index p
      rw [renderEach, List.flatMap_cons, first, Fragment.numbered_length,
        render_each_bindings aliases _ rest, List.flatMap_cons, Fragment.numbered_append]
end

theorem render_binding_count (aliases : AliasMap) (index : Nat) (p : Predicate) :
    (render aliases index p).bindings.length = p.boundValues.length := by
  rw [render_bindings, Fragment.numbered_length]

theorem render_each_cons (aliases : AliasMap) (index : Nat) (p : Predicate)
    (rest : List Predicate) :
    renderEach aliases index (p :: rest) =
      render aliases index p :: renderEach aliases (index + p.boundValues.length) rest := by
  rw [renderEach, render_binding_count]

end Condition

end Inquiry
