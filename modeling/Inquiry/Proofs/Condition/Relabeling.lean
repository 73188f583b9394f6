import Inquiry.Proofs.Condition.Numbering

set_option autoImplicit false

namespace Inquiry

structure Piece.Relabels (g : Piece → Piece) : Prop where
  word : ∀ s, g (.word s) = .word s
  blank : ∀ piece, (g piece).isBlank = piece.isBlank

namespace Fragment

section

variable (g : Piece → Piece) (relabels : Piece.Relabels g)

include relabels

theorem is_blank_relabeled (f : Fragment) : isBlank (f.map g) = isBlank f := by
  simp [isBlank, Function.comp_def, relabels.blank]

theorem join_relabeled (separator : String) (fs : List Fragment) :
    (join separator fs).map g = join separator (fs.map (List.map g)) := by
  induction fs with
  | nil => rfl
  | cons f rest ih =>
      cases rest with
      | nil => simp [join, List.intercalate]
      | cons h tail =>
          rw [join_cons_cons, List.map_append, List.map_cons, ih, relabels.word]
          exact (join_cons_cons separator (f.map g) (h.map g) (tail.map (List.map g))).symm

theorem kept_relabeled (fs : List Fragment) :
    (fs.filter fun f => !Fragment.isBlank f).map (List.map g) =
      (fs.map (List.map g)).filter fun f => !Fragment.isBlank f := by
  rw [List.filter_map]
  simp [Function.comp_def, is_blank_relabeled g relabels]

end

end Fragment

namespace Condition

section

variable (g : Piece → Piece) (relabels : Piece.Relabels g)

include relabels

theorem parenthesized_relabeled (f : Fragment) :
    (parenthesized f).map g = parenthesized (f.map g) := by
  rw [parenthesized, List.cons_append, List.map_cons, List.map_append, relabels.word,
    List.map_cons, relabels.word]
  rfl

theorem conjoined_relabeled (fs : List Fragment) :
    (conjoined fs).map g = conjoined (fs.map (List.map g)) := by
  rw [conjoined, conjoined, ← Fragment.kept_relabeled g relabels]
  cases fs.filter fun f => !Fragment.isBlank f with
  | nil => rfl
  | cons f rest =>
      have closed := parenthesized_relabeled g relabels (Fragment.join " AND " (f :: rest))
      rw [Fragment.join_relabeled g relabels] at closed
      exact closed

end

end Condition

def Piece.raise (d : Nat) : Piece → Piece
  | .word s => .word s
  | .placeholder index value => .placeholder (index + d) value

theorem Piece.raise_relabels (d : Nat) : Relabels (raise d) where
  word _ := rfl
  blank piece := by cases piece <;> rfl

namespace Fragment

def raise (d : Nat) (f : Fragment) : Fragment := f.map (Piece.raise d)

theorem bind_from_raised (d index : Nat) (vs : List Value) :
    bindFrom (index + d) vs = (bindFrom index vs).map (raise d) := by
  induction vs generalizing index with
  | nil => rfl
  | cons v rest ih =>
      rw [bindFrom, bindFrom, Nat.add_right_comm, ih, List.map_cons]
      rfl

end Fragment

namespace Condition

theorem render_leaf_raised (aliases : AliasMap) (d index : Nat) (l : Leaf) :
    renderLeaf aliases (index + d) l = (renderLeaf aliases index l).raise d := by
  obtain ⟨target, column, op, operand⟩ := l
  cases operand with
  | none => rfl
  | single v => rfl
  | pair a b =>
      rw [renderLeaf, Nat.add_right_comm]
      rfl
  | list v =>
      cases v with
      | list items =>
          cases items with
          | nil => rfl
          | cons item rest =>
              have joined := Fragment.join_relabeled _ (Piece.raise_relabels d) ", "
                (Fragment.bindFrom index (item :: rest))
              simp only [renderLeaf, Fragment.bind_from_raised, Fragment.raise, List.cons_append,
                List.map_cons, List.map_append, joined]
              rfl
      | _ => rfl

mutual
theorem render_raised (aliases : AliasMap) (d index : Nat) (p : Predicate) :
    render aliases (index + d) p = (render aliases index p).raise d := by
  cases p with
  | simple l =>
      rw [render, render]
      split
      · exact render_leaf_raised aliases d index l
      · rfl
  | conjunction ps =>
      rw [render_conjunction, render_conjunction, render_each_raised aliases d index ps]
      exact (conjoined_relabeled _ (Piece.raise_relabels d) _).symm
  | disjunction ps =>
      rw [render, render]
      split
      · rfl
      · rw [render_each_raised aliases d index ps, Fragment.raise,
          parenthesized_relabeled _ (Piece.raise_relabels d),
          Fragment.join_relabeled _ (Piece.raise_relabels d)]
        rfl
  | negation p =>
      rw [render, render, render_raised aliases d index p]
      simp only [Fragment.raise, List.cons_append, List.map_cons, List.map_append]
      rfl

theorem render_each_raised (aliases : AliasMap) (d index : Nat) (ps : List Predicate) :
    renderEach aliases (index + d) ps = (renderEach aliases index ps).map (Fragment.raise d) := by
  cases ps with
  | nil => rfl
  | cons p rest =>
      rw [render_each_cons, render_each_cons, Nat.add_right_comm, List.map_cons,
        render_raised aliases d index p, render_each_raised aliases d _ rest]
end

end Condition

end Inquiry
