import Inquiry.Proofs.Condition.Compilation
import Inquiry.Proofs.Condition.Relabeling

set_option autoImplicit false

namespace Inquiry

def Value.sequenceLength? : Value → Option Nat
  | .list items => some items.length
  | _ => none

-- Operands of one form with nulls at the same places. Sequences have the same length, and what is
-- no sequence corresponds to what is none.
def Operand.Alike : Operand → Operand → Prop
  | .none, .none => True
  | .single v, .single w => v.isNull = w.isNull
  | .pair a b, .pair c d => a.isNull = c.isNull ∧ b.isNull = d.isNull
  | .list v, .list w => v.isNull = w.isNull ∧ v.sequenceLength? = w.sequenceLength?
  | _, _ => False

structure Leaf.Alike (l m : Leaf) : Prop where
  target : l.target = m.target
  column : l.column = m.column
  op : l.op = m.op
  operand : l.operand.Alike m.operand

namespace Predicate

mutual
def Alike : Predicate → Predicate → Prop
  | simple l, simple m => l.Alike m
  | conjunction ps, conjunction qs => AlikeAll ps qs
  | disjunction ps, disjunction qs => AlikeAll ps qs
  | negation p, negation q => Alike p q
  | _, _ => False

def AlikeAll : List Predicate → List Predicate → Prop
  | [], [] => True
  | p :: ps, q :: qs => Alike p q ∧ AlikeAll ps qs
  | _, _ => False
end

end Predicate

theorem Operand.alike_refl (o : Operand) : o.Alike o := by
  cases o <;> simp [Operand.Alike]

theorem Operand.alike_has_null (o p : Operand) (alike : o.Alike p) : o.hasNull = p.hasNull := by
  cases o <;> cases p <;> simp_all [Operand.Alike, Operand.hasNull]

theorem Leaf.alike_refl (l : Leaf) : l.Alike l := ⟨rfl, rfl, rfl, l.operand.alike_refl⟩

theorem Leaf.alike_valid (l m : Leaf) (alike : l.Alike m) : l.isValid = m.isValid := by
  rw [l.valid_eq, m.valid_eq, alike.op, Operand.alike_has_null _ _ alike.operand]

theorem Leaf.alike_refusal (l m : Leaf) (alike : l.Alike m) :
    Compiler.refusal l = Compiler.refusal m := by
  rw [Compiler.refusal, Compiler.refusal, alike.column, alike.op]

namespace Predicate

mutual
theorem alike_refl (p : Predicate) : p.Alike p := by
  cases p with
  | simple l => exact l.alike_refl
  | conjunction ps => exact alike_all_refl ps
  | disjunction ps => exact alike_all_refl ps
  | negation p => exact alike_refl p

theorem alike_all_refl (ps : List Predicate) : AlikeAll ps ps := by
  cases ps with
  | nil => trivial
  | cons p rest => exact ⟨alike_refl p, alike_all_refl rest⟩
end

mutual
theorem alike_drops (p q : Predicate) (alike : p.Alike q) : p.drops = q.drops := by
  cases p with
  | simple l =>
      cases q with
      | simple m => rw [drops, drops, Leaf.alike_valid l m alike]
      | _ => exact alike.elim
  | conjunction ps =>
      cases q with
      | conjunction qs => exact alike_drops_all ps qs alike
      | _ => exact alike.elim
  | disjunction ps =>
      cases q with
      | disjunction qs => exact alike_drops_all ps qs alike
      | _ => exact alike.elim
  | negation p =>
      cases q with
      | negation q => rfl
      | _ => exact alike.elim

theorem alike_drops_all (ps qs : List Predicate) (alike : AlikeAll ps qs) :
    dropsAll ps = dropsAll qs := by
  cases ps with
  | nil =>
      cases qs with
      | nil => rfl
      | cons q rest => exact alike.elim
  | cons p ps =>
      cases qs with
      | nil => exact alike.elim
      | cons q qs =>
          rw [dropsAll, dropsAll, alike_drops p q alike.1, alike_drops_all ps qs alike.2]
end

mutual
theorem alike_leaves (p q : Predicate) (alike : p.Alike q) :
    List.Forall₂ Leaf.Alike p.leaves q.leaves := by
  cases p with
  | simple l =>
      cases q with
      | simple m => exact .cons alike .nil
      | _ => exact alike.elim
  | conjunction ps =>
      cases q with
      | conjunction qs => exact alike_leaves_of_all ps qs alike
      | _ => exact alike.elim
  | disjunction ps =>
      cases q with
      | disjunction qs => exact alike_leaves_of_all ps qs alike
      | _ => exact alike.elim
  | negation p =>
      cases q with
      | negation q => exact alike_leaves p q alike
      | _ => exact alike.elim

theorem alike_leaves_of_all (ps qs : List Predicate) (alike : AlikeAll ps qs) :
    List.Forall₂ Leaf.Alike (leavesOfAll ps) (leavesOfAll qs) := by
  cases ps with
  | nil =>
      cases qs with
      | nil => exact .nil
      | cons q rest => exact alike.elim
  | cons p ps =>
      cases qs with
      | nil => exact alike.elim
      | cons q qs =>
          exact List.rel_append (alike_leaves p q alike.1) (alike_leaves_of_all ps qs alike.2)
end

theorem alike_first_invalid (p q : Predicate) (alike : p.Alike q) :
    p.firstInvalid?.map Compiler.refusal = q.firstInvalid?.map Compiler.refusal :=
  Compiler.first_refusal_alike Leaf.Alike Leaf.alike_valid Leaf.alike_refusal p.leaves q.leaves
    (alike_leaves p q alike)

end Predicate

def Piece.outline : Piece → Piece
  | .word s => .word s
  | .placeholder index _ => .placeholder index .null

theorem Piece.outline_relabels : Relabels outline where
  word _ := rfl
  blank piece := by cases piece <;> rfl

namespace Fragment

def outline (f : Fragment) : Fragment := f.map Piece.outline

theorem outline_append (f g : Fragment) : outline (f ++ g) = outline f ++ outline g :=
  List.map_append

theorem outline_word (s : String) (f : Fragment) :
    outline (.word s :: f) = .word s :: outline f := rfl

theorem text_outline (f : Fragment) : text (outline f) = text f := by
  have each (piece : Piece) : piece.outline.text = piece.text := by cases piece <;> rfl
  simp [text, outline, Function.comp_def, each]

theorem is_blank_outline (f : Fragment) : isBlank (outline f) = isBlank f :=
  is_blank_relabeled Piece.outline Piece.outline_relabels f

theorem numbers_outline (f : Fragment) :
    (outline f).bindings.map Prod.fst = f.bindings.map Prod.fst := by
  induction f with
  | nil => rfl
  | cons piece rest ih =>
      cases piece with
      | word s => exact ih
      | placeholder index value => exact congrArg (index :: ·) ih

theorem alike_text (f g : Fragment) (alike : outline f = outline g) : f.text = g.text := by
  rw [← text_outline f, alike, text_outline]

theorem alike_blank (f g : Fragment) (alike : outline f = outline g) :
    f.isBlank = g.isBlank := by
  rw [← is_blank_outline f, alike, is_blank_outline]

theorem alike_numbers (f g : Fragment) (alike : outline f = outline g) :
    f.bindings.map Prod.fst = g.bindings.map Prod.fst := by
  rw [← numbers_outline f, alike, numbers_outline]

theorem outline_join (separator : String) (fs : List Fragment) :
    outline (join separator fs) = join separator (fs.map outline) :=
  join_relabeled Piece.outline Piece.outline_relabels separator fs

theorem outline_bind_from (index : Nat) (vs ws : List Value) (same : vs.length = ws.length) :
    (bindFrom index vs).map outline = (bindFrom index ws).map outline := by
  induction vs generalizing index ws with
  | nil =>
      cases ws with
      | nil => rfl
      | cons w ws => simp at same
  | cons v vs ih =>
      cases ws with
      | nil => simp at same
      | cons w ws =>
          rw [bindFrom, bindFrom, List.map_cons, List.map_cons,
            ih (index + 1) ws (Nat.succ.inj same)]
          rfl

end Fragment

namespace Condition

theorem outline_parenthesized (f : Fragment) :
    (parenthesized f).outline = parenthesized f.outline :=
  parenthesized_relabeled Piece.outline Piece.outline_relabels f

theorem outline_conjoined (fs : List Fragment) :
    (conjoined fs).outline = conjoined (fs.map Fragment.outline) :=
  conjoined_relabeled Piece.outline Piece.outline_relabels fs

theorem render_leaf_scalar (aliases : AliasMap) (index : Nat) (l : Leaf) (v : Value)
    (operand : l.operand = .list v) (scalar : v.sequenceLength? = none) :
    renderLeaf aliases index l =
      [.word (l.aliasIn aliases ++ "." ++ l.column ++ " " ++ l.op.keyword ++ " ("),
        .placeholder index v, .word ")"] := by
  cases v with
  | list items => cases scalar
  | _ => rw [renderLeaf, operand]

theorem render_list_alike (aliases : AliasMap) (index : Nat) (l m : Leaf) (alike : l.Alike m)
    (v w : Value) (left : l.operand = .list v) (right : m.operand = .list w)
    (lengths : v.sequenceLength? = w.sequenceLength?) :
    (renderLeaf aliases index l).outline = (renderLeaf aliases index m).outline := by
  obtain ⟨target, column, op, operand⟩ := l
  obtain ⟨target', column', op', operand'⟩ := m
  obtain ⟨rfl, rfl, rfl, -⟩ := alike
  obtain rfl : operand = .list v := left
  obtain rfl : operand' = .list w := right
  cases lengthV : v.sequenceLength? with
  | none =>
      rw [render_leaf_scalar aliases index _ v rfl lengthV,
        render_leaf_scalar aliases index _ w rfl (lengths.symm.trans lengthV)]
      rfl
  | some length =>
      have lengthW : w.sequenceLength? = some length := lengths.symm.trans lengthV
      cases v with
      | list items =>
          cases w with
          | list others =>
              have same : items.length = others.length :=
                (Option.some.inj lengthV).trans (Option.some.inj lengthW).symm
              cases items with
              | nil =>
                  obtain rfl := List.length_eq_zero_iff.mp same.symm
                  rfl
              | cons item items =>
                  cases others with
                  | nil => cases same
                  | cons other others =>
                      have bound := Fragment.outline_bind_from index _ _ same
                      simp only [renderLeaf, List.cons_append, Fragment.outline_word,
                        Fragment.outline_append, Fragment.outline_join, bound]
                      rfl
          | _ => cases lengthW
      | _ => cases lengthV

theorem render_leaf_alike (aliases : AliasMap) (index : Nat) (l m : Leaf) (alike : l.Alike m) :
    (renderLeaf aliases index l).outline = (renderLeaf aliases index m).outline := by
  obtain ⟨target, column, op, operand⟩ := l
  obtain ⟨target', column', op', operand'⟩ := m
  obtain ⟨rfl, rfl, rfl, operands⟩ := alike
  cases operand with
  | none =>
      cases operand' with
      | none => rfl
      | _ => exact operands.elim
  | single v =>
      cases operand' with
      | single w => rfl
      | _ => exact operands.elim
  | pair a b =>
      cases operand' with
      | pair c d => rfl
      | _ => exact operands.elim
  | list v =>
      cases operand' with
      | list w =>
          exact render_list_alike aliases index _ _ ⟨rfl, rfl, rfl, operands⟩ v w rfl rfl operands.2
      | _ => exact operands.elim

mutual
theorem render_alike (aliases : AliasMap) (index : Nat) (p q : Predicate) (alike : p.Alike q) :
    (render aliases index p).outline = (render aliases index q).outline := by
  cases p with
  | simple l =>
      cases q with
      | simple m =>
          rw [render, render, Leaf.alike_valid l m alike]
          split
          · exact render_leaf_alike aliases index l m alike
          · rfl
      | _ => exact alike.elim
  | conjunction ps =>
      cases q with
      | conjunction qs =>
          rw [render_conjunction, render_conjunction, outline_conjoined, outline_conjoined,
            render_each_alike aliases index ps qs alike]
      | _ => exact alike.elim
  | disjunction ps =>
      cases q with
      | disjunction qs =>
          rw [render, render, ← Predicate.drops_all_eq_all, ← Predicate.drops_all_eq_all,
            Predicate.alike_drops_all ps qs alike]
          split
          · rfl
          · rw [outline_parenthesized, outline_parenthesized, Fragment.outline_join,
              Fragment.outline_join, render_each_alike aliases index ps qs alike]
      | _ => exact alike.elim
  | negation p =>
      cases q with
      | negation q =>
          have inner := render_alike aliases index p q alike
          rw [render, render, List.cons_append, List.cons_append, Fragment.outline_word,
            Fragment.outline_word, Fragment.outline_append, Fragment.outline_append, inner]
      | _ => exact alike.elim

theorem render_each_alike (aliases : AliasMap) (index : Nat) (ps qs : List Predicate)
    (alike : Predicate.AlikeAll ps qs) :
    (renderEach aliases index ps).map Fragment.outline =
      (renderEach aliases index qs).map Fragment.outline := by
  cases ps with
  | nil =>
      cases qs with
      | nil => rfl
      | cons q qs => exact alike.elim
  | cons p ps =>
      cases qs with
      | nil => exact alike.elim
      | cons q qs =>
          have first := render_alike aliases index p q alike.1
          have numbers := congrArg List.length (Fragment.alike_numbers _ _ first)
          rw [List.length_map, List.length_map] at numbers
          rw [renderEach, renderEach, List.map_cons, List.map_cons, first, numbers,
            render_each_alike aliases _ ps qs alike.2]
end

end Condition

end Inquiry
