import Inquiry.Proofs.Condition.Numbering

set_option autoImplicit false

namespace Inquiry

namespace Fragment

theorem is_blank_iff (f : Fragment) : f.isBlank = true ↔ f.text = "" := by
  induction f with
  | nil => simp [isBlank, text]
  | cons piece rest ih =>
      have each : piece.isBlank = true ↔ piece.text = "" := by
        cases piece with
        | word s => simp [Piece.isBlank, Piece.text]
        | placeholder index value => simp [Piece.isBlank, Piece.text]
      have split : text (piece :: rest) = piece.text ++ text rest := by
        simp [text, String.join_cons]
      rw [split, String.append_eq_empty_iff, ← each, ← ih]
      simp [isBlank]

end Fragment

namespace Condition

theorem parenthesized_blank (f : Fragment) : (parenthesized f).isBlank = false := by
  simp [parenthesized, Fragment.isBlank, Piece.isBlank]

theorem conjoined_blank (fs : List Fragment) :
    (conjoined fs).isBlank = fs.all Fragment.isBlank := by
  rw [conjoined]
  cases kept : fs.filter fun f => !Fragment.isBlank f with
  | nil =>
      have blank := List.filter_eq_nil_iff.mp kept
      symm
      simpa [Fragment.isBlank] using blank
  | cons f rest =>
      have member : f ∈ fs.filter fun f => !Fragment.isBlank f := by
        rw [kept]
        exact List.mem_cons_self
      obtain ⟨inside, filled⟩ := List.mem_filter.mp member
      have filled : f.isBlank = false := by simpa using filled
      dsimp only
      rw [parenthesized_blank]
      symm
      exact List.all_eq_false.mpr ⟨f, inside, by simp [filled]⟩

theorem render_leaf_blank (aliases : AliasMap) (index : Nat) (l : Leaf) :
    (renderLeaf aliases index l).isBlank = false := by
  have opened (s : String) (rest : Fragment) (filled : s ≠ "") :
      Fragment.isBlank (.word s :: rest) = false := by
    simp [Fragment.isBlank, Piece.isBlank, filled]
  obtain ⟨target, column, op, operand⟩ := l
  cases operand with
  | none => exact opened _ _ (by simp)
  | single v => exact opened _ _ (by simp)
  | pair a b => exact opened _ _ (by simp)
  | list v =>
      cases v with
      | list items =>
          cases items with
          | nil => exact opened _ _ (by dsimp only; split <;> simp)
          | cons item rest => exact opened _ _ (by simp)
      | _ => exact opened _ _ (by simp)

mutual
theorem render_blank (aliases : AliasMap) (index : Nat) (p : Predicate) :
    (render aliases index p).isBlank = p.drops := by
  cases p with
  | simple leaf =>
      rw [render, Predicate.drops]
      by_cases valid : leaf.isValid = true
      · simp [valid, render_leaf_blank]
      · simp [valid, Fragment.isBlank]
  | conjunction ps =>
      rw [render_conjunction, conjoined_blank, Predicate.drops]
      exact render_each_blank aliases index ps
  | disjunction ps =>
      rw [render, Predicate.drops, Predicate.drops_all_eq_all]
      by_cases drops : ps.all Predicate.drops = true
      · rw [if_pos drops, drops]
        rfl
      · rw [if_neg drops, parenthesized_blank, Bool.eq_false_iff.mpr drops]
  | negation p => simp [render, Predicate.drops, Fragment.isBlank, Piece.isBlank]

theorem render_each_blank (aliases : AliasMap) (index : Nat) (ps : List Predicate) :
    (renderEach aliases index ps).all Fragment.isBlank = Predicate.dropsAll ps := by
  cases ps with
  | nil => rfl
  | cons p rest =>
      rw [renderEach, List.all_cons, render_blank aliases index p, render_each_blank aliases _ rest,
        Predicate.dropsAll]
end

theorem render_text_empty_iff (aliases : AliasMap) (index : Nat) (p : Predicate) :
    (render aliases index p).text = "" ↔ p.drops = true := by
  rw [← Fragment.is_blank_iff, render_blank]

end Condition

end Inquiry
