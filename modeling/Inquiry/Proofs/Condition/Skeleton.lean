import Inquiry.Builder.State
import Inquiry.Proofs.Condition.Dropping
import Inquiry.Proofs.Predicate.Construction

set_option autoImplicit false

namespace Inquiry

inductive Skeleton where
  | nothing
  | constant (truth : Bool)
  | comparison (aliasName column : String) (op : Operator) (bound : Nat)
  -- The connective shows only between two entries.
  | group (connective : Option Connective) (entries : List Skeleton)
  | negation (child : Skeleton)

namespace Skeleton

def grouped (connective : Connective) (entries : List Skeleton) : Skeleton :=
  group (if 2 ≤ entries.length then some connective else none) entries

def ofLeaf (aliases : AliasMap) (l : Leaf) : Skeleton :=
  match l.operand with
  | .list (.list []) => constant (l.op ≠ .isIn)
  | operand => comparison (l.aliasIn aliases) l.column l.op operand.values.length

mutual
def ofPredicate (aliases : AliasMap) : Predicate → Skeleton
  | .simple l => if l.isValid then ofLeaf aliases l else nothing
  | .conjunction ps =>
      if ps.all Predicate.drops then nothing else grouped .and (ofKept aliases ps)
  | .disjunction ps =>
      if ps.all Predicate.drops then nothing else grouped .or (ofEach aliases ps)
  | .negation p => negation (ofPredicate aliases p)

def ofEach (aliases : AliasMap) : List Predicate → List Skeleton
  | [] => []
  | p :: rest => ofPredicate aliases p :: ofEach aliases rest

def ofKept (aliases : AliasMap) : List Predicate → List Skeleton
  | [] => []
  | p :: rest =>
      if p.drops then ofKept aliases rest else ofPredicate aliases p :: ofKept aliases rest
end

mutual
def bound : Skeleton → Nat
  | nothing => 0
  | constant _ => 0
  | comparison _ _ _ n => n
  | group _ entries => boundOfAll entries
  | negation child => bound child

def boundOfAll : List Skeleton → Nat
  | [] => 0
  | s :: rest => bound s + boundOfAll rest
end

def mark (index : Nat) : List Char := '?' :: (toString index).toList

def marks (index bound : Nat) : List Char :=
  List.intercalate ", ".toList ((List.range' index bound).map mark)

def operandChars (arity : Arity) (index bound : Nat) : List Char :=
  match arity with
  | .none => []
  | .one => ' ' :: mark index
  | .two => ' ' :: mark index ++ " AND ".toList ++ mark (index + 1)
  | .list => " (".toList ++ marks index bound ++ [')']

def separator : Option Connective → List Char
  | some connective => connective.text.toList
  | none => []

mutual
def chars (index : Nat) : Skeleton → List Char
  | nothing => []
  | constant truth => (if truth then "1=1" else "1=0").toList
  | comparison aliasName column op n =>
      aliasName.toList ++ '.' :: (column.toList ++
        ' ' :: (op.keyword.toList ++ operandChars op.arity index n))
  | group connective entries =>
      '(' :: List.intercalate (separator connective) (charsOfEach index entries) ++ [')']
  | negation child => "NOT (".toList ++ chars index child ++ [')']

def charsOfEach (index : Nat) : List Skeleton → List (List Char)
  | [] => []
  | s :: rest => chars index s :: charsOfEach (index + bound s) rest
end

end Skeleton

namespace Fragment

def chars (f : Fragment) : List Char := f.flatMap fun piece => piece.text.toList

theorem to_list_text (f : Fragment) : f.text.toList = f.chars := by
  induction f with
  | nil => rfl
  | cons piece rest ih =>
      have split : text (piece :: rest) = piece.text ++ text rest := by
        simp [text, String.join_cons]
      rw [split, String.toList_append, ih]
      rfl

theorem chars_append (f g : Fragment) : chars (f ++ g) = chars f ++ chars g :=
  List.flatMap_append

theorem chars_word (s : String) (f : Fragment) : chars (.word s :: f) = s.toList ++ chars f := rfl

theorem chars_placeholder (index : Nat) (v : Value) (f : Fragment) :
    chars (.placeholder index v :: f) = Skeleton.mark index ++ chars f := by
  simp [chars, Piece.text, Skeleton.mark]

theorem chars_join (separator : String) (fs : List Fragment) :
    (join separator fs).chars = List.intercalate separator.toList (fs.map chars) := by
  induction fs with
  | nil => rfl
  | cons f rest ih =>
      cases rest with
      | nil => simp [join, List.intercalate, chars]
      | cons g tail =>
          rw [join_cons_cons, chars_append, chars_word, ih]
          simp [List.intercalate]

theorem chars_bind_from (index : Nat) (vs : List Value) :
    (bindFrom index vs).map chars = (List.range' index vs.length).map Skeleton.mark := by
  induction vs generalizing index with
  | nil => rfl
  | cons v rest ih =>
      rw [bindFrom, List.map_cons, ih, List.length_cons, List.range'_succ, List.map_cons,
        chars_placeholder]
      simp [chars]

theorem chars_blank (f : Fragment) (blank : f.isBlank = true) : f.chars = [] := by
  rw [← to_list_text, (is_blank_iff f).mp blank]
  rfl

end Fragment

namespace Skeleton

theorem of_leaf_bound (aliases : AliasMap) (l : Leaf) :
    (ofLeaf aliases l).bound = l.operand.values.length := by
  rw [ofLeaf]
  split
  · next empty => rw [empty]; rfl
  · rfl

theorem grouped_bound (connective : Connective) (entries : List Skeleton) :
    (grouped connective entries).bound = boundOfAll entries := by
  rw [grouped, bound]

mutual
theorem of_predicate_bound (aliases : AliasMap) (p : Predicate) :
    (ofPredicate aliases p).bound = p.boundValues.length := by
  cases p with
  | simple l =>
      by_cases valid : l.isValid = true
      · simp [ofPredicate, valid, of_leaf_bound, Predicate.boundValues, Predicate.leaves]
      · simp [ofPredicate, valid, bound, Predicate.boundValues, Predicate.leaves]
  | conjunction ps =>
      rw [ofPredicate, Predicate.bound_values_conjunction]
      by_cases drops : ps.all Predicate.drops = true
      · rw [if_pos drops, Predicate.bound_values_of_drops_all ps
          ((Predicate.drops_all_eq_all ps).trans drops)]
        rfl
      · rw [if_neg drops, grouped_bound, of_kept_bound aliases ps]
  | disjunction ps =>
      rw [ofPredicate, Predicate.bound_values_disjunction]
      by_cases drops : ps.all Predicate.drops = true
      · rw [if_pos drops, Predicate.bound_values_of_drops_all ps
          ((Predicate.drops_all_eq_all ps).trans drops)]
        rfl
      · rw [if_neg drops, grouped_bound, of_each_bound aliases ps]
  | negation p => exact of_predicate_bound aliases p

theorem of_each_bound (aliases : AliasMap) (ps : List Predicate) :
    boundOfAll (ofEach aliases ps) = (ps.flatMap Predicate.boundValues).length := by
  cases ps with
  | nil => rfl
  | cons p rest =>
      rw [ofEach, boundOfAll, of_predicate_bound aliases p, of_each_bound aliases rest,
        List.flatMap_cons, List.length_append]

theorem of_kept_bound (aliases : AliasMap) (ps : List Predicate) :
    boundOfAll (ofKept aliases ps) = (ps.flatMap Predicate.boundValues).length := by
  cases ps with
  | nil => rfl
  | cons p rest =>
      rw [ofKept, List.flatMap_cons, List.length_append]
      by_cases drops : p.drops = true
      · rw [if_pos drops, of_kept_bound aliases rest, Predicate.bound_values_of_drops p drops]
        simp
      · rw [if_neg drops, boundOfAll, of_predicate_bound aliases p, of_kept_bound aliases rest]
end

theorem grouped_chars (connective : Connective) (index : Nat) (entries : List Skeleton) :
    (grouped connective entries).chars index =
      '(' :: List.intercalate connective.text.toList (charsOfEach index entries) ++ [')'] := by
  rw [grouped, chars]
  match entries with
  | [] => rfl
  | [s] => simp [charsOfEach, List.intercalate]
  | s :: t :: rest => simp [separator]

theorem of_list_chars (aliases : AliasMap) (index : Nat) (l : Leaf) (v : Value)
    (operand : l.operand = .list v) (arity : l.op.arity = .list) :
    (Condition.renderLeaf aliases index l).chars = (ofLeaf aliases l).chars index := by
  cases v with
  | list items =>
      cases items with
      | nil =>
          by_cases same : l.op = .isIn
          · simp [Condition.renderLeaf, ofLeaf, operand, chars, same, Fragment.chars, Piece.text]
          · simp [Condition.renderLeaf, ofLeaf, operand, chars, same, Fragment.chars, Piece.text]
      | cons item rest =>
          have written := Fragment.chars_bind_from index (item :: rest)
          simp only [Condition.renderLeaf, operand, List.cons_append, Fragment.chars_word,
            Fragment.chars_append, Fragment.chars_join, written]
          simp [ofLeaf, operand, chars, arity, operandChars, marks, Fragment.chars, Piece.text,
            Operand.values]
  | _ =>
      simp [Condition.renderLeaf, ofLeaf, operand, chars, arity, operandChars, marks,
        Fragment.chars, Piece.text, Operand.values, mark, List.intercalate]

theorem of_leaf_chars (aliases : AliasMap) (index : Nat) (l : Leaf)
    (fits : l.operand.fits l.op.arity = true) :
    (Condition.renderLeaf aliases index l).chars = (ofLeaf aliases l).chars index := by
  obtain ⟨target, column, op, operand⟩ := l
  have arity : op.arity = operand.arity := (operand.fits_iff op.arity).mp fits
  cases operand with
  | none => simp [Condition.renderLeaf, ofLeaf, chars, arity, Operand.arity, operandChars,
      Fragment.chars, Piece.text]
  | single v => simp [Condition.renderLeaf, ofLeaf, chars, arity, Operand.arity, operandChars,
      Fragment.chars, Piece.text, mark]
  | pair a b => simp [Condition.renderLeaf, ofLeaf, chars, arity, Operand.arity, operandChars,
      Fragment.chars, Piece.text, mark]
  | list v => exact of_list_chars aliases index _ v rfl arity

theorem parenthesized_chars (f : Fragment) :
    (Condition.parenthesized f).chars = '(' :: f.chars ++ [')'] := by
  rw [Condition.parenthesized, List.cons_append, Fragment.chars_word, Fragment.chars_append]
  rfl

mutual
theorem render_chars (aliases : AliasMap) (index : Nat) (p : Predicate) (fits : p.Fits) :
    (Condition.render aliases index p).chars = (ofPredicate aliases p).chars index := by
  cases p with
  | simple l =>
      rw [Condition.render, ofPredicate]
      split
      · exact of_leaf_chars aliases index l (fits l List.mem_cons_self)
      · rfl
  | conjunction ps =>
      have kept := render_kept_chars aliases index ps fits
      have blank := Condition.conjoined_blank (Condition.renderEach aliases index ps)
      rw [Condition.render_each_blank, Predicate.drops_all_eq_all] at blank
      rw [Condition.render_conjunction, ofPredicate]
      by_cases drops : ps.all Predicate.drops = true
      · rw [if_pos drops, Fragment.chars_blank _ (blank.trans drops)]
        rfl
      · rw [if_neg drops, grouped_chars, ← kept]
        rw [Condition.conjoined] at blank ⊢
        split at blank
        · exact absurd blank.symm drops
        · rw [parenthesized_chars, Fragment.chars_join]
          rfl
  | disjunction ps =>
      rw [Condition.render, ofPredicate]
      split
      · rfl
      · rw [parenthesized_chars, Fragment.chars_join, render_each_chars aliases index ps fits,
          grouped_chars]
        rfl
  | negation p =>
      have inner := render_chars aliases index p fits
      rw [Condition.render, List.cons_append, Fragment.chars_word, Fragment.chars_append, inner]
      rfl

theorem render_each_chars (aliases : AliasMap) (index : Nat) (ps : List Predicate)
    (fits : ∀ l ∈ Predicate.leavesOfAll ps, l.operand.fits l.op.arity = true) :
    (Condition.renderEach aliases index ps).map Fragment.chars =
      charsOfEach index (ofEach aliases ps) := by
  cases ps with
  | nil => rfl
  | cons p rest =>
      have first : p.Fits := fun l member => fits l (List.mem_append_left _ member)
      have others := fun l member => fits l (List.mem_append_right p.leaves member)
      rw [Condition.renderEach, ofEach, charsOfEach, List.map_cons,
        render_chars aliases index p first, Condition.render_bindings, Fragment.numbered_length,
        render_each_chars aliases _ rest others, of_predicate_bound]

theorem render_kept_chars (aliases : AliasMap) (index : Nat) (ps : List Predicate)
    (fits : ∀ l ∈ Predicate.leavesOfAll ps, l.operand.fits l.op.arity = true) :
    ((Condition.renderEach aliases index ps).filter fun f => !Fragment.isBlank f).map
        Fragment.chars = charsOfEach index (ofKept aliases ps) := by
  cases ps with
  | nil => rfl
  | cons p rest =>
      have first : p.Fits := fun l member => fits l (List.mem_append_left _ member)
      have others := fun l member => fits l (List.mem_append_right p.leaves member)
      have later := render_kept_chars aliases (index + p.boundValues.length) rest others
      rw [Condition.renderEach, ofKept, List.filter_cons, Condition.render_blank,
        Condition.render_bindings, Fragment.numbered_length]
      by_cases drops : p.drops = true
      · have none := Predicate.bound_values_of_drops p drops
        simp only [drops, Bool.not_true, Bool.false_eq_true, if_false, if_true]
        rw [later, none]
        rfl
      · simp only [drops, Bool.not_false, if_true, List.map_cons]
        rw [render_chars aliases index p first, later, if_neg Bool.false_ne_true, charsOfEach,
          of_predicate_bound]
end

end Skeleton

end Inquiry
