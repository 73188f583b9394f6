import Inquiry.Proofs.Predicate.Construction

set_option autoImplicit false

namespace Inquiry

def Operand.given : Operand → List Value
  | none => []
  | single v => [v]
  | pair a b => [a, b]
  | list v => [v]

theorem Operand.has_null_iff (o : Operand) :
    o.hasNull = true ↔ ∃ v ∈ o.given, v.isNull = true := by
  cases o <;> simp [hasNull, given]

structure Leaf.Formed (l : Leaf) : Prop where
  form : l.operand.fits l.op.arity = true
  invalid : l.isValid = false ↔ l.op.arity ≠ .none ∧ ∃ v ∈ l.operand.given, v.isNull = true

theorem Leaf.formed_of_fits (l : Leaf) (fits : l.operand.fits l.op.arity = true) : l.Formed where
  form := fits
  invalid := by
    rw [l.valid_eq, Operator.nullSafe, Bool.or_eq_false_iff, decide_eq_false_iff_not,
      Bool.not_eq_false', Operand.has_null_iff]

def Arity.Takes : Arity → Nat → Prop
  | none, n => n = 0
  | one, n => n = 1
  | two, n => n = 2
  | list, _ => True

namespace Predicate

def sequenceOf (values : List Value) : Value :=
  match values with
  | [v] => if v.kind = .list ∨ v.kind = .null then v else .list [v]
  | _ => .list values

def factory? (column : String) : Operator → List Value → Option Predicate
  | .equal, [v] => some (equal column v)
  | .notEqual, [v] => some (notEqual column v)
  | .greaterThan, [v] => some (greaterThan column v)
  | .greaterOrEqual, [v] => some (greaterOrEqual column v)
  | .lessThan, [v] => some (lessThan column v)
  | .lessOrEqual, [v] => some (lessOrEqual column v)
  | .like, [v] => some (like column v)
  | .notLike, [v] => some (notLike column v)
  | .isIn, values => some (inList column (sequenceOf values))
  | .notIn, values => some (notIn column (sequenceOf values))
  | .between, [low, high] => some (between column low high)
  | .isNull, [] => some (isNull column)
  | .isNotNull, [] => some (isNotNull column)
  | _, _ => none

theorem operand_of_sequence (values : List Value) :
    operandOf? .list values = some (.list (sequenceOf values)) := by
  match values with
  | [] => rfl
  | [v] => cases v <;> rfl
  | v :: w :: rest => cases v <;> rfl

theorem operand_of_none_iff (arity : Arity) (values : List Value) :
    operandOf? arity values = none ↔ ¬ arity.Takes values.length := by
  cases arity with
  | list => simp [operand_of_sequence, Arity.Takes]
  | none | one | two =>
      match values with
      | [] | [_] | [_, _] => simp [operandOf?, Arity.Takes]
      | _ :: _ :: _ :: _ => simp [operandOf?, Arity.Takes]

theorem factory_eq (column : String) (op : Operator) (values : List Value) :
    factory? column op values = (operandOf? op.arity values).map (compare column op) := by
  cases op with
  | isIn | notIn => rw [Operator.arity, operand_of_sequence]; rfl
  | _ =>
      match values with
      | [] | [_] | [_, _] => rfl
      | _ :: _ :: _ :: _ => rfl

theorem operand_of_given (arity : Arity) (values : List Value) (operand : Operand)
    (chosen : operandOf? arity values = some operand) :
    operand.given = values ∨ operand = .list (.list values) := by
  rw [operandOf?.eq_def] at chosen
  split at chosen <;> cases chosen <;> simp [Operand.given]

section

variable (column : String) (op : Operator) (values : List Value)

theorem factory_none_iff :
    factory? column op values = none ↔ ¬ op.arity.Takes values.length := by
  rw [factory_eq, Option.map_eq_none_iff, operand_of_none_iff]

theorem of_values_eq :
    ofValues column op values = match factory? column op values with
      | some p => .ok p
      | none => .error (.invalidPredicate column
          s!"operator {op.keyword} expects {op.arity.name} operand(s), got {values.length}") := by
  rw [ofValues, factory_eq]
  cases operandOf? op.arity values <;> rfl

theorem of_values_ok_iff (p : Predicate) :
    ofValues column op values = .ok p ↔ factory? column op values = some p := by
  rw [of_values_eq]
  cases factory? column op values <;> simp

theorem of_values_error_iff (e : QueryError) :
    ofValues column op values = .error e ↔ ¬ op.arity.Takes values.length ∧
      e = .invalidPredicate column
        s!"operator {op.keyword} expects {op.arity.name} operand(s), got {values.length}" := by
  rw [of_values_eq, ← factory_none_iff column op values]
  cases factory? column op values <;> simp [eq_comm]

structure AgreesWithFactory : Prop where
  fails : (∃ e, ofValues column op values = .error e) ↔ ¬ op.arity.Takes values.length
  invalid : ∀ e, ofValues column op values = .error e → ∃ reason, e = .invalidPredicate column reason
  makes : op.arity.Takes values.length →
    ∃ p, factory? column op values = some p ∧ ofValues column op values = .ok p
  keeps : ∀ p, ofValues column op values = .ok p → ∃ l, p = simple l ∧ l.column = column ∧
    l.op = op ∧ (l.operand.given = values ∨ l.operand = .list (.list values))

theorem of_values_agrees : AgreesWithFactory column op values where
  fails := by
    simp only [of_values_error_iff, exists_and_left, exists_eq, and_true]
  invalid e failed := ⟨_, ((of_values_error_iff column op values e).mp failed).2⟩
  makes takes := by
    cases made : factory? column op values with
    | none => exact absurd takes ((factory_none_iff column op values).mp made)
    | some p => exact ⟨p, rfl, (of_values_ok_iff column op values p).mpr made⟩
  keeps p built := by
    have made := (of_values_ok_iff column op values p).mp built
    rw [factory_eq, Option.map_eq_some_iff] at made
    obtain ⟨operand, chosen, rfl⟩ := made
    exact ⟨_, rfl, rfl, rfl, operand_of_given op.arity values operand chosen⟩

end

theorem constructed_leaves_are_formed (p : Predicate) (built : p.Constructed) :
    (∀ l ∈ p.leaves, l.Formed) ∧ ∀ column op values, AgreesWithFactory column op values :=
  ⟨fun l member => l.formed_of_fits (constructed_fits p built l member), of_values_agrees⟩

theorem retargeted_leaves_are_formed :
    let excluded := notIn "id" .null
    let both := conjunction [between "age" (.int 1) .null, negation excluded]
    parse "id" "not_in" [.null] = .ok excluded ∧
      ((both.ofEntity ⟨"User"⟩).withAlias "u").Constructed ∧
      ∀ l ∈ ((both.ofEntity ⟨"User"⟩).withAlias "u").leaves, l.Formed := by
  intro excluded both
  have parsed : parse "id" "not_in" [.null] = .ok excluded := rfl
  have built : ((both.ofEntity ⟨"User"⟩).withAlias "u").Constructed := by
    refine .withAlias "u" _ (.ofEntity ⟨"User"⟩ _ (.conjunction _ ?_))
    rw [List.forall_mem_cons, List.forall_mem_singleton]
    exact ⟨.between "age" (.int 1) .null, .negation _ (.parse "id" "not_in" [.null] _ parsed)⟩
  exact ⟨parsed, built, (constructed_leaves_are_formed _ built).1⟩

end Predicate

end Inquiry
