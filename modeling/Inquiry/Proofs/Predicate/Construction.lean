import Inquiry.Predicate.Build

set_option autoImplicit false

namespace Inquiry

def Operand.arity : Operand → Arity
  | none => .none
  | single _ => .one
  | pair _ _ => .two
  | list _ => .list

theorem Operand.fits_iff (o : Operand) (arity : Arity) :
    o.fits arity = true ↔ arity = o.arity := by
  cases o <;> cases arity <;> simp [Operand.fits, Operand.arity]

namespace Predicate

inductive Constructed : Predicate → Prop
  | equal (column : String) (value : Value) : Constructed (equal column value)
  | notEqual (column : String) (value : Value) : Constructed (notEqual column value)
  | greaterThan (column : String) (value : Value) : Constructed (greaterThan column value)
  | greaterOrEqual (column : String) (value : Value) : Constructed (greaterOrEqual column value)
  | lessThan (column : String) (value : Value) : Constructed (lessThan column value)
  | lessOrEqual (column : String) (value : Value) : Constructed (lessOrEqual column value)
  | like (column : String) (pattern : Value) : Constructed (like column pattern)
  | notLike (column : String) (pattern : Value) : Constructed (notLike column pattern)
  | inList (column : String) (values : Value) : Constructed (inList column values)
  | notIn (column : String) (values : Value) : Constructed (notIn column values)
  | between (column : String) (low high : Value) : Constructed (between column low high)
  | isNull (column : String) : Constructed (isNull column)
  | isNotNull (column : String) : Constructed (isNotNull column)
  | ofValues (column : String) (op : Operator) (values : List Value) (p : Predicate)
      (built : ofValues column op values = .ok p) : Constructed p
  | parse (column operator : String) (values : List Value) (p : Predicate)
      (built : parse column operator values = .ok p) : Constructed p
  | conjunction (ps : List Predicate) (children : ∀ p ∈ ps, Constructed p) :
      Constructed (conjunction ps)
  | disjunction (ps : List Predicate) (children : ∀ p ∈ ps, Constructed p) :
      Constructed (disjunction ps)
  | negation (p : Predicate) (child : Constructed p) : Constructed (negation p)
  | withAlias (aliasName : String) (p : Predicate) (inner : Constructed p) :
      Constructed (p.withAlias aliasName)
  | ofEntity (entity : Entity) (p : Predicate) (inner : Constructed p) :
      Constructed (p.ofEntity entity)

def Fits (p : Predicate) : Prop := ∀ l ∈ p.leaves, l.operand.fits l.op.arity = true

theorem mem_leaves_of_all (ps : List Predicate) (l : Leaf) :
    l ∈ leavesOfAll ps ↔ ∃ p ∈ ps, l ∈ p.leaves := by
  induction ps with
  | nil => simp [leavesOfAll]
  | cons p rest ih => simp [leavesOfAll, ih]

mutual
theorem leaves_map (f : Leaf → Leaf) (p : Predicate) : (p.mapLeaves f).leaves = p.leaves.map f := by
  cases p with
  | simple l => rfl
  | conjunction ps => exact leaves_of_all_map f ps
  | disjunction ps => exact leaves_of_all_map f ps
  | negation p => exact leaves_map f p

theorem leaves_of_all_map (f : Leaf → Leaf) (ps : List Predicate) :
    leavesOfAll (mapLeavesOfAll f ps) = (leavesOfAll ps).map f := by
  cases ps with
  | nil => rfl
  | cons p rest =>
      rw [mapLeavesOfAll, leavesOfAll, leavesOfAll, leaves_map f p, leaves_of_all_map f rest,
        List.map_append]
end

theorem fits_of_all (ps : List Predicate) (each : ∀ p ∈ ps, p.Fits) :
    ∀ l ∈ leavesOfAll ps, l.operand.fits l.op.arity = true := by
  intro l member
  obtain ⟨p, inside, leaf⟩ := (mem_leaves_of_all ps l).mp member
  exact each p inside l leaf

theorem retarget_fits (target : Target) (p : Predicate) (fits : p.Fits) :
    (p.retarget target).Fits := by
  intro l member
  rw [retarget, leaves_map] at member
  obtain ⟨old, inside, rfl⟩ := List.mem_map.mp member
  have kept := fits old inside
  rw [Leaf.retarget]
  split <;> exact kept

theorem compare_fits (column : String) (op : Operator) (operand : Operand)
    (fits : operand.fits op.arity = true) : (compare column op operand).Fits := by
  intro l member
  obtain rfl := List.mem_singleton.mp member
  exact fits

theorem operand_of_fits (arity : Arity) (values : List Value) (operand : Operand)
    (chosen : operandOf? arity values = some operand) : operand.fits arity = true := by
  rw [operandOf?.eq_def] at chosen
  split at chosen <;> cases chosen <;> rfl

theorem of_values_fits (column : String) (op : Operator) (values : List Value) (p : Predicate)
    (built : ofValues column op values = .ok p) : p.Fits := by
  rw [ofValues] at built
  cases chosen : operandOf? op.arity values with
  | none => simp [chosen] at built
  | some operand =>
      simp only [chosen, Except.ok.injEq] at built
      subst built
      exact compare_fits column op operand (operand_of_fits op.arity values operand chosen)

theorem parse_fits (column operator : String) (values : List Value) (p : Predicate)
    (built : parse column operator values = .ok p) : p.Fits := by
  rw [parse] at built
  cases read : Operator.parse operator with
  | error e => simp [read] at built
  | ok op =>
      simp only [read] at built
      exact of_values_fits column op values p built

theorem constructed_fits (p : Predicate) (built : p.Constructed) : p.Fits := by
  induction built with
  | ofValues column op values p built => exact of_values_fits column op values p built
  | parse column operator values p built => exact parse_fits column operator values p built
  | conjunction ps children ih => exact fits_of_all ps ih
  | disjunction ps children ih => exact fits_of_all ps ih
  | negation p child ih => exact ih
  | withAlias aliasName p inner ih => exact retarget_fits (.named aliasName) p ih
  | ofEntity entity p inner ih => exact retarget_fits (.entity entity) p ih
  | _ => exact compare_fits _ _ _ rfl

end Predicate

end Inquiry
