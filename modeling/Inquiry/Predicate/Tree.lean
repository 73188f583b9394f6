import Inquiry.Predicate.Leaf

set_option autoImplicit false

namespace Inquiry

inductive Predicate where
  | simple (leaf : Leaf)
  | conjunction (children : List Predicate)
  | disjunction (children : List Predicate)
  | negation (child : Predicate)

namespace Predicate

inductive NodeKind where
  | simple
  | conjunction
  | disjunction
  | negation
deriving DecidableEq, Repr

def NodeKind.name : NodeKind → String
  | simple => "Simple"
  | conjunction => "And"
  | disjunction => "Or"
  | negation => "Not"

def nodeKind : Predicate → NodeKind
  | simple _ => .simple
  | conjunction _ => .conjunction
  | disjunction _ => .disjunction
  | negation _ => .negation

def leaf? : Predicate → Option Leaf
  | simple leaf => some leaf
  | _ => none

def children : Predicate → List Predicate
  | simple _ => []
  | conjunction ps => ps
  | disjunction ps => ps
  | negation p => [p]

mutual
def leaves : Predicate → List Leaf
  | simple leaf => [leaf]
  | conjunction ps => leavesOfAll ps
  | disjunction ps => leavesOfAll ps
  | negation p => leaves p
def leavesOfAll : List Predicate → List Leaf
  | [] => []
  | p :: rest => leaves p ++ leavesOfAll rest
end

mutual
def drops : Predicate → Bool
  | simple leaf => !leaf.isValid
  | conjunction ps => dropsAll ps
  | disjunction ps => dropsAll ps
  | negation _ => false
def dropsAll : List Predicate → Bool
  | [] => true
  | p :: rest => drops p && dropsAll rest
end

mutual
def mapLeaves (f : Leaf → Leaf) : Predicate → Predicate
  | simple leaf => simple (f leaf)
  | conjunction ps => conjunction (mapLeavesOfAll f ps)
  | disjunction ps => disjunction (mapLeavesOfAll f ps)
  | negation p => negation (mapLeaves f p)
def mapLeavesOfAll (f : Leaf → Leaf) : List Predicate → List Predicate
  | [] => []
  | p :: rest => mapLeaves f p :: mapLeavesOfAll f rest
end

def isValid : Predicate → Bool
  | simple leaf => leaf.isValid
  | _ => true

def isEmpty : Predicate → Bool
  | conjunction ps => ps.all drops
  | disjunction ps => ps.all drops
  | _ => false

def firstInvalid? (p : Predicate) : Option Leaf := p.leaves.find? fun leaf => !leaf.isValid

def boundValues (p : Predicate) : List Value :=
  (p.leaves.filter Leaf.isValid).flatMap fun leaf => leaf.operand.values

def retarget (target : Target) (p : Predicate) : Predicate := p.mapLeaves (Leaf.retarget target)

def withAlias (aliasName : String) (p : Predicate) : Predicate := p.retarget (.named aliasName)

def ofEntity (entity : Entity) (p : Predicate) : Predicate := p.retarget (.entity entity)

theorem drops_all_eq_all (ps : List Predicate) : dropsAll ps = ps.all drops := by
  induction ps with
  | nil => rfl
  | cons p rest ih => simp [dropsAll, ih]

theorem drops_eq (p : Predicate) : p.drops = (!p.isValid || p.isEmpty) := by
  cases p <;> simp [drops, isValid, isEmpty, drops_all_eq_all]

end Predicate

end Inquiry
