import Inquiry.Condition.Fragment
import Inquiry.Predicate.Tree

set_option autoImplicit false

namespace Inquiry

inductive NullPolicy where
  | ignore
  | reject
deriving DecidableEq, Repr

namespace NullPolicy

def name : NullPolicy → String
  | ignore => "Ignore"
  | reject => "Reject"

def ofIgnore (dropped : Bool) : NullPolicy := if dropped then ignore else reject

end NullPolicy

namespace Condition

-- Membership in an empty list is the constant false, and its negation the constant true.
def renderLeaf (aliases : AliasMap) (index : Nat) (l : Leaf) : Fragment :=
  let column := l.aliasIn aliases ++ "." ++ l.column
  match l.operand with
  | .none => [.word (column ++ " " ++ l.op.keyword)]
  | .single v => [.word (column ++ " " ++ l.op.keyword ++ " "), .placeholder index v]
  | .pair a b =>
      [.word (column ++ " " ++ l.op.keyword ++ " "), .placeholder index a, .word " AND ",
        .placeholder (index + 1) b]
  | .list (.list []) => [.word (if l.op = .isIn then "1=0" else "1=1")]
  | .list (.list items) =>
      .word (column ++ " " ++ l.op.keyword ++ " (") ::
        Fragment.join ", " (Fragment.bindFrom index items) ++ [.word ")"]
  | .list v =>
      [.word (column ++ " " ++ l.op.keyword ++ " ("), .placeholder index v, .word ")"]

def parenthesized (f : Fragment) : Fragment := .word "(" :: f ++ [.word ")"]

mutual
-- A conjunction leaves out the children of which nothing is left; in a disjunction they keep their
-- place.
def render (aliases : AliasMap) (index : Nat) : Predicate → Fragment
  | .simple l => if l.isValid then renderLeaf aliases index l else []
  | .conjunction ps =>
      match (renderEach aliases index ps).filter (fun f => !Fragment.isBlank f) with
      | [] => []
      | kept => parenthesized (Fragment.join " AND " kept)
  | .disjunction ps =>
      if ps.all Predicate.drops then []
      else parenthesized (Fragment.join " OR " (renderEach aliases index ps))
  | .negation p => .word "NOT (" :: render aliases index p ++ [.word ")"]
def renderEach (aliases : AliasMap) (index : Nat) : List Predicate → List Fragment
  | [] => []
  | p :: rest =>
      let f := render aliases index p
      f :: renderEach aliases (index + f.bindings.length) rest
end

end Condition

structure Compiler where
  policy : NullPolicy
  aliases : AliasMap
  /-- The number of the next placeholder, which is unbounded here. A 64-bit word holds it as long as
  the first number and the number of values bound since add up to less than 2^64. -/
  next : Nat

namespace Compiler

-- Placeholders are numbered from one even if the first index given is zero.
def new (policy : NullPolicy) (aliases : AliasMap) (first : Nat) : Compiler :=
  ⟨policy, aliases, max first 1⟩

def refusal (l : Leaf) : QueryError :=
  .invalidPredicate l.column s!"null value for operator {l.op.keyword}"

def compile (c : Compiler) (p : Predicate) : Outcome (Fragment × Compiler) :=
  match c.policy, p.firstInvalid? with
  | .reject, some l => .error (refusal l)
  | _, _ =>
      let f := Condition.render c.aliases c.next p
      .ok (f, { c with next := c.next + f.bindings.length })

end Compiler

end Inquiry
