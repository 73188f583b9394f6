import Inquiry.Condition.Compiler

set_option autoImplicit false

namespace Inquiry

structure Collector where
  compiler : Compiler
  params : Bindings Nat Value

namespace Collector

def new (policy : NullPolicy) (aliases : AliasMap) (first : Nat) : Collector :=
  ⟨.new policy aliases first, .empty⟩

def compile (c : Collector) (p : Predicate) : Outcome String × Collector :=
  match c.compiler.compile p with
  | .ok (f, compiler) => (.ok f.text, ⟨compiler, c.params.insertAll f.bindings⟩)
  | .error e => (.error e, c)

def compileAll (c : Collector) : List Predicate → List (Outcome String) × Collector
  | [] => ([], c)
  | p :: rest =>
      let (outcome, next) := c.compile p
      let (outcomes, last) := next.compileAll rest
      (outcome :: outcomes, last)

end Collector

end Inquiry
