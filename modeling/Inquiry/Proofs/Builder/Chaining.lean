import Inquiry.Proofs.Builder.Failures
import Inquiry.Proofs.Condition.Precedence

set_option autoImplicit false

namespace Inquiry

open Chain

namespace Builder

def kept (steps : List Step) : List Segment :=
  (steps.flatMap Step.segments).filter fun s => !s.predicate.drops

section

variable (entity : Entity) (config : Config) (steps : List Step)

end

end Builder

end Inquiry
