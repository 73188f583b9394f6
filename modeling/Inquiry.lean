import Inquiry.Builder.Summary
import Inquiry.Proofs.Builder.Chaining
import Inquiry.Proofs.Builder.Counting
import Inquiry.Proofs.Builder.Failures
import Inquiry.Proofs.Builder.Likeness
import Inquiry.Proofs.Builder.Parameters
import Inquiry.Proofs.Condition.Unambiguous
import Inquiry.Proofs.Count.Derivation
import Inquiry.Proofs.Run.Paging
import Inquiry.Repository
import Inquiry.Run.Script
import Inquiry.Proofs.Builder.Aliases
import Inquiry.Proofs.Count.Structural
import Inquiry.Proofs.Run.Calls
import Inquiry.Condition.Collector
import Inquiry.Proofs.Condition.Retargeting
import Inquiry.Proofs.Builder.Deleting
import Inquiry.Proofs.Builder.Discarding
import Inquiry.Proofs.Condition.Collecting
import Inquiry.Proofs.Condition.Vanishing
import Inquiry.Proofs.Condition.Pruning
import Inquiry.Proofs.Builder.EmptyConditions
import Inquiry.Proofs.Count.Derivability
import Inquiry.Proofs.Condition.LateBinding
import Inquiry.Proofs.Predicate.Factories
import Inquiry.Proofs.Predicate.Spelling
import Inquiry.Proofs.Value.Inversion
import Inquiry.Proofs.Run.ResultLists
import Inquiry.Proofs.Run.ColumnValues
import Inquiry.Proofs.Run.Shortening
