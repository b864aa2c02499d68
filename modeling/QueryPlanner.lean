import QueryPlanner.Main
import QueryPlanner.Proofs.Command.Printing
import QueryPlanner.Proofs.Condition.Isolation
import QueryPlanner.Proofs.Condition.LineEnds
import QueryPlanner.Proofs.Condition.Locality
import QueryPlanner.Proofs.Condition.NumberTokens
import QueryPlanner.Proofs.Condition.Positions
import QueryPlanner.Proofs.Condition.Rendering
import QueryPlanner.Proofs.Condition.Walk
import QueryPlanner.Proofs.Date.Readings
import QueryPlanner.Proofs.Json.Repetition
import QueryPlanner.Proofs.Plan.Acceptance
import QueryPlanner.Proofs.Plan.Chains
import QueryPlanner.Proofs.Plan.Filtering
import QueryPlanner.Proofs.Plan.Links
import QueryPlanner.Proofs.Plan.Meaning
import QueryPlanner.Proofs.Plan.Order
import QueryPlanner.Proofs.Plan.Paging
import QueryPlanner.Proofs.Plan.Recomputation
import QueryPlanner.Proofs.Plan.Requests
import QueryPlanner.Proofs.Plan.WholeNumbers
import QueryPlanner.Proofs.Predicate.Rerooting
import QueryPlanner.Proofs.Predicate.Unambiguous
import QueryPlanner.Proofs.Schema.Closure
import QueryPlanner.Proofs.Schema.Saving
import QueryPlanner.Proofs.Schema.Shapes
