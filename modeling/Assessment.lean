import Assessment.Api.Answer
import Assessment.Logging
import Assessment.Scenario.Step
import Assessment.Store.Settling
import Assessment.Json.Writer
import Assessment.Json.Encoding
import Assessment.Value.Equality
import Assessment.Proofs.AcceptedNumbers
import Assessment.Proofs.Api.Submissions
import Assessment.Proofs.Attempt.Finality
import Assessment.Proofs.Attempt.Hiding
import Assessment.Proofs.Attempt.Isolation
import Assessment.Proofs.Attempt.Starting
import Assessment.Proofs.Attempt.Viewing
import Assessment.Proofs.Authorization
import Assessment.Proofs.Gradebook.Bounds
import Assessment.Proofs.Gradebook.LostUpdates
import Assessment.Proofs.Gradebook.Ranking
import Assessment.Proofs.Gradebook.Review
import Assessment.Proofs.Gradebook.Viewing
import Assessment.Proofs.Payloads
import Assessment.Proofs.Quiz.Freezing
import Assessment.Proofs.Quiz.LastAnswers
import Assessment.Proofs.Quiz.Rechecking
import Assessment.Proofs.Schema.Echoes
import Assessment.Proofs.Signals
import Assessment.Proofs.Sync.Idempotence
import Assessment.Proofs.Sync.Immediate
import Assessment.Proofs.Sync.Passes
import Assessment.Proofs.Sync.Retries
import Assessment.Proofs.Sync.Delivery
import Assessment.Proofs.Sync.Commuting
