import DicePipeline.Interaction.Recovery
import DicePipeline.Submission.Dedup
import DicePipeline.Submission.Resubmits
import DicePipeline.Submission.Current
import DicePipeline.Runs.Frozen
import DicePipeline.Runs.Webhooks
import DicePipeline.Runs.Closing
import DicePipeline.Submission.AllOrNothing
import DicePipeline.Attempt.Lineage
import DicePipeline.Throttle.Hits
import DicePipeline.Throttle.Cap
import DicePipeline.Throttle.Lockout
import DicePipeline.Requeue.Stuck
import DicePipeline.Submission.Clash
import DicePipeline.Runs.Chains
import DicePipeline.Submission.Originals
import DicePipeline.Attempt.Isolation
import DicePipeline.Redelivery.Convergence
import DicePipeline.Api.MappedAddress
import DicePipeline.Webhook.Check
import DicePipeline.Ocr.Output
import DicePipeline.Ocr.Pages
import DicePipeline.Ocr.ReadingOrder
import DicePipeline.Submission.Refusals
import DicePipeline.Links.Idempotent
import DicePipeline.AltText.Pairing
import DicePipeline.Fonts.Attribution
import DicePipeline.Fonts.Search
import DicePipeline.Fonts.Descriptors
import DicePipeline.Fonts.RoundTrip
import DicePipeline.Fonts.CidBits
import DicePipeline.Metadata.Finalize
import DicePipeline.Quality.Gate
import DicePipeline.Quality.Antisymmetry
import DicePipeline.Quality.Repeats
import DicePipeline.Verification.Severity
import DicePipeline.Tenancy.Directories
import DicePipeline.Delivery.Retries
import DicePipeline.Delivery.Subscribers
import DicePipeline.Accounts.Credentials
import DicePipeline.Accounts.Columns
import DicePipeline.Scoring.Score
import DicePipeline.Scoring.Findings
import DicePipeline.Scoring.Described
import DicePipeline.Scoring.Linked
import DicePipeline.Quality.Linked
import DicePipeline.Scoring.Pipeline
