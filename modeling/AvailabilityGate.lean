import AvailabilityGate.Admission.Request
import AvailabilityGate.Admission.Response
import AvailabilityGate.Admission.ResponseForm
import AvailabilityGate.Arithmetic.Significant
import AvailabilityGate.Bound.Basic
import AvailabilityGate.Bound.Percentage
import AvailabilityGate.Bound.Scaling
import AvailabilityGate.Cluster.Form
import AvailabilityGate.Cluster.Kubeconfig
import AvailabilityGate.Cluster.Spelling
import AvailabilityGate.CommandLine.Arguments
import AvailabilityGate.CommandLine.Flag
import AvailabilityGate.CommandLine.Help
import AvailabilityGate.Decimal.Scaled
import AvailabilityGate.Decimal.Shortest
import AvailabilityGate.Decode.Basic
import AvailabilityGate.Decode.Failure
import AvailabilityGate.Decode.Field
import AvailabilityGate.Decode.FreeForm
import AvailabilityGate.Decode.Record
import AvailabilityGate.Decode.Variant
import AvailabilityGate.Deployment
import AvailabilityGate.Document.Basic
import AvailabilityGate.Document.Numeral
import AvailabilityGate.Document.Quote
import AvailabilityGate.Document.Reader
import AvailabilityGate.Document.Token
import AvailabilityGate.Gateway.Basic
import AvailabilityGate.Gateway.Config
import AvailabilityGate.Gateway.Fault
import AvailabilityGate.Gateway.Verdict
import AvailabilityGate.Governing
import AvailabilityGate.Health
import AvailabilityGate.Http.MediaType
import AvailabilityGate.Http.Message
import AvailabilityGate.Http.Status
import AvailabilityGate.Http.Uri
import AvailabilityGate.Json.Basic
import AvailabilityGate.Json.Pointer
import AvailabilityGate.Json.Printer
import AvailabilityGate.Json.Yaml
import AvailabilityGate.Label.Selector
import AvailabilityGate.Label.Syntax
import AvailabilityGate.Listing.Endpoint
import AvailabilityGate.Listing.Fault
import AvailabilityGate.Log
import AvailabilityGate.Main
import AvailabilityGate.Manifest
import AvailabilityGate.Metrics.Basic
import AvailabilityGate.Metrics.Exposition
import AvailabilityGate.Metrics.Histogram
import AvailabilityGate.Net.SocketAddress
import AvailabilityGate.ObjectMeta
import AvailabilityGate.OsFault
import AvailabilityGate.Pod.Containers
import AvailabilityGate.Pod.Placement
import AvailabilityGate.Pod.Security
import AvailabilityGate.Pod.Volumes
import AvailabilityGate.Policy.Basic
import AvailabilityGate.Program
import AvailabilityGate.Proofs.Admission.Answer
import AvailabilityGate.Proofs.Admission.Envelope
import AvailabilityGate.Proofs.Admission.Object
import AvailabilityGate.Proofs.Arithmetic.Significant
import AvailabilityGate.Proofs.Bound.Exactness
import AvailabilityGate.Proofs.Bound.Percentage
import AvailabilityGate.Proofs.ByteOrder
import AvailabilityGate.Proofs.CommandLine.Assignment
import AvailabilityGate.Proofs.CommandLine.IgnoredNamespaces
import AvailabilityGate.Proofs.CommandLine.Line
import AvailabilityGate.Proofs.Decode.Acceptance
import AvailabilityGate.Proofs.Decode.FieldList
import AvailabilityGate.Proofs.Decode.Fields
import AvailabilityGate.Proofs.Decode.Frame
import AvailabilityGate.Proofs.Decode.FreeForm
import AvailabilityGate.Proofs.Decode.InMemory
import AvailabilityGate.Proofs.Decode.Intact
import AvailabilityGate.Proofs.Decode.Recovery
import AvailabilityGate.Proofs.Decode.Shape
import AvailabilityGate.Proofs.Decode.Spelling
import AvailabilityGate.Proofs.Decode.Uniform
import AvailabilityGate.Proofs.Document.Compact
import AvailabilityGate.Proofs.Document.Scalars
import AvailabilityGate.Proofs.Fallible
import AvailabilityGate.Proofs.Gateway.Bypass
import AvailabilityGate.Proofs.Gateway.Coherence
import AvailabilityGate.Proofs.Gateway.Consultation
import AvailabilityGate.Proofs.Gateway.Decision
import AvailabilityGate.Proofs.Gateway.Noninterference
import AvailabilityGate.Proofs.Gateway.Placement
import AvailabilityGate.Proofs.Governing.Failure
import AvailabilityGate.Proofs.Governing.Fold
import AvailabilityGate.Proofs.Governing.Keys
import AvailabilityGate.Proofs.Governing.ListingOrder
import AvailabilityGate.Proofs.Governing.Optimum
import AvailabilityGate.Proofs.Governing.Ranking
import AvailabilityGate.Proofs.Governing.Specification
import AvailabilityGate.Proofs.Label.Grammar
import AvailabilityGate.Proofs.Label.Precedence
import AvailabilityGate.Proofs.Listing.Stored
import AvailabilityGate.Proofs.Manifest.Deployment
import AvailabilityGate.Proofs.Manifest.Detour
import AvailabilityGate.Proofs.Manifest.Home
import AvailabilityGate.Proofs.Manifest.Metadata
import AvailabilityGate.Proofs.Manifest.Parts
import AvailabilityGate.Proofs.Manifest.Reading
import AvailabilityGate.Proofs.Metrics.Conservation
import AvailabilityGate.Proofs.Metrics.Counting
import AvailabilityGate.Proofs.Policy.Published
import AvailabilityGate.Proofs.Policy.RoundTrip
import AvailabilityGate.Proofs.Rule.Blame
import AvailabilityGate.Proofs.Rule.Comparison
import AvailabilityGate.Proofs.Rule.Decision
import AvailabilityGate.Proofs.Rule.Declarations
import AvailabilityGate.Proofs.Rule.Distinctness
import AvailabilityGate.Proofs.Rule.Independence
import AvailabilityGate.Proofs.Rule.Isolation
import AvailabilityGate.Proofs.Rule.Replicas
import AvailabilityGate.Proofs.Rule.Satisfiability
import AvailabilityGate.Proofs.Rule.Strictness
import AvailabilityGate.Proofs.Rule.Visibility
import AvailabilityGate.Proofs.Schema.Coverage
import AvailabilityGate.Proofs.SelectorMeaning
import AvailabilityGate.Proofs.Text.Division
import AvailabilityGate.Proofs.Text.Pattern
import AvailabilityGate.Proofs.Time.RoundTrip
import AvailabilityGate.Proofs.Webhook.MalformedObject
import AvailabilityGate.Proofs.Webhook.Rejection
import AvailabilityGate.Proofs.Webhook.Story
import AvailabilityGate.Rule.Replicas
import AvailabilityGate.Rule.Report
import AvailabilityGate.Rule.Resources
import AvailabilityGate.Rule.Strategy
import AvailabilityGate.Rule.Validation
import AvailabilityGate.Schema.Basic
import AvailabilityGate.Schema.Policy
import AvailabilityGate.Shape
import AvailabilityGate.Table
import AvailabilityGate.Text.Blank
import AvailabilityGate.Text.Bytes
import AvailabilityGate.Text.Pattern
import AvailabilityGate.Text.Pieces
import AvailabilityGate.Text.Quoted
import AvailabilityGate.Text.Terminal
import AvailabilityGate.Text.Unprintable
import AvailabilityGate.Time.Basic
import AvailabilityGate.Time.Text
import AvailabilityGate.Tls.Base64
import AvailabilityGate.Tls.Material
import AvailabilityGate.Tls.Pem
import AvailabilityGate.TypeMeta
import AvailabilityGate.Violation
import AvailabilityGate.Webhook
