import HttpDispatch.Failure.Value.Data
import HttpDispatch.Session
import HttpDispatch.Json.Listing
import HttpDispatch.Json.Reader
import HttpDispatch.Proofs.Routing.Report
import HttpDispatch.Proofs.Routing.Selection
import HttpDispatch.Proofs.Routing.FirstMatch
import HttpDispatch.Proofs.Log.Tracing
import HttpDispatch.Proofs.Routing.Answer
import HttpDispatch.Proofs.Http.Framing
import HttpDispatch.Proofs.Text.UpperCase
import HttpDispatch.Proofs.Routing.Activation
import HttpDispatch.Proofs.Routing.Allowed
import HttpDispatch.Proofs.Routing.Correlation
import HttpDispatch.Proofs.Http.Ageing
import HttpDispatch.Proofs.Routing.Reuse
import HttpDispatch.Proofs.Session.Idle
import HttpDispatch.Proofs.Session.Ownership
import HttpDispatch.Proofs.Session.Growth
import HttpDispatch.Proofs.Session.Services
import HttpDispatch.Proofs.Session.Descent
import HttpDispatch.Proofs.Session.Isolation
import HttpDispatch.Proofs.Routing.Declaration
import HttpDispatch.Proofs.Routing.Reverse
import HttpDispatch.Proofs.Routing.Disturbance
import HttpDispatch.Proofs.Session.Connecting
import HttpDispatch.Proofs.Text.Decoding
import HttpDispatch.Proofs.Routing.Matching
import HttpDispatch.Proofs.Routing.Order
import HttpDispatch.Proofs.Routing.Quiet
import HttpDispatch.Proofs.Routing.Filtering
import HttpDispatch.Proofs.Log.Fallback
import HttpDispatch.Proofs.Routing.Abiding
import HttpDispatch.Proofs.Routing.Following
import HttpDispatch.Proofs.Session.Asking
import HttpDispatch.Proofs.Session.SharedLogger
import HttpDispatch.Proofs.Http.Forms
import HttpDispatch.Proofs.Environ.Loading
import HttpDispatch.Proofs.Session.Throwing
import HttpDispatch.Proofs.Session.Identity
import HttpDispatch.Proofs.Log.Lineage
import HttpDispatch.Proofs.Routing.Mixing
import HttpDispatch.Proofs.Failure.Display
import HttpDispatch.Proofs.Failure.SingleLine
import HttpDispatch.Proofs.Environ.Acceptance
import HttpDispatch.Proofs.Log.Spans
import HttpDispatch.Proofs.Log.Lines
import HttpDispatch.Proofs.Session.Logging
import HttpDispatch.Proofs.Routing.Spelling
import HttpDispatch.Proofs.Routing.Received
