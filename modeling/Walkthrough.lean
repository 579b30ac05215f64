import Walkthrough.Http.Server
import Walkthrough.Main
import Walkthrough.Proofs.Plan.Language
import Walkthrough.Proofs.Repair.Accounting
import Walkthrough.Proofs.Repair.Secrecy
import Walkthrough.Proofs.Run.Shape
import Walkthrough.Session
import Walkthrough.Proofs.Json.RoundTrip
import Walkthrough.Proofs.Plan.Document
import Walkthrough.Proofs.Run.Record
import Walkthrough.Proofs.CommandLine
import Walkthrough.Proofs.Plan.Compile
import Walkthrough.Proofs.Run.Course
import Walkthrough.Proofs.Json.Keys
import Walkthrough.Proofs.Profile.Document
import Walkthrough.Proofs.Run.Learning
import Walkthrough.Proofs.Run.Saving
import Walkthrough.Proofs.Files.Likeness
import Walkthrough.Proofs.Run.Continuation
import Walkthrough.Proofs.Plan.Selectors
import Walkthrough.Proofs.Run.Abreast
import Walkthrough.Proofs.Run.Relearning
import Walkthrough.Proofs.Run.Reach
import Walkthrough.Proofs.Files.Frame
import Walkthrough.Proofs.Run.Frame
import Walkthrough.Proofs.Repair.Records
import Walkthrough.Proofs.Http.Serving
import Walkthrough.Proofs.Http.Store
import Walkthrough.Proofs.Run.Trouble
import Walkthrough.Proofs.Run.Conduct
import Walkthrough.Proofs.Run.Readiness
import Walkthrough.Proofs.Plan.Faults
import Walkthrough.Proofs.Run.Failing
import Walkthrough.Proofs.Run.Guards
import Walkthrough.Proofs.Repair.Conduct
import Walkthrough.Proofs.Repair.Navigation
import Walkthrough.Proofs.Http.Answers
import Walkthrough.Proofs.CommandLine.Exits
import Walkthrough.Proofs.Session
import Walkthrough.Proofs.Plan.Sources
import Walkthrough.Proofs.Plan.Reported
import Walkthrough.Proofs.Run.Deadline
import Walkthrough.Proofs.Json.Overlong
import Walkthrough.Proofs.Plan.Load
import Walkthrough.Proofs.Patch.Paths
import Walkthrough.Proofs.Run.Stops
import Walkthrough.Proofs.Repair.Proposal
import Walkthrough.Proofs.Run.Artifacts
import Walkthrough.Proofs.Run.Traces
import Walkthrough.Proofs.Repair.Snapshot
import Walkthrough.Proofs.Secret
import Walkthrough.Proofs.Secret.Redaction
import Walkthrough.Proofs.Profile.Domain
import Walkthrough.Proofs.Profile.Loading
import Walkthrough.Proofs.Files.Connected
import Walkthrough.Proofs.Profile.Store
import Walkthrough.Proofs.Plan.Redaction
import Walkthrough.Proofs.Repair.Redaction
import Walkthrough.Proofs.Http.Containment
import Walkthrough.Proofs.Plan.Lines
import Walkthrough.Proofs.Script
import Walkthrough.Proofs.CommandLine.Dry
import Walkthrough.Proofs.Candidate
import Walkthrough.Proofs.Session.Tracing
import Walkthrough.Proofs.Text.Words
import Walkthrough.Proofs.Run.Outputs
