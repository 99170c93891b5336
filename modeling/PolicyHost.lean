import PolicyHost.Host.Request
import PolicyHost.Json.Pointer
import PolicyHost.Proofs.Confinement
import PolicyHost.Toolchain.Process
import PolicyHost.Text.Blank
import PolicyHost.Proofs.Sizes
import PolicyHost.Proofs.Truncation
import PolicyHost.Proofs.Records
import PolicyHost.Proofs.Reachable
import PolicyHost.Proofs.Ledger
import PolicyHost.Proofs.Declarations
import PolicyHost.Proofs.Targets
import PolicyHost.Proofs.TraceShape
import PolicyHost.Proofs.Compilations
import PolicyHost.Proofs.Agreement
import PolicyHost.Proofs.Offers
import PolicyHost.Proofs.RoundTrips
import PolicyHost.Proofs.TracedDecisions
import PolicyHost.Proofs.LineMaps
import PolicyHost.Proofs.Leftovers
import PolicyHost.Proofs.Pairing
import PolicyHost.Proofs.Matching
import PolicyHost.Proofs.Memory
import PolicyHost.Proofs.Work
import PolicyHost.Proofs.Conversation
import PolicyHost.Proofs.Heads
import PolicyHost.Proofs.Budgets
import PolicyHost.Proofs.Resolution
import PolicyHost.Proofs.Spellings
import PolicyHost.Proofs.Escapes
import PolicyHost.Proofs.Continuation
import PolicyHost.Proofs.Dictionaries
import PolicyHost.Proofs.Encodings
import PolicyHost.Proofs.Bindings
import PolicyHost.Proofs.Answers
import PolicyHost.Proofs.Removals
import PolicyHost.Proofs.HeadLines
import PolicyHost.Proofs.Decimals
import PolicyHost.Proofs.Reports
import PolicyHost.Proofs.Carets
import PolicyHost.Proofs.Diagnoses
import PolicyHost.Proofs.Excerpts
import PolicyHost.Proofs.Acceptance
import PolicyHost.Proofs.Versions
import PolicyHost.Proofs.VersionLines
import PolicyHost.Proofs.Captures
import PolicyHost.Proofs.Defaults
import PolicyHost.Proofs.Images
import PolicyHost.Proofs.Scalars
import PolicyHost.Proofs.References
import PolicyHost.Proofs.ReferenceNames
