import WordTally.Feed
import WordTally.Json.Printer
import WordTally.Json.Reader
import WordTally.Lifecycle
import WordTally.Main
import WordTally.Pipeline.Schedule
import WordTally.Probe
import WordTally.Program
import WordTally.Proofs.Feed.Delivery
import WordTally.Proofs.Files.Replacing
import WordTally.Proofs.Pipeline.Accounting
import WordTally.Proofs.Pipeline.AllOrNothing
import WordTally.Proofs.Pipeline.Batches
import WordTally.Proofs.Pipeline.CommitWindow
import WordTally.Proofs.Pipeline.Deaths
import WordTally.Proofs.Pipeline.Emission
import WordTally.Proofs.Pipeline.Polling
import WordTally.Proofs.Pipeline.Stopping
import WordTally.Proofs.Pipeline.Verdict
import WordTally.Proofs.Proxy.Acceptance
import WordTally.Proofs.Proxy.Deliveries
import WordTally.Proofs.Retry.Backoff
import WordTally.Proofs.Service.Endings
import WordTally.Proofs.Settings.Validation
import WordTally.Proofs.Snapshot.Confinement
import WordTally.Proofs.Snapshot.Recovery
import WordTally.Proofs.Tally.Growing
import WordTally.Proofs.Text.Splitting
import WordTally.Proofs.Url.Endpoints
import WordTally.Proxy.Client
import WordTally.Record
import WordTally.Registry
import WordTally.Rehearsal
import WordTally.Retry
import WordTally.Routing
import WordTally.Schema
import WordTally.Settings
import WordTally.Sink
import WordTally.Snapshot.Storage
import WordTally.Store
import WordTally.Tally
import WordTally.Text.Words
import WordTally.Url.Parser
