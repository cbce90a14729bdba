import Messenger.Batches
import Messenger.Brief.Event
import Messenger.Brief.Read
import Messenger.Brief.Write
import Messenger.Bus
import Messenger.Cipher
import Messenger.Cli.Command
import Messenger.Cli.Grammar
import Messenger.Cli.Listing
import Messenger.Cli.Matches
import Messenger.Cli.Session
import Messenger.Contact
import Messenger.Digest.Blake3
import Messenger.Discovery.Round
import Messenger.Event
import Messenger.Failure
import Messenger.Group
import Messenger.Group.Command
import Messenger.Identity
import Messenger.Ids
import Messenger.Json.Basic
import Messenger.Json.Decode
import Messenger.Json.Double
import Messenger.Json.Encode
import Messenger.Json.Numeral
import Messenger.Json.Printer
import Messenger.Json.Reader
import Messenger.Json.Records
import Messenger.Json.Token
import Messenger.Main
import Messenger.Message.Basic
import Messenger.Message.Inbound
import Messenger.Message.Status
import Messenger.Outbox.Action
import Messenger.Outbox.Compose
import Messenger.Outbox.Dispatch
import Messenger.Outbox.Grouping
import Messenger.Outbox.Handling
import Messenger.Outbox.Incoming
import Messenger.Outbox.Retry
import Messenger.Outbox.Scan
import Messenger.Outbox.Service
import Messenger.Proofs.Store.Writes
import Messenger.Proofs.Table
import Messenger.Settings
import Messenger.Store.Basic
import Messenger.Store.Call
import Messenger.Store.Contacts
import Messenger.Store.Feed
import Messenger.Store.File
import Messenger.Store.Groups
import Messenger.Store.Messages
import Messenger.Store.Query
import Messenger.Store.Threads
import Messenger.Sync.Basic
import Messenger.Sync.Candidates
import Messenger.Sync.Office
import Messenger.Sync.Rows
import Messenger.Sync.Syncer
import Messenger.Sync.Throttle
import Messenger.Sync.Ticker
import Messenger.Sync.Wait
import Messenger.Sync.Work
import Messenger.Table
import Messenger.Text.Blank
import Messenger.Text.CharSet
import Messenger.Text.Hex
import Messenger.Text.LowerCase
import Messenger.Text.LowerCase.Table
import Messenger.Text.Octets
import Messenger.Text.Pad
import Messenger.Text.Quoted
import Messenger.Text.Quoted.Table
import Messenger.Thread
import Messenger.Ulid
import Messenger.Proofs.Store.Rows
import Messenger.Proofs.Store.Summaries
import Messenger.Proofs.Discovery.History
import Messenger.Proofs.Discovery.Reaction
import Messenger.Proofs.Discovery.Blocking
import Messenger.Proofs.Discovery.Completion
import Messenger.Proofs.Discovery.Invariants
import Messenger.Proofs.Discovery.Stages
import Messenger.Proofs.Discovery.Strays
import Messenger.Proofs.Discovery.Asking
import Messenger.Proofs.Discovery.Exchange
import Messenger.Proofs.Sync.AllOrNothing
import Messenger.Proofs.Sync.Throttling
import Messenger.Proofs.Sync.Replacement
import Messenger.Proofs.Outbox.Runs
import Messenger.Proofs.Outbox.Moves
import Messenger.Proofs.Outbox.Walks
import Messenger.Proofs.Outbox.Responses
import Messenger.Proofs.Outbox.Coherence
import Messenger.Proofs.Outbox.Scans
import Messenger.Proofs.Outbox.Lives
import Messenger.Proofs.Outbox.Messages
import Messenger.Proofs.Outbox.Progress
import Messenger.Proofs.Outbox.Arrival
import Messenger.Proofs.Outbox.Names
import Messenger.Proofs.Outbox.Ordering
import Messenger.Proofs.Discovery.Keys
import Messenger.Proofs.Discovery.LookUps
import Messenger.Proofs.Discovery.Vetting
import Messenger.Proofs.Outbox.Handovers
import Messenger.Proofs.Outbox.Reconnect
import Messenger.Proofs.Group.Members
import Messenger.Proofs.Outbox.Replicas
import Messenger.Proofs.Outbox.Requests
import Messenger.Proofs.Outbox.Held
import Messenger.Proofs.Outbox.Repeats
import Messenger.Proofs.Outbox.States
import Messenger.Proofs.Outbox.Lifecycles
import Messenger.Proofs.Store.Edits
import Messenger.Proofs.Store.Announcements
import Messenger.Proofs.Store.Peers
import Messenger.Proofs.Outbox.Deeds
import Messenger.Proofs.Outbox.Faults
import Messenger.Proofs.Outbox.Charters
import Messenger.Proofs.Outbox.Turns
import Messenger.Proofs.Outbox.Replies
import Messenger.Proofs.Outbox.Refusals
import Messenger.Proofs.Store.Clearing
import Messenger.Proofs.Outbox.Losses
import Messenger.Proofs.Bus.Subscribers
import Messenger.Proofs.Bus.Delivery
import Messenger.Proofs.Outbox.Verdicts
import Messenger.Proofs.Outbox.Effects
import Messenger.Proofs.Outbox.Filters
import Messenger.Proofs.Outbox.FirstAttempts
import Messenger.Proofs.Group.Kicked
import Messenger.Proofs.Outbox.Releases
import Messenger.Proofs.Outbox.Retries
import Messenger.Proofs.Outbox.Intake
import Messenger.Proofs.Outbox.Rescans
import Messenger.Proofs.Discovery.Contents
import Messenger.Proofs.Text.LowerCase
import Messenger.Proofs.Identity
import Messenger.Proofs.Text.Octets
import Messenger.Proofs.Sync.Selection
import Messenger.Proofs.Group.Edits
