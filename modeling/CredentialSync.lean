import CredentialSync.Main
import CredentialSync.Proofs.Apply.Additions
import CredentialSync.Proofs.Apply.Applied
import CredentialSync.Proofs.Apply.Reference
import CredentialSync.Proofs.Apply.Returned
import CredentialSync.Proofs.Apply.Revisions
import CredentialSync.Proofs.Apply.Spared
import CredentialSync.Proofs.Apply.Taken
import CredentialSync.Proofs.Attempt
import CredentialSync.Proofs.Blob
import CredentialSync.Proofs.Bridge.Able
import CredentialSync.Proofs.Bridge.Assigned
import CredentialSync.Proofs.Bridge.Batch
import CredentialSync.Proofs.Bridge.Calls
import CredentialSync.Proofs.Bridge.Collected
import CredentialSync.Proofs.Bridge.Commit
import CredentialSync.Proofs.Bridge.Dump
import CredentialSync.Proofs.Bridge.Events
import CredentialSync.Proofs.Bridge.Failures
import CredentialSync.Proofs.Bridge.Forwarding
import CredentialSync.Proofs.Bridge.Ready
import CredentialSync.Proofs.Bridge.Relay
import CredentialSync.Proofs.Bridge.Runs
import CredentialSync.Proofs.Bridge.Scope
import CredentialSync.Proofs.Bridge.Stable
import CredentialSync.Proofs.Bridge.Transfer
import CredentialSync.Proofs.Bridge.Write
import CredentialSync.Proofs.CommandLine.Commands
import CredentialSync.Proofs.CommandLine.Memos
import CredentialSync.Proofs.CommandLine.Opening
import CredentialSync.Proofs.CommandLine.Processes
import CredentialSync.Proofs.CommandLine.Writes
import CredentialSync.Proofs.Config.Document
import CredentialSync.Proofs.Credential.Origin
import CredentialSync.Proofs.Credential.Payload
import CredentialSync.Proofs.Credential.Tag
import CredentialSync.Proofs.Digest.Base64
import CredentialSync.Proofs.Duration.Text
import CredentialSync.Proofs.Exchange.Convergence
import CredentialSync.Proofs.Exchange.Uploads
import CredentialSync.Proofs.Key
import CredentialSync.Proofs.Key.Canonical
import CredentialSync.Proofs.Merge.Account
import CredentialSync.Proofs.Merge.Again
import CredentialSync.Proofs.Merge.Fate
import CredentialSync.Proofs.Merge.Index
import CredentialSync.Proofs.Merge.Kept
import CredentialSync.Proofs.Merge.Landing
import CredentialSync.Proofs.Merge.LocalOnly
import CredentialSync.Proofs.Merge.Merged
import CredentialSync.Proofs.Merge.Natural
import CredentialSync.Proofs.Merge.Order
import CredentialSync.Proofs.Merge.Run
import CredentialSync.Proofs.Merge.State
import CredentialSync.Proofs.Merge.Success
import CredentialSync.Proofs.Metadata.Layout
import CredentialSync.Proofs.Metadata.Pending
import CredentialSync.Proofs.Mirror.Linked
import CredentialSync.Proofs.Mirror.Overheard
import CredentialSync.Proofs.Mirror.Run
import CredentialSync.Proofs.Notifier
import CredentialSync.Proofs.Session.Echo
import CredentialSync.Proofs.Session.Keys
import CredentialSync.Proofs.Session.Statistics
import CredentialSync.Proofs.Session.Turn
import CredentialSync.Proofs.SortedMap
import CredentialSync.Proofs.Store.Able
import CredentialSync.Proofs.Store.Cells
import CredentialSync.Proofs.Store.Content
import CredentialSync.Proofs.Store.Edits
import CredentialSync.Proofs.Store.Failures
import CredentialSync.Proofs.Store.Identity
import CredentialSync.Proofs.Store.Ledger
import CredentialSync.Proofs.Store.Lockstep
import CredentialSync.Proofs.Store.Migrations
import CredentialSync.Proofs.Store.Reached
import CredentialSync.Proofs.Store.Replay
import CredentialSync.Proofs.Store.Rows
import CredentialSync.Proofs.Store.Switches
import CredentialSync.Proofs.Store.Transactions
import CredentialSync.Proofs.Store.Vault
import CredentialSync.Proofs.Store.Versions
import CredentialSync.Proofs.Text.Percent
import CredentialSync.Proofs.Text.Utf8
import CredentialSync.Proofs.Toml.Document
import CredentialSync.Proofs.Toml.Number
import CredentialSync.Proofs.Toml.Quoted
import CredentialSync.Proofs.Tracking.Answers
import CredentialSync.Proofs.Tracking.Apply
import CredentialSync.Proofs.Tracking.Hash
import CredentialSync.Proofs.Tracking.Merge
import CredentialSync.Proofs.Tracking.Reading
import CredentialSync.Proofs.Tracking.Relay
import CredentialSync.Proofs.Tracking.Run
import CredentialSync.Proofs.Tracking.Tracks
