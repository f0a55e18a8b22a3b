import BridgeState.Database.Scripted
import BridgeState.Demonstration
import BridgeState.Http.Client
import BridgeState.Log.Call
import BridgeState.Main
import BridgeState.Settings.Given
import BridgeState.Proofs.Transfers
import BridgeState.Proofs.ValidatorLists
import BridgeState.Proofs.Unchanged
import BridgeState.Proofs.Retry
import BridgeState.Proofs.Footprint
import BridgeState.Proofs.Outcomes
import BridgeState.Proofs.Resume
import BridgeState.Proofs.Audits
import BridgeState.Proofs.Proposals
import BridgeState.Proofs.ApprovedLists
import BridgeState.Proofs.Redelivery
import BridgeState.Proofs.Snapshots
import BridgeState.Proofs.SentBatches
import BridgeState.Proofs.Attempts
import BridgeState.Proofs.Interchange
import BridgeState.Proofs.NormalForm
import BridgeState.Proofs.ChainOrder
import BridgeState.Proofs.Counters
import BridgeState.Proofs.StablePages
import BridgeState.Proofs.Reconciliation
import BridgeState.Proofs.Spellings
import BridgeState.Proofs.SavedRows
import BridgeState.Proofs.ReplayedText
import BridgeState.Proofs.ParsedEvents
import BridgeState.Proofs.Latencies
import BridgeState.Proofs.Startup
import BridgeState.Proofs.EncodedTexts
import BridgeState.Proofs.Locators
import BridgeState.Proofs.KeywordTexts
