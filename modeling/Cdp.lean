import Cdp.Address
import Cdp.AddressMap
import Cdp.Attempt
import Cdp.Bytes.Hex
import Cdp.Bytes.Keccak
import Cdp.Chain.Basic
import Cdp.Chain.Error
import Cdp.Chain.Interface
import Cdp.Chain.Positions
import Cdp.Chain.State
import Cdp.Chain.Tables
import Cdp.Contract.Encoding
import Cdp.Contract.Interface
import Cdp.Counter
import Cdp.Decimal.Basic
import Cdp.Decimal.Error
import Cdp.Decimal.Parse
import Cdp.Decimal.Power
import Cdp.Decimal.Print
import Cdp.Decimal.Units
import Cdp.Error
import Cdp.Fees
import Cdp.Host.Basic
import Cdp.Host.Image
import Cdp.Host.Label
import Cdp.Host.Numeric
import Cdp.Host.Punycode
import Cdp.InsertHint.Basic
import Cdp.InsertHint.Search
import Cdp.InsertHint.Trials
import Cdp.Json.Basic
import Cdp.Json.ChainForms
import Cdp.Json.ErrorForms
import Cdp.Json.Field
import Cdp.Json.ReportForms
import Cdp.Json.SystemForms
import Cdp.Json.TableForms
import Cdp.Json.TroveForms
import Cdp.Keeper.Health
import Cdp.Keeper.Notice
import Cdp.Keeper.PairedQueue
import Cdp.Keeper.Pass
import Cdp.Keeper.Queue
import Cdp.Keeper.Settings
import Cdp.Keeper.SettingsText
import Cdp.Node.Client
import Cdp.Node.Endpoint
import Cdp.Node.Playback
import Cdp.Node.Wire
import Cdp.Policy
import Cdp.Procedure
import Cdp.Proofs.AddressMap
import Cdp.Proofs.AddressMap.Sum
import Cdp.Proofs.Attempt
import Cdp.Proofs.Chain.Faults
import Cdp.Proofs.Chain.Joined
import Cdp.Proofs.Chain.Pinned
import Cdp.Proofs.Chain.Requests
import Cdp.Proofs.Chain.Standing
import Cdp.Proofs.Contract.Argument
import Cdp.Proofs.Contract.CollateralArrays
import Cdp.Proofs.Contract.Consistency
import Cdp.Proofs.Contract.RepeatedKinds
import Cdp.Proofs.Decimal.Capped
import Cdp.Proofs.Decimal.Faults
import Cdp.Proofs.Decimal.Grammar
import Cdp.Proofs.Decimal.Infinity
import Cdp.Proofs.Decimal.Inverse
import Cdp.Proofs.Decimal.Order
import Cdp.Proofs.Decimal.Power
import Cdp.Proofs.Decimal.PowerAccuracy
import Cdp.Proofs.Decimal.Text
import Cdp.Proofs.Decimal.Units
import Cdp.Proofs.Fees
import Cdp.Proofs.InsertHint.Effort
import Cdp.Proofs.InsertHint.Owner
import Cdp.Proofs.InsertHint.Phases
import Cdp.Proofs.InsertHint.Sampling
import Cdp.Proofs.InsertHint.Search
import Cdp.Proofs.Json.RoundTrip
import Cdp.Proofs.Keeper.Batch
import Cdp.Proofs.Keeper.Growth
import Cdp.Proofs.Keeper.PairedQueue
import Cdp.Proofs.Keeper.Pass
import Cdp.Proofs.Keeper.Queue
import Cdp.Proofs.Keeper.QueueOperations
import Cdp.Proofs.Keeper.Refresh
import Cdp.Proofs.Keeper.Threshold
import Cdp.Proofs.Node.Answers
import Cdp.Proofs.Node.Replacement
import Cdp.Proofs.Node.Waiting
import Cdp.Proofs.Procedure.Joined
import Cdp.Proofs.Procedure.Trace
import Cdp.Proofs.Receipt.Relevance
import Cdp.Proofs.Snapshot.History
import Cdp.Proofs.Snapshot.Image
import Cdp.Proofs.Snapshot.Interleaving
import Cdp.Proofs.Snapshot.Refinement
import Cdp.Proofs.Transaction.DecaySimulation
import Cdp.Proofs.Transaction.DualGas
import Cdp.Proofs.Transaction.Estimates
import Cdp.Proofs.Transaction.Flaws
import Cdp.Proofs.Transaction.GasLimit
import Cdp.Proofs.Transaction.OpeningWindow
import Cdp.Proofs.Transaction.Range
import Cdp.Proofs.Transaction.RedemptionChain
import Cdp.Proofs.Trove.Adjustment
import Cdp.Proofs.Trove.Amounts
import Cdp.Proofs.Trove.Change
import Cdp.Proofs.Trove.Creation
import Cdp.Proofs.Trove.Decay
import Cdp.Proofs.Trove.Faults
import Cdp.Proofs.Trove.History
import Cdp.Proofs.Trove.Leverage
import Cdp.Proofs.Trove.Ratio
import Cdp.Proofs.Trove.RatioAccuracy
import Cdp.Proofs.Trove.RatioOrder
import Cdp.Proofs.Trove.Recreation
import Cdp.Proofs.Trove.Stages
import Cdp.Proofs.Trove.Target
import Cdp.Proofs.Trove.Value
import Cdp.Proofs.TroveList
import Cdp.Proofs.Whitelist
import Cdp.Protocol
import Cdp.Receipt.Logs
import Cdp.Receipt.Parser
import Cdp.Snapshot.Basic
import Cdp.Snapshot.Cache
import Cdp.Snapshot.Polling
import Cdp.Text.Blank
import Cdp.Text.CodePoint
import Cdp.Text.Composition
import Cdp.Text.Direction
import Cdp.Text.Hidden
import Cdp.Text.Joining
import Cdp.Text.Mark
import Cdp.Text.Quoted
import Cdp.Text.Unassigned
import Cdp.Toml.Document
import Cdp.Toml.Number
import Cdp.Toml.Scan
import Cdp.Toml.Table
import Cdp.Toml.Text
import Cdp.Transaction.Closing
import Cdp.Transaction.Leverage
import Cdp.Transaction.Opening
import Cdp.Transaction.Prepared
import Cdp.Transaction.Redemption
import Cdp.Transaction.Sending
import Cdp.Trove.Basic
import Cdp.Trove.Change
import Cdp.Trove.Leverage
import Cdp.Trove.Ratio
import Cdp.Trove.Redistribution
import Cdp.TroveList
import Cdp.Whitelist
import Cdp.Word
