import Teller.Json.Decoder
import Teller.Json.Sorted
import Teller.Ledger.Schedule
import Teller.Main
import Teller.Proofs.Dialogue
import Teller.Proofs.Gateway.Accounts
import Teller.Proofs.Gateway.Authorization
import Teller.Proofs.Gateway.Bearer
import Teller.Proofs.Gateway.Checks
import Teller.Proofs.Gateway.Conservation
import Teller.Proofs.Gateway.Discretion
import Teller.Proofs.Gateway.Form
import Teller.Proofs.Gateway.Gate
import Teller.Proofs.Gateway.Login
import Teller.Proofs.Gateway.Paging
import Teller.Proofs.Gateway.Renewal
import Teller.Proofs.Gateway.Rollback
import Teller.Proofs.Gateway.Screening
import Teller.Proofs.Gateway.Served
import Teller.Proofs.Gateway.Sessions
import Teller.Proofs.Gateway.Timeout
import Teller.Proofs.Gateway.Tokens
import Teller.Proofs.Gateway.Transfers
import Teller.Proofs.Json.Numbers
import Teller.Proofs.Json.Records
import Teller.Proofs.Json.Results
import Teller.Proofs.Ledger.Agreement
import Teller.Proofs.Ledger.Answers
import Teller.Proofs.Ledger.Atomicity
import Teller.Proofs.Ledger.Contract
import Teller.Proofs.Ledger.Deadlock
import Teller.Proofs.Ledger.DoubleEntry
import Teller.Proofs.Ledger.Protocol
import Teller.Proofs.Ledger.Receipts
import Teller.Proofs.Ledger.Replay
import Teller.Proofs.Ledger.Rollback
import Teller.Proofs.Ledger.Serializability
import Teller.Proofs.Password
import Teller.Proofs.Store.Errors
import Teller.Proofs.Store.Primitives
import Teller.Proofs.Store.Sessions
import Teller.Proofs.Text.Base64
import Teller.Proofs.Text.Fields
import Teller.Proofs.Text.Utf8
import Teller.Proofs.Token.Genuine
import Teller.Proofs.Token.Kinds
import Teller.Proofs.Token.Payload
import Teller.Proofs.Token.RoundTrip
import Teller.Proofs.Token.Size
import Teller.Proofs.Token.Stability
import Teller.Proofs.Uuid
import Teller.Store.Migration.Rehearsal
