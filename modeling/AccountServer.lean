import AccountServer.Filter.Number
import AccountServer.Main
import AccountServer.Proofs.Filter.Limits
import AccountServer.Proofs.Filter.Order
import AccountServer.Store.Faulty
import AccountServer.Proofs.Filter.Pruning
import AccountServer.Proofs.Store.Memory
import AccountServer.Proofs.Except
import AccountServer.Proofs.Store.Row
import AccountServer.Proofs.Store.Listing
import AccountServer.Proofs.Store.Table
import AccountServer.Proofs.Store.Search
import AccountServer.Proofs.Filter.Ends
import AccountServer.Proofs.Store.Lockstep
import AccountServer.Proofs.Service.Operation
import AccountServer.Proofs.Service.Clients
import AccountServer.Proofs.Service.Races
import AccountServer.Proofs.Service.Overlap
import AccountServer.Proofs.Service.History
import AccountServer.Proofs.Service.Passwords
import AccountServer.Proofs.Crypto.Base64
import AccountServer.Proofs.Json.Roundtrip
import AccountServer.Proofs.Text.Bytes
import AccountServer.Proofs.Token.Roundtrip
import AccountServer.Proofs.Token.Key
import AccountServer.Proofs.Service.Turnover
import AccountServer.Proofs.Service.Revocation
import AccountServer.Proofs.Service.EitherStore
import AccountServer.Proofs.Token.Soundness
import AccountServer.Proofs.Service.Acceptance
import AccountServer.Proofs.Store.Records
import AccountServer.Proofs.Store.OwnRecord
import AccountServer.Proofs.Service.Foreseen
import AccountServer.Proofs.Service.OwnAccess
import AccountServer.Proofs.Server.Answers
import AccountServer.Proofs.Server.Requests
import AccountServer.Proofs.Server.Privileges
import AccountServer.Proofs.Server.Secrecy
import AccountServer.Proofs.Server.Merge
import AccountServer.Proofs.Filter.Simplify
import AccountServer.Proofs.Service.AnyStore
import AccountServer.Proofs.Service.Frame
import AccountServer.Proofs.Service.Lifetime
import AccountServer.Proofs.Service.Verdicts
import AccountServer.Proofs.Server.Startup
import AccountServer.Proofs.Filter.Hull
import AccountServer.Proofs.Filter.NormalForm
import AccountServer.Proofs.Filter.Span
import AccountServer.Proofs.Filter.Criteria
import AccountServer.Proofs.Store.LateFailure
import AccountServer.Proofs.Store.Scan
import AccountServer.Proofs.Store.Enumeration
import AccountServer.Proofs.Server.Dispatch
import AccountServer.Proofs.Server.Issuing
import AccountServer.Proofs.Account.Payload
import AccountServer.Proofs.Server.UserList
import AccountServer.Proofs.Time.Calendar
import AccountServer.Proofs.Time.Text
import AccountServer.Proofs.Json.Same
import AccountServer.Proofs.Filter.Codec
import AccountServer.Proofs.Filter.UserCodec
import AccountServer.Proofs.Account.Email
import AccountServer.Proofs.Text.Blank
import AccountServer.Proofs.Config.Base
import AccountServer.Proofs.Http.Pattern
import AccountServer.Proofs.Http.Router
import AccountServer.Proofs.Http.Mount
import AccountServer.Proofs.Server.Paths
import AccountServer.Proofs.Server.Assembly
