import SessionAuth.Bytes.Base64
import SessionAuth.Bytes.Basic
import SessionAuth.Bytes.Percent
import SessionAuth.Cache.Address
import SessionAuth.Cache.Command
import SessionAuth.Cache.ListServer
import SessionAuth.Cache.Memory
import SessionAuth.Cache.Remote
import SessionAuth.Calendar
import SessionAuth.Config
import SessionAuth.Cookie
import SessionAuth.Crypto.Argon2
import SessionAuth.Crypto.Blake2b
import SessionAuth.Crypto.Digest
import SessionAuth.Crypto.Edwards
import SessionAuth.Crypto.Modular
import SessionAuth.Crypto.Rsa
import SessionAuth.Crypto.Sha2
import SessionAuth.Crypto.Sixteen
import SessionAuth.Crypto.Weierstrass
import SessionAuth.Deployment.Watched
import SessionAuth.Deployment.World
import SessionAuth.Entropy
import SessionAuth.Error
import SessionAuth.Http.Api
import SessionAuth.Http.Bodies
import SessionAuth.Http.Guard
import SessionAuth.Http.MediaType
import SessionAuth.Http.Message
import SessionAuth.Json.Reader
import SessionAuth.Json.Value
import SessionAuth.Json.Written
import SessionAuth.Keys.Asn1
import SessionAuth.Keys.Der
import SessionAuth.Keys.Fault
import SessionAuth.Keys.Pem
import SessionAuth.Keys.Pkcs8
import SessionAuth.Keys.Rsa
import SessionAuth.Limit
import SessionAuth.Log
import SessionAuth.Password.ClearText
import SessionAuth.Password.Hasher
import SessionAuth.Password.Phc
import SessionAuth.Program
import SessionAuth.Proofs.Bytes.Base64
import SessionAuth.Proofs.Bytes.Text
import SessionAuth.Proofs.Cache.Agreement
import SessionAuth.Proofs.Cache.Beside
import SessionAuth.Proofs.Cache.Cell
import SessionAuth.Proofs.Cache.Content
import SessionAuth.Proofs.Cache.Memory
import SessionAuth.Proofs.Cache.Pushed
import SessionAuth.Proofs.Cache.Refused
import SessionAuth.Proofs.Cache.Remote
import SessionAuth.Proofs.Cache.Replies
import SessionAuth.Proofs.Crypto.Argon2
import SessionAuth.Proofs.Deployment.Apart
import SessionAuth.Proofs.Deployment.Boot
import SessionAuth.Proofs.Deployment.Held
import SessionAuth.Proofs.Deployment.Legible
import SessionAuth.Proofs.Deployment.Listed
import SessionAuth.Proofs.Deployment.Runs
import SessionAuth.Proofs.Deployment.View
import SessionAuth.Proofs.Http.Answer
import SessionAuth.Proofs.Http.Coherence
import SessionAuth.Proofs.Http.Cookie
import SessionAuth.Proofs.Http.Discretion
import SessionAuth.Proofs.Http.Enumeration
import SessionAuth.Proofs.Http.Guard
import SessionAuth.Proofs.Http.Header
import SessionAuth.Proofs.Http.Rejection
import SessionAuth.Proofs.Http.Response
import SessionAuth.Proofs.Http.Secrecy
import SessionAuth.Proofs.Json.Astray
import SessionAuth.Proofs.Json.Members
import SessionAuth.Proofs.Json.Outline
import SessionAuth.Proofs.Json.Traces
import SessionAuth.Proofs.Json.Written
import SessionAuth.Proofs.Password.Format
import SessionAuth.Proofs.Password.Verification
import SessionAuth.Proofs.Program.Contract
import SessionAuth.Proofs.Program.Coupled
import SessionAuth.Proofs.Program.Record
import SessionAuth.Proofs.Program.Rules
import SessionAuth.Proofs.Service.Alone
import SessionAuth.Proofs.Service.Authentication
import SessionAuth.Proofs.Service.Calls
import SessionAuth.Proofs.Service.Conduct
import SessionAuth.Proofs.Service.Coupled
import SessionAuth.Proofs.Service.Course
import SessionAuth.Proofs.Service.Decoding
import SessionAuth.Proofs.Service.Discretion
import SessionAuth.Proofs.Service.Failure
import SessionAuth.Proofs.Service.Faults
import SessionAuth.Proofs.Service.Interleaving
import SessionAuth.Proofs.Service.Isolation
import SessionAuth.Proofs.Service.Issued
import SessionAuth.Proofs.Service.Lists
import SessionAuth.Proofs.Service.Minting
import SessionAuth.Proofs.Service.Moves
import SessionAuth.Proofs.Service.Operation
import SessionAuth.Proofs.Service.Phase
import SessionAuth.Proofs.Service.Rejection
import SessionAuth.Proofs.Service.Reports
import SessionAuth.Proofs.Service.Request
import SessionAuth.Proofs.Service.Schedule
import SessionAuth.Proofs.Service.Secrecy
import SessionAuth.Proofs.Service.Success
import SessionAuth.Proofs.Service.Tandem
import SessionAuth.Proofs.Service.TimeToLive
import SessionAuth.Proofs.Service.Transaction
import SessionAuth.Proofs.Session.Account
import SessionAuth.Proofs.Session.Book
import SessionAuth.Proofs.Session.Cap
import SessionAuth.Proofs.Session.Entry
import SessionAuth.Proofs.Session.Expiry
import SessionAuth.Proofs.Session.Format
import SessionAuth.Proofs.Session.Lifetime
import SessionAuth.Proofs.Session.Lookup
import SessionAuth.Proofs.Session.Registry
import SessionAuth.Proofs.Session.Replay
import SessionAuth.Proofs.Session.SingleUse
import SessionAuth.Proofs.Session.Survival
import SessionAuth.Proofs.Session.Usable
import SessionAuth.Proofs.Settings.Readings
import SessionAuth.Proofs.Settings.Safety
import SessionAuth.Proofs.Settings.Spelling
import SessionAuth.Proofs.Text.Blank
import SessionAuth.Proofs.Text.Cut
import SessionAuth.Proofs.Token.Characters
import SessionAuth.Proofs.Token.Claims
import SessionAuth.Proofs.Token.Codec
import SessionAuth.Proofs.Token.Configured
import SessionAuth.Proofs.Token.RoundTrip
import SessionAuth.Proofs.Token.Signature
import SessionAuth.Proofs.UserId
import SessionAuth.Proofs.UserId.Spelling
import SessionAuth.Proofs.Users.Accounts
import SessionAuth.Proofs.Users.Balance
import SessionAuth.Proofs.Users.Beside
import SessionAuth.Proofs.Users.Memory
import SessionAuth.Proofs.Users.Relational
import SessionAuth.Proofs.Users.Statements
import SessionAuth.Service
import SessionAuth.Service.Effect
import SessionAuth.Service.Tokens
import SessionAuth.Session.Entry
import SessionAuth.Session.Registry
import SessionAuth.Settings
import SessionAuth.SocketAddress
import SessionAuth.Table
import SessionAuth.Text.Blank
import SessionAuth.Text.Casing
import SessionAuth.Text.Compatibility
import SessionAuth.Text.Compatibility.Table
import SessionAuth.Text.Cut
import SessionAuth.Text.Quoted
import SessionAuth.Text.Ranges
import SessionAuth.Text.Record
import SessionAuth.Time
import SessionAuth.Token.Algorithm
import SessionAuth.Token.Claims
import SessionAuth.Token.Codec
import SessionAuth.Token.Compact
import SessionAuth.Token.EmbeddedKey
import SessionAuth.Token.Header
import SessionAuth.Token.Key
import SessionAuth.Token.Payload
import SessionAuth.Token.Signature
import SessionAuth.User
import SessionAuth.UserId
import SessionAuth.Users.Memory
import SessionAuth.Users.Relational
import SessionAuth.Users.UnitOfWork
