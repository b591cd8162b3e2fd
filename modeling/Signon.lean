import Signon.Text.Table
import Signon.Text.Blank
import Signon.Text.Letters
import Signon.Text.Printable
import Signon.Text.Lowercase
import Signon.Text.Normalize
import Signon.Text.Escape
import Signon.Text.Utf8
import Signon.Text.Split
import Signon.Numeric.Double
import Signon.Json.Value
import Signon.Json.Error
import Signon.Json.Cursor
import Signon.Json.Reader
import Signon.Report.Class
import Signon.Report.Basic
import Signon.Url.Error
import Signon.Password.Rejection
import Signon.Http.Status
import Signon.Http.Fault
import Signon.Failure
import Signon.Numeric.Integer
import Signon.Account.UserId
import Signon.Json.Decode
import Signon.Crypto.Compare
import Signon.Password.Policy
import Signon.Account.Email
import Signon.Account.Username
import Signon.Account.VerificationCode
import Signon.Token.Basic
import Signon.Encoding.Base64Url
import Signon.Http.Header
import Signon.Http.Cookie
import Signon.Account.Role
import Signon.Config
import Signon.Json.Shape
import Signon.Json.Tree
import Signon.Json.Stream
import Signon.Time.Instant
import Signon.Time.Rfc3339
import Signon.Token.Claims
import Signon.Account.User
import Signon.Session.Credentials
import Signon.Session.Basic
import Signon.Session.Stored
import Signon.Api.Responses
import Signon.Url.Percent
import Signon.Url.Punycode
import Signon.Url.Idna
import Signon.Url.Host
import Signon.Url.Basic
import Signon.Url.Parse
import Signon.Http.Client
import Signon.Guard
import Signon.Session.State
import Signon.Storage.Disk
import Signon.Storage.Vault
import Signon.Client.Journal
import Signon.Client.World
import Signon.Gateway.Basic
import Signon.Store.Basic
import Signon.Gateway.Replay
import Signon.Gateway.Contention
import Signon.Http.Jar
import Signon.Http.Exchange
import Signon.Api.Requests
import Signon.Gateway.Http
import Signon.Cli.Env
import Signon.Cli.Param
import Signon.Cli.Similar
import Signon.Cli.Usage
import Signon.Cli.Help
import Signon.Cli.Parse
import Signon.Cli.Commands
import Signon.Cli.EnvFile
import Signon.Cli.LogFilter
import Signon.Cli.Run
import Signon.Main
import Signon.Proofs.Session.Generation
import Signon.Proofs.Gateway.Effects
import Signon.Proofs.Gateway.Refresh
import Signon.Proofs.Gateway.Interceptor
import Signon.Proofs.Gateway.Contention
import Signon.Proofs.Gateway.Alone
import Signon.Proofs.Guard.Decision
import Signon.Proofs.Guard.Redirects
import Signon.Proofs.Session.Restore
import Signon.Proofs.Client.Spec
import Signon.Proofs.Store.Agreement
import Signon.Proofs.Gateway.Keeping
import Signon.Proofs.Store.Coherence
import Signon.Proofs.Storage.Save
import Signon.Proofs.Gateway.Writes
import Signon.Proofs.Store.Failures
import Signon.Proofs.Numeric.Decimal
import Signon.Proofs.Http.CookieHeader
import Signon.Proofs.Store.Logout
import Signon.Proofs.Text.Utf8
import Signon.Proofs.Json.Tokens
import Signon.Proofs.Json.Fits
import Signon.Proofs.Json.Raw
import Signon.Proofs.Json.Stream
import Signon.Proofs.Session.Stored
import Signon.Proofs.Encoding.Base64Url
import Signon.Proofs.Token.Claims
import Signon.Proofs.Crypto.Compare
import Signon.Proofs.Password.Policy
import Signon.Proofs.Gateway.Grant
import Signon.Proofs.Text.Lowercase
import Signon.Proofs.Account.Email
import Signon.Proofs.Account.Roles
import Signon.Proofs.Api.ErrorBody
import Signon.Proofs.Report.Classes
import Signon.Proofs.Numeric.Signed
import Signon.Proofs.Url.Path
import Signon.Proofs.Http.Endpoint
