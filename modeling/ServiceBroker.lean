import ServiceBroker.Authentication.Basic
import ServiceBroker.Authentication.Header
import ServiceBroker.Broker.Basic
import ServiceBroker.Broker.Connection
import ServiceBroker.Broker.Request
import ServiceBroker.Catalog
import ServiceBroker.Cluster.Basic
import ServiceBroker.Cluster.Envelope
import ServiceBroker.Cluster.Message
import ServiceBroker.CommandLine.Arguments
import ServiceBroker.CommandLine.Startup
import ServiceBroker.Decimal.Literal
import ServiceBroker.Decimal.Shortest
import ServiceBroker.Digest.Sha256
import ServiceBroker.Executor.Basic
import ServiceBroker.Executor.Failure
import ServiceBroker.Executor.Fixed
import ServiceBroker.Executor.InMemory
import ServiceBroker.Executor.Prepared
import ServiceBroker.Executor.Remote
import ServiceBroker.Failure
import ServiceBroker.Files
import ServiceBroker.Http.Message
import ServiceBroker.Http.Status
import ServiceBroker.Http.Wire
import ServiceBroker.Identifier
import ServiceBroker.Json.Basic
import ServiceBroker.Json.Document
import ServiceBroker.Json.Fault
import ServiceBroker.Json.Merge
import ServiceBroker.Json.NumberLiteral
import ServiceBroker.Json.Printer
import ServiceBroker.Json.Reader
import ServiceBroker.Json.Record
import ServiceBroker.Json.StringLiteral
import ServiceBroker.Json.Token
import ServiceBroker.Locator
import ServiceBroker.Main
import ServiceBroker.Plan
import ServiceBroker.Platform.Basic
import ServiceBroker.Platform.Kubeconfig
import ServiceBroker.Program
import ServiceBroker.Proofs.Authentication.Bearer
import ServiceBroker.Proofs.Authentication.Credentials
import ServiceBroker.Proofs.Authentication.Verdict
import ServiceBroker.Proofs.Broker.Address
import ServiceBroker.Proofs.Broker.Binding
import ServiceBroker.Proofs.Broker.Contract
import ServiceBroker.Proofs.Broker.Credentials
import ServiceBroker.Proofs.Broker.Deprovision
import ServiceBroker.Proofs.Broker.Endpoint
import ServiceBroker.Proofs.Broker.Exclusion
import ServiceBroker.Proofs.Broker.Independence
import ServiceBroker.Proofs.Broker.Interleaving
import ServiceBroker.Proofs.Broker.Lifecycle
import ServiceBroker.Proofs.Broker.Linearization
import ServiceBroker.Proofs.Broker.Session
import ServiceBroker.Proofs.Broker.Uri
import ServiceBroker.Proofs.Broker.Verbs
import ServiceBroker.Proofs.Executor.InMemory
import ServiceBroker.Proofs.Executor.Prepared
import ServiceBroker.Proofs.Identifier.Codec
import ServiceBroker.Proofs.Identifier.Recognition
import ServiceBroker.Proofs.Identifier.Spelling
import ServiceBroker.Proofs.Identifier.Username
import ServiceBroker.Proofs.Json.Faultless
import ServiceBroker.Proofs.Json.Printed
import ServiceBroker.Proofs.Json.Record
import ServiceBroker.Proofs.Json.Tokens
import ServiceBroker.Proofs.Json.Values
import ServiceBroker.Proofs.Locator.Memo
import ServiceBroker.Proofs.Locator.Race
import ServiceBroker.Proofs.Locator.Selection
import ServiceBroker.Proofs.Program.Runs
import ServiceBroker.Proofs.Remote.Acceptance
import ServiceBroker.Proofs.Remote.Attempts
import ServiceBroker.Proofs.Remote.Deletion
import ServiceBroker.Proofs.Remote.Endpoints
import ServiceBroker.Proofs.Remote.Location
import ServiceBroker.Proofs.Remote.Users
import ServiceBroker.Proofs.Remote.Whereabouts
import ServiceBroker.Proofs.Server.Accounting
import ServiceBroker.Proofs.Server.Admission
import ServiceBroker.Proofs.Server.Authorization
import ServiceBroker.Proofs.Server.Callers
import ServiceBroker.Proofs.Server.Preservation
import ServiceBroker.Proofs.Server.Requests
import ServiceBroker.Proofs.Settings.Encoding
import ServiceBroker.Proofs.Text.Ascii
import ServiceBroker.Proofs.Text.Base32
import ServiceBroker.Proofs.Text.Base64
import ServiceBroker.Proofs.Text.Hex
import ServiceBroker.Proofs.Text.Percent
import ServiceBroker.Proofs.Text.Split
import ServiceBroker.Proofs.Text.Utf8
import ServiceBroker.Proofs.Url.Authority
import ServiceBroker.Proofs.Url.Host
import ServiceBroker.Proofs.Url.Ipv6
import ServiceBroker.Proofs.Url.Literal
import ServiceBroker.Proofs.Url.Normal
import ServiceBroker.Proofs.Url.Path
import ServiceBroker.Server.Address
import ServiceBroker.Server.Basic
import ServiceBroker.Server.Metrics
import ServiceBroker.Server.Overlap
import ServiceBroker.Server.Route
import ServiceBroker.Settings.Basic
import ServiceBroker.Settings.Encoding
import ServiceBroker.Settings.Variable
import ServiceBroker.Table
import ServiceBroker.Text.Base32
import ServiceBroker.Text.Base64
import ServiceBroker.Text.Blank
import ServiceBroker.Text.Form
import ServiceBroker.Text.Hex
import ServiceBroker.Text.Percent
import ServiceBroker.Text.Quoted
import ServiceBroker.Text.Redacted
import ServiceBroker.Text.Split
import ServiceBroker.Text.Trace
import ServiceBroker.Text.Utf8
import ServiceBroker.Text.Uuid
import ServiceBroker.Text.Visible
import ServiceBroker.Tls.Certificate
import ServiceBroker.Tls.Client
import ServiceBroker.Tls.Der
import ServiceBroker.Tls.Pem
import ServiceBroker.Toml.Document
import ServiceBroker.Toml.Scalar
import ServiceBroker.Toml.Table
import ServiceBroker.Url.Address
import ServiceBroker.Url.Basic
import ServiceBroker.Url.Domain
import ServiceBroker.Url.Edit
import ServiceBroker.Url.Parser
import ServiceBroker.Url.Path
import ServiceBroker.Yaml.Block
import ServiceBroker.Yaml.Flow
