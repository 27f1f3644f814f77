import Quadlink.Client.Diagnostics
import Quadlink.Client.Run
import Quadlink.Client.Server
import Quadlink.Config.Environment
import Quadlink.Json.Writer
import Quadlink.Network.Script
import Quadlink.Network.Web
import Quadlink.Rdf.Record
import Quadlink.Proofs.Client.Calls
import Quadlink.Proofs.Client.TransactionLife
import Quadlink.Proofs.Client.Tokens
import Quadlink.Proofs.Client.Cache
import Quadlink.Proofs.Rdf.Grammar
import Quadlink.Proofs.Rdf.RoundTrip
import Quadlink.Proofs.Rdf.Exactness
import Quadlink.Proofs.Rdf.Notation
import Quadlink.Proofs.Client.Addition
import Quadlink.Proofs.Client.Preconditions
import Quadlink.Proofs.Client.Pinning
import Quadlink.Proofs.Codec.Percent
import Quadlink.Proofs.Url.Domain
import Quadlink.Proofs.Url.Host
import Quadlink.Proofs.Url.Path
import Quadlink.Proofs.Url.Authority
import Quadlink.Proofs.Endpoint
import Quadlink.Proofs.Url.Name
import Quadlink.Proofs.Client.Names
import Quadlink.Proofs.Http.Pairs
import Quadlink.Proofs.Client.Agreement
import Quadlink.Proofs.Client.Arguments
import Quadlink.Proofs.ServerRoot
import Quadlink.Proofs.Network.Twins
import Quadlink.Proofs.Client.Secrecy
import Quadlink.Proofs.Text.Utf8
import Quadlink.Proofs.Json.Strings
import Quadlink.Proofs.Json.Documents
import Quadlink.Proofs.Toml.Scalars
import Quadlink.Proofs.Toml.Documents
import Quadlink.Proofs.Config.Notations
import Quadlink.Proofs.Config.Agreement
import Quadlink.Proofs.Config.Writing
import Quadlink.Proofs.Network.Budget
import Quadlink.Proofs.Rdf.Literals
import Quadlink.Proofs.Json.Records
import Quadlink.Proofs.Json.Writing
import Quadlink.Proofs.Json.Exactness
import Quadlink.Proofs.Json.Values
import Quadlink.Proofs.Content.Acceptance
import Quadlink.Proofs.Content.Tables
import Quadlink.Proofs.Client.Servers
import Quadlink.Proofs.Client.Origin
import Quadlink.Proofs.Location
import Quadlink.Proofs.Network.Delivery
import Quadlink.Proofs.Client.Patterns
import Quadlink.Proofs.Rdf.Faults
import Quadlink.Proofs.Client.Batches
import Quadlink.Proofs.Duration
import Quadlink.Proofs.Network.Backoff
import Quadlink.Proofs.Content.Registry
import Quadlink.Proofs.Auth.Credentials
import Quadlink.Proofs.Histories
import Quadlink.Proofs.Http.Assignments
import Quadlink.Proofs.Client.Interleaving
