import OrderDesk.Text.Blank
import OrderDesk.Text.Run
import OrderDesk.Text.LowerCase
import OrderDesk.Text.Mark
import OrderDesk.Text.Composition
import OrderDesk.Text.Direction
import OrderDesk.Text.Joining
import OrderDesk.Text.Percent
import OrderDesk.Text.Dict
import OrderDesk.Json.Numeral
import OrderDesk.Json.Node
import OrderDesk.Json.Reader
import OrderDesk.Json.Embedded
import OrderDesk.Json.Value
import OrderDesk.Scope
import OrderDesk.Graph
import OrderDesk.Graph.Standard
import OrderDesk.Graph.Wire
import OrderDesk.Label
import OrderDesk.Feedback
import OrderDesk.Message
import OrderDesk.Instant
import OrderDesk.Disk
import OrderDesk.Cache
import OrderDesk.Cache.Location
import OrderDesk.Cache.Request
import OrderDesk.Cache.Content
import OrderDesk.Cache.Open
import OrderDesk.Control
import OrderDesk.Transport
import OrderDesk.Store
import OrderDesk.Desk
import OrderDesk.Refresh
import OrderDesk.Selection
import OrderDesk.Session
import OrderDesk.Timeline
import OrderDesk.Script
import OrderDesk.Cookie
import OrderDesk.Number.Double
import OrderDesk.Toml.Sign
import OrderDesk.Toml.Quoted
import OrderDesk.Toml.Moment
import OrderDesk.Toml.Value
import OrderDesk.Toml.Tree
import OrderDesk.Toml.Reader
import OrderDesk.Settings
import OrderDesk.Url
import OrderDesk.Url.Punycode
import OrderDesk.Url.Domain
import OrderDesk.Url.Host
import OrderDesk.Url.Reader
import OrderDesk.Http.Client
import OrderDesk.Http.Network
import OrderDesk.Workplace
import OrderDesk.Console.Arguments
import OrderDesk.Console
import OrderDesk.Main
import OrderDesk.Proofs.Touch
import OrderDesk.Proofs.Step
import OrderDesk.Proofs.Run
import OrderDesk.Proofs.Page
import OrderDesk.Proofs.Exclusion
import OrderDesk.Proofs.Frame
import OrderDesk.Proofs.Fence
import OrderDesk.Proofs.Settling
import OrderDesk.Proofs.Turn
import OrderDesk.Proofs.Adoption
import OrderDesk.Proofs.History
import OrderDesk.Proofs.Verdict
import OrderDesk.Proofs.Reading
import OrderDesk.Proofs.RoundTrip
import OrderDesk.Proofs.Reconciliation
import OrderDesk.Proofs.Calls
import OrderDesk.Proofs.Renewal
import OrderDesk.Proofs.Replacement
import OrderDesk.Proofs.Durability
import OrderDesk.Proofs.Choices
import OrderDesk.Proofs.Rejection
import OrderDesk.Proofs.Exchange
import OrderDesk.Proofs.Tolerance
import OrderDesk.Proofs.Indicator
import OrderDesk.Proofs.Parallel
import OrderDesk.Proofs.Mask
import OrderDesk.Proofs.Separation
import OrderDesk.Proofs.Pending
import OrderDesk.Proofs.Containment
import OrderDesk.Proofs.Documents
import OrderDesk.Proofs.Opening
import OrderDesk.Proofs.Reopening
import OrderDesk.Proofs.Mapping
import OrderDesk.Proofs.Move
import OrderDesk.Proofs.Fetching
import OrderDesk.Proofs.Succession
import OrderDesk.Proofs.Messages
import OrderDesk.Proofs.Derivation
import OrderDesk.Proofs.Offer
import OrderDesk.Proofs.Inert
import OrderDesk.Proofs.Ignoring
import OrderDesk.Proofs.Following
import OrderDesk.Proofs.Lookup
import OrderDesk.Proofs.Coding
import OrderDesk.Proofs.Token
import OrderDesk.Proofs.Sending
import OrderDesk.Proofs.Precedence
import OrderDesk.Proofs.Bystander
import OrderDesk.Proofs.Pace
import OrderDesk.Proofs.Shown
import OrderDesk.Proofs.Location
import OrderDesk.Proofs.Directory
import OrderDesk.Proofs.Binding
