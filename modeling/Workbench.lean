import Workbench.CommandLine.Arguments
import Workbench.CommandLine.Console
import Workbench.CommandLine.Invocation
import Workbench.CommandLine.Run
import Workbench.CommandLine.Token
import Workbench.Config.Basic
import Workbench.Config.Decode
import Workbench.Config.Load
import Workbench.Config.Validity
import Workbench.Dev.Browser
import Workbench.Dev.Forward
import Workbench.Dev.Injection
import Workbench.Dev.Script
import Workbench.Dev.Server
import Workbench.Dev.Site
import Workbench.Dev.Wire
import Workbench.Env.Reference
import Workbench.Files.Operation
import Workbench.Files.Path
import Workbench.Files.Tree
import Workbench.Host.Basic
import Workbench.Host.Domain
import Workbench.Host.Endpoint
import Workbench.Host.Ipv4
import Workbench.Host.Ipv6
import Workbench.Host.Punycode
import Workbench.Http.Forwardable
import Workbench.Http.Headers
import Workbench.Http.Message
import Workbench.Http.Upgrade
import Workbench.Http.Uri
import Workbench.Json.Reader
import Workbench.Json.Token
import Workbench.Json.Value
import Workbench.Main
import Workbench.Pattern.Class
import Workbench.Pattern.Escape
import Workbench.Pattern.Flags
import Workbench.Pattern.Machine
import Workbench.Pattern.Node
import Workbench.Pattern.Parser
import Workbench.Proofs.CommandLine.Given
import Workbench.Proofs.CommandLine.Reading
import Workbench.Proofs.CommandLine.Recorded
import Workbench.Proofs.Config.Decoded
import Workbench.Proofs.Config.Expanded
import Workbench.Proofs.Config.Loaded
import Workbench.Proofs.Config.Loading
import Workbench.Proofs.Config.Overridden
import Workbench.Proofs.Config.Precedence
import Workbench.Proofs.Config.Requirement
import Workbench.Proofs.Config.Violation
import Workbench.Proofs.Dev.Asked
import Workbench.Proofs.Dev.Placement
import Workbench.Proofs.Dev.Relay
import Workbench.Proofs.Dev.Reload
import Workbench.Proofs.Dev.Representation
import Workbench.Proofs.Dev.Suffix
import Workbench.Proofs.Dev.Survival
import Workbench.Proofs.Env.Ahead
import Workbench.Proofs.Env.Braces
import Workbench.Proofs.Env.Documented
import Workbench.Proofs.Env.Plan
import Workbench.Proofs.Env.Reading
import Workbench.Proofs.Env.Word
import Workbench.Proofs.Files.Existing
import Workbench.Proofs.Files.Relative
import Workbench.Proofs.Host.DottedQuad
import Workbench.Proofs.Http.Header
import Workbench.Proofs.Http.Listed
import Workbench.Proofs.Http.Target
import Workbench.Proofs.Json.Document
import Workbench.Proofs.Json.Quoted
import Workbench.Proofs.Pattern.Thread
import Workbench.Proofs.Reload.Announced
import Workbench.Proofs.Reload.Delivery
import Workbench.Proofs.Reload.Frame
import Workbench.Proofs.Reload.NetEffect
import Workbench.Proofs.Reload.PageReload
import Workbench.Proofs.Reload.Pending
import Workbench.Proofs.Reload.Presence
import Workbench.Proofs.Reload.Session
import Workbench.Proofs.Reload.Settling
import Workbench.Proofs.Reload.Turns
import Workbench.Proofs.Reload.Window
import Workbench.Proofs.Rule.Backend
import Workbench.Proofs.Rule.Flags
import Workbench.Proofs.Rule.Language
import Workbench.Proofs.Rule.Proxy
import Workbench.Proofs.Rule.Substitution
import Workbench.Proofs.Rule.Template
import Workbench.Proofs.Rule.Walk
import Workbench.Proofs.Seed.Described
import Workbench.Proofs.Static.Part
import Workbench.Proofs.Static.Whole
import Workbench.Proofs.Success
import Workbench.Proofs.Text.Decimal
import Workbench.Proofs.Text.Letter
import Workbench.Proofs.Text.Percent
import Workbench.Proofs.Text.Split
import Workbench.Proofs.Text.Utf8
import Workbench.Proofs.Url.Dots
import Workbench.Proofs.Url.Kept
import Workbench.Proofs.Url.Origin
import Workbench.Proofs.Url.Path
import Workbench.Proofs.Url.Reading
import Workbench.Reload.Audience
import Workbench.Reload.Channel
import Workbench.Reload.Debounce
import Workbench.Reload.Event
import Workbench.Reload.Glob
import Workbench.Reload.Window
import Workbench.Rule.Basic
import Workbench.Rule.Evaluate
import Workbench.Rule.Parser
import Workbench.Rule.Template
import Workbench.Seed.Descriptor
import Workbench.Seed.Record
import Workbench.Seed.Server
import Workbench.Static.Date
import Workbench.Static.MediaType
import Workbench.Static.Range
import Workbench.Static.Serve
import Workbench.Text.Blank
import Workbench.Text.CaseFold
import Workbench.Text.Category
import Workbench.Text.CharSet
import Workbench.Text.Number
import Workbench.Text.Percent
import Workbench.Text.Property
import Workbench.Text.Quoted
import Workbench.Text.Script
import Workbench.Text.Selection
import Workbench.Toml.Document
import Workbench.Toml.Scalar
import Workbench.Toml.Text
import Workbench.Toml.Value
import Workbench.Url.Basic
import Workbench.Url.Parser
import Workbench.Proofs.Config.Unset
import Workbench.Proofs.Reload.Everything
import Workbench.Proofs.Text.Decoded
import Workbench.Proofs.Static.Names
import Workbench.Proofs.Dev.Addressed
import Workbench.Proofs.Rule.Ingredients
import Workbench.Proofs.Dev.Redirect
import Workbench.Proofs.Files.Above
import Workbench.Proofs.Config.Nearest
