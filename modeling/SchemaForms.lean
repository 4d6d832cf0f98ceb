import SchemaForms.Backend.Call
import SchemaForms.Backend.Client
import SchemaForms.Backend.Execution
import SchemaForms.Backend.UserBlock
import SchemaForms.Cache.Basic
import SchemaForms.Cache.Callers
import SchemaForms.Catalog.Basic
import SchemaForms.Catalog.Definition
import SchemaForms.Catalog.Picker
import SchemaForms.CommandLine.Arguments
import SchemaForms.CommandLine.Complaint
import SchemaForms.CommandLine.Elapsed
import SchemaForms.CommandLine.Folder
import SchemaForms.CommandLine.Form
import SchemaForms.CommandLine.Help
import SchemaForms.CommandLine.Report
import SchemaForms.CommandLine.Scan
import SchemaForms.Config
import SchemaForms.Decimal.Binary64
import SchemaForms.Decimal.Layout
import SchemaForms.Decimal.Shortest
import SchemaForms.Decode
import SchemaForms.Format
import SchemaForms.Json.Fault
import SchemaForms.Json.Literal
import SchemaForms.Json.Reader
import SchemaForms.Json.Writer
import SchemaForms.Main
import SchemaForms.Path.Basic
import SchemaForms.Path.Key
import SchemaForms.Proofs.Cache.Eviction
import SchemaForms.Proofs.Cache.Filing
import SchemaForms.Proofs.Cache.LateLoads
import SchemaForms.Proofs.Cache.Records
import SchemaForms.Proofs.Cache.SingleFlight
import SchemaForms.Proofs.Cache.Steps
import SchemaForms.Proofs.Cache.Sweeping
import SchemaForms.Proofs.Catalog.Searching
import SchemaForms.Proofs.Decimal.Notation
import SchemaForms.Proofs.Json.Literals
import SchemaForms.Proofs.Json.RoundTrip
import SchemaForms.Proofs.Path.Canonical
import SchemaForms.Proofs.Path.Collisions
import SchemaForms.Proofs.Path.Regions
import SchemaForms.Proofs.Path.RoundTrip
import SchemaForms.Proofs.Render.Addressing
import SchemaForms.Proofs.Render.Advancing
import SchemaForms.Proofs.Render.Agreement
import SchemaForms.Proofs.Render.Bounded
import SchemaForms.Proofs.Render.Fields
import SchemaForms.Proofs.Render.FreeForms
import SchemaForms.Proofs.Render.Growth
import SchemaForms.Proofs.Render.Modules
import SchemaForms.Proofs.Render.Nesting
import SchemaForms.Proofs.Render.Opening
import SchemaForms.Proofs.Render.Parametric
import SchemaForms.Proofs.Render.Places
import SchemaForms.Proofs.Render.Positions
import SchemaForms.Proofs.Render.Sound
import SchemaForms.Proofs.Schema.Chains
import SchemaForms.Proofs.Schema.Cycles
import SchemaForms.Proofs.Schema.Definitions
import SchemaForms.Proofs.Schema.Merging
import SchemaForms.Proofs.Schema.Pointers
import SchemaForms.Proofs.Schema.Proper
import SchemaForms.Proofs.Session.Actions
import SchemaForms.Proofs.Session.AddedKeys
import SchemaForms.Proofs.Session.AddingItems
import SchemaForms.Proofs.Session.Completing
import SchemaForms.Proofs.Session.Consistent
import SchemaForms.Proofs.Session.Filing
import SchemaForms.Proofs.Session.Hydrating
import SchemaForms.Proofs.Session.Inserting
import SchemaForms.Proofs.Session.Keystrokes
import SchemaForms.Proofs.Session.LateMounts
import SchemaForms.Proofs.Session.Locality
import SchemaForms.Proofs.Session.Mounting
import SchemaForms.Proofs.Session.Naming
import SchemaForms.Proofs.Session.NumberFields
import SchemaForms.Proofs.Session.Observing
import SchemaForms.Proofs.Session.OpenTexts
import SchemaForms.Proofs.Session.OwnSchemas
import SchemaForms.Proofs.Session.RefusedKeys
import SchemaForms.Proofs.Session.Serving
import SchemaForms.Proofs.Session.Shifting
import SchemaForms.Proofs.Session.ShownKeys
import SchemaForms.Proofs.Session.TextForms
import SchemaForms.Proofs.Session.TextModes
import SchemaForms.Proofs.Session.Upkeep
import SchemaForms.Proofs.Store.Appending
import SchemaForms.Proofs.Store.Clearing
import SchemaForms.Proofs.Store.Edits
import SchemaForms.Proofs.Store.Frame
import SchemaForms.Proofs.Store.Moving
import SchemaForms.Proofs.Store.Padding
import SchemaForms.Proofs.Store.Refusals
import SchemaForms.Proofs.Store.Watching
import SchemaForms.Proofs.Store.Writing
import SchemaForms.Proofs.Text.Sigmas
import SchemaForms.Proofs.Url.Encoding
import SchemaForms.Proofs.Url.Endpoints
import SchemaForms.Proofs.Url.Putting
import SchemaForms.Proofs.Yaml.Block
import SchemaForms.Proofs.Yaml.Characters
import SchemaForms.Proofs.Yaml.Documents
import SchemaForms.Proofs.Yaml.Events
import SchemaForms.Proofs.Yaml.Gaps
import SchemaForms.Proofs.Yaml.Marks
import SchemaForms.Proofs.Yaml.Plain
import SchemaForms.Proofs.Yaml.Quoted
import SchemaForms.Proofs.Yaml.Rounds
import SchemaForms.Proofs.Yaml.Scalars
import SchemaForms.Proofs.Yaml.Tokens
import SchemaForms.Rehearsal.Basic
import SchemaForms.Rehearsal.Loads
import SchemaForms.Rehearsal.Mounting
import SchemaForms.Rehearsal.Supply
import SchemaForms.Rehearsal.Watching
import SchemaForms.Render.Basic
import SchemaForms.Render.Description
import SchemaForms.Render.Outline
import SchemaForms.Render.Widget
import SchemaForms.Schema.Category
import SchemaForms.Schema.Description
import SchemaForms.Schema.Reference
import SchemaForms.Session.Action
import SchemaForms.Session.Basic
import SchemaForms.Session.Description
import SchemaForms.Session.Editor
import SchemaForms.Session.Hydration
import SchemaForms.Session.InPlace
import SchemaForms.Session.Mount
import SchemaForms.Session.Mounts
import SchemaForms.Session.Property
import SchemaForms.Session.Registry
import SchemaForms.Session.Text
import SchemaForms.Store.Basic
import SchemaForms.Store.Document
import SchemaForms.Store.Feed
import SchemaForms.Store.InPlace
import SchemaForms.Table
import SchemaForms.Text.Basic
import SchemaForms.Text.Combining
import SchemaForms.Text.Composites
import SchemaForms.Text.Composition
import SchemaForms.Text.Escaped
import SchemaForms.Text.Lowercase
import SchemaForms.Text.Numeral
import SchemaForms.Text.Similarity
import SchemaForms.Url.Address
import SchemaForms.Url.Basic
import SchemaForms.Url.Domain.Basic
import SchemaForms.Url.Domain.Direction
import SchemaForms.Url.Domain.Excluded
import SchemaForms.Url.Domain.Joining
import SchemaForms.Url.Domain.Letters
import SchemaForms.Url.Domain.Marks
import SchemaForms.Url.Domain.Texts
import SchemaForms.Url.Host
import SchemaForms.Url.Percent
import SchemaForms.Url.Punycode
import SchemaForms.Url.Reader
import SchemaForms.Url.Segments
import SchemaForms.Value.Basic
import SchemaForms.Value.Integral
import SchemaForms.Value.Regular
import SchemaForms.Yaml.Cursor
import SchemaForms.Yaml.Event
import SchemaForms.Yaml.Reader
import SchemaForms.Yaml.Resolve
import SchemaForms.Yaml.ScalarText
import SchemaForms.Yaml.Style
import SchemaForms.Yaml.Tag
import SchemaForms.Yaml.Token
import SchemaForms.Yaml.Writer
