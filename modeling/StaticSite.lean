import StaticSite.Main
import StaticSite.Proofs.Component.Links
import StaticSite.Proofs.Component.Nodes
import StaticSite.Proofs.Component.Growth
import StaticSite.Proofs.Component.Assembling
import StaticSite.Proofs.Component.Preorder
import StaticSite.Proofs.Component.Trimming
import StaticSite.Proofs.Html.Rendering
import StaticSite.Proofs.Site.Dropping
import StaticSite.Proofs.Html.Reading
import StaticSite.Proofs.Text.Entities
import StaticSite.Proofs.Html.Templates
import StaticSite.Proofs.Html.Events
import StaticSite.Proofs.Script.Reader
import StaticSite.Proofs.Script.Lookups
import StaticSite.Proofs.Html.Anchors
import StaticSite.Proofs.Site.Agreement
import StaticSite.Proofs.Disk.Segments
import StaticSite.Proofs.Disk.Walking
import StaticSite.Proofs.Disk.Delivering
import StaticSite.Proofs.Html.Documents
import StaticSite.Proofs.Html.Legibility
import StaticSite.Proofs.Jsx.Reader
import StaticSite.Proofs.Jsx.Reading
import StaticSite.Proofs.Php.Splitter
import StaticSite.Proofs.Site.Exporting
import StaticSite.Proofs.Site.HtmlPage
import StaticSite.Proofs.Site.PageElement
import StaticSite.Proofs.Site.PhpPage
import StaticSite.Proofs.Disk.Changing
import StaticSite.Proofs.Text.Bytes
import StaticSite.Proofs.Disk.Containment
import StaticSite.Proofs.Disk.ReadingBack
import StaticSite.Proofs.Component.Mapping
import StaticSite.Proofs.Site.Handlers
import StaticSite.Proofs.Decimal.Numerals
import StaticSite.Proofs.Json.Preescaping
import StaticSite.Proofs.Html.Preescaping
import StaticSite.Proofs.Site.ExportMap
import StaticSite.Proofs.Site.EditorData
import StaticSite.Proofs.Component.Flattening
import StaticSite.Proofs.Component.Reordering
import StaticSite.Proofs.Json.Restoring
import StaticSite.Proofs.Json.Records
import StaticSite.Proofs.Component.Restoring
import StaticSite.Proofs.Site.Restoring
import StaticSite.Proofs.Component.Rejecting
import StaticSite.Proofs.Component.Positions
import StaticSite.Proofs.Settings.Searching
import StaticSite.Proofs.Settings.Loading
import StaticSite.Proofs.Disk.Ancestors
import StaticSite.Proofs.CommandLine.Touching
import StaticSite.Proofs.Component.Walking
import StaticSite.Proofs.Site.Siblings
import StaticSite.Proofs.Settings.Expanding
import StaticSite.Proofs.Css.Identifiers
import StaticSite.Proofs.Site.Selecting
import StaticSite.Proofs.Site.Validating
import StaticSite.Proofs.Site.Naming
import StaticSite.Proofs.Site.ModuleNames
import StaticSite.Proofs.Html.Fields
import StaticSite.Proofs.Css.PropertyNames
import StaticSite.Proofs.Css.Reader
import StaticSite.Proofs.Site.Stylesheets
import StaticSite.Proofs.Json.Leaves
import StaticSite.Proofs.Css.CamelCase
import StaticSite.Proofs.Text.Literals
import StaticSite.Proofs.Component.Visiting
import StaticSite.Proofs.Site.NamedKinds
