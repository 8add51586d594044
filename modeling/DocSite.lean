import DocSite.Main
import DocSite.Proofs.Document.Injection
import DocSite.Proofs.Document.Segment
import DocSite.Proofs.Document.Pass
import DocSite.Proofs.Document.Nesting
import DocSite.Proofs.Document.Section
import DocSite.Proofs.Html.Decoding
import DocSite.Proofs.Html.HeadingTags
import DocSite.Proofs.Site.OutlineAgreement
import DocSite.Proofs.Site.Session
import DocSite.Proofs.Html.Destination
import DocSite.Proofs.Site.Coherence
import DocSite.Proofs.Site.Sessions
import DocSite.Proofs.Html.Tags
import DocSite.Proofs.Document.Balance
import DocSite.Proofs.Html.PlainText
import DocSite.Proofs.Document.PageText
import DocSite.Proofs.Site.Fetching
import DocSite.Proofs.Web.Answers
import DocSite.Proofs.Text.Utf8
import DocSite.Proofs.Web.PercentForm
import DocSite.Proofs.Text.Pieces
import DocSite.Proofs.Web.Paths
import DocSite.Proofs.Site.Loading
import DocSite.Proofs.Web.Routing
import DocSite.Proofs.Html.Marks
import DocSite.Proofs.Json.Strings
import DocSite.Proofs.Site.PageParts
import DocSite.Proofs.Json.Reading
import DocSite.Proofs.Web.Surfaces
import DocSite.Proofs.Site.Visits
import DocSite.Proofs.Except
import DocSite.Proofs.Json.Objects
import DocSite.Proofs.Site.SidebarReading
import DocSite.Proofs.Web.SidebarAnswers
import DocSite.Proofs.Toml.Keys
import DocSite.Proofs.Toml.Records
import DocSite.Proofs.Config.Settings
import DocSite.Proofs.Config.Loading
import DocSite.Proofs.Html.Skeleton
import DocSite.Proofs.Html.Unseen
import DocSite.Proofs.Html.Lookalike
import DocSite.Proofs.Html.Parts
import DocSite.Proofs.Site.PageForm
import DocSite.Proofs.Site.PageStructure
import DocSite.Proofs.Document.ImageText
import DocSite.Proofs.Document.Reuse
import DocSite.Proofs.Site.Isolation
import DocSite.Proofs.Web.Requests
import DocSite.Proofs.Text.Search
import DocSite.Proofs.Config.References
import DocSite.Proofs.Config.Templates
import DocSite.Proofs.Config.Overriding
import DocSite.Proofs.Document.Rewriting
import DocSite.Proofs.Document.HeadingLinks
import DocSite.Proofs.Document.CodeBlocks
import DocSite.Proofs.Document.Batches
import DocSite.Proofs.Document.StageOrder
import DocSite.Proofs.Site.Locations
import DocSite.Proofs.Site.Gaps
import DocSite.Proofs.Document.Tables
import DocSite.Proofs.Html.Elements
import DocSite.Proofs.Site.SidebarOnPage
import DocSite.Proofs.Command.FirstRequest
import DocSite.Proofs.Command.OutlineLines
import DocSite.Proofs.Css.Tokens
import DocSite.Proofs.Site.ThemeRules
import DocSite.Proofs.Json.Grammar
import DocSite.Proofs.Json.StringAcceptance
import DocSite.Proofs.Json.NumberAcceptance
import DocSite.Proofs.Json.ValueAcceptance
import DocSite.Proofs.Json.PartAcceptance
import DocSite.Proofs.Site.SidebarFormat
import DocSite.Proofs.Site.LinkAcceptance
import DocSite.Proofs.Site.SidebarAcceptance
import DocSite.Proofs.Document.Slugs
import DocSite.Proofs.Storage.Walking
import DocSite.Proofs.Config.Discovery
import DocSite.Proofs.Command.LeftOut
import DocSite.Proofs.Command.PageFile
import DocSite.Proofs.Command.Serving
import DocSite.Proofs.Document.Spans
import DocSite.Proofs.Document.Positions
import DocSite.Proofs.Html.Escaping
