import DocSite.Catalog
import DocSite.Command
import DocSite.Command.Arguments
import DocSite.Doc.Description
import DocSite.Doc.Item
import DocSite.Doc.Library
import DocSite.Failure
import DocSite.Files.Path
import DocSite.Files.Tree
import DocSite.LibraryRoot
import DocSite.Main
import DocSite.Manifest
import DocSite.Markdown.Block
import DocSite.Markdown.Emphasis
import DocSite.Markdown.Escape
import DocSite.Markdown.Inline
import DocSite.Markdown.Line
import DocSite.Markdown.LinkTarget
import DocSite.Markdown.NamedCharacter
import DocSite.Markdown.Render
import DocSite.Markdown.Tag
import DocSite.Native
import DocSite.Page
import DocSite.Page.Link
import DocSite.Page.Markup
import DocSite.Page.Outline
import DocSite.Page.Prose
import DocSite.Page.Search
import DocSite.Proofs.Action
import DocSite.Proofs.Catalog.Attach
import DocSite.Proofs.Catalog.Extensions
import DocSite.Proofs.Catalog.Growth
import DocSite.Proofs.Catalog.Order
import DocSite.Proofs.Catalog.Reload
import DocSite.Proofs.Catalog.Views
import DocSite.Proofs.Files.Path
import DocSite.Proofs.Files.Script
import DocSite.Proofs.Files.Tree
import DocSite.Proofs.Files.Writing
import DocSite.Proofs.LibraryRoot
import DocSite.Proofs.Listing
import DocSite.Proofs.Page.Address
import DocSite.Proofs.Page.Anchor
import DocSite.Proofs.Page.Href
import DocSite.Proofs.Page.Landing
import DocSite.Proofs.Page.Link
import DocSite.Proofs.Page.Markup
import DocSite.Proofs.Page.Outline
import DocSite.Proofs.Page.Prose
import DocSite.Proofs.Routing
import DocSite.Proofs.Site.Cards
import DocSite.Proofs.Site.EntityPage
import DocSite.Proofs.Site.Isolation
import DocSite.Proofs.Site.Order
import DocSite.Proofs.Site.Publication
import DocSite.Proofs.Site.Replay
import DocSite.Proofs.Site.Rerun
import DocSite.Proofs.Site.Resolve
import DocSite.Proofs.Site.Run
import DocSite.Proofs.Site.SourcePage
import DocSite.Proofs.Site.Splice
import DocSite.Proofs.Site.Steady
import DocSite.Proofs.Source.Aside
import DocSite.Proofs.Source.Body
import DocSite.Proofs.Source.Declaration
import DocSite.Proofs.Source.Lexer
import DocSite.Proofs.Source.Members
import DocSite.Proofs.Source.Nesting
import DocSite.Proofs.Source.Prose
import DocSite.Proofs.Source.Reader
import DocSite.Proofs.Source.Signature
import DocSite.Proofs.Source.TagType
import DocSite.Proofs.Store
import DocSite.Proofs.Text.Form
import DocSite.Proofs.Text.Lines
import DocSite.Proofs.Wire.Damage
import DocSite.Proofs.Wire.Lexeme
import DocSite.Proofs.Wire.Motion
import DocSite.Proofs.Wire.RoundTrip
import DocSite.Proofs.Wire.Safety
import DocSite.Proofs.Wire.Shortest
import DocSite.Proofs.Wire.Size
import DocSite.Proofs.Wire.Spelling
import DocSite.Proofs.Wire.Tokens
import DocSite.Proofs.Wire.Truncation
import DocSite.Site
import DocSite.Site.Event
import DocSite.Source.Brace
import DocSite.Source.Comment
import DocSite.Source.Declaration
import DocSite.Source.Reader
import DocSite.Source.Reference
import DocSite.Store
import DocSite.Target
import DocSite.Text.Binary64
import DocSite.Text.Blank
import DocSite.Text.CaseFold
import DocSite.Text.Cut
import DocSite.Text.Form
import DocSite.Text.Hex
import DocSite.Text.Json
import DocSite.Text.Lines
import DocSite.Text.Punctuation
import DocSite.Text.Quoted
import DocSite.Text.Word
import DocSite.Wire.CacheFile
import DocSite.Wire.Corruption
import DocSite.Wire.Decoder
import DocSite.Wire.Format
import DocSite.Wire.Token
import DocSite.Yaml.Event
import DocSite.Yaml.Place
import DocSite.Yaml.Scalar
import DocSite.Yaml.Token
