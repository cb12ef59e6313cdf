import Mustache.Calendar.Date
import Mustache.Calendar.Moment
import Mustache.Command.Arguments
import Mustache.Command.Help
import Mustache.Command.Options
import Mustache.Command.Refusal
import Mustache.Command.Run
import Mustache.Fault
import Mustache.Files.FileTree
import Mustache.Files.Path
import Mustache.Json.Printer
import Mustache.Json.Reader
import Mustache.Main
import Mustache.Number.Binary64
import Mustache.Number.Numeral
import Mustache.Number.Reader
import Mustache.Number.Shortest
import Mustache.Proofs.Balance
import Mustache.Proofs.BodyTree
import Mustache.Proofs.CachesSideBySide
import Mustache.Proofs.CatalogueValues
import Mustache.Proofs.Coverage
import Mustache.Proofs.DataViews
import Mustache.Proofs.DecodedBytes
import Mustache.Proofs.DelimiterTags
import Mustache.Proofs.EngineHistory
import Mustache.Proofs.EnsuredSteps
import Mustache.Proofs.Ensuring
import Mustache.Proofs.Entities
import Mustache.Proofs.EscapedOutput
import Mustache.Proofs.EscapedText
import Mustache.Proofs.FaithfulTree
import Mustache.Proofs.FileSessions
import Mustache.Proofs.FirstFault
import Mustache.Proofs.Flattening
import Mustache.Proofs.FrameRuns
import Mustache.Proofs.HigherOrder
import Mustache.Proofs.HostLines
import Mustache.Proofs.HostedPartials
import Mustache.Proofs.IndentedLines
import Mustache.Proofs.IndentedTemplates
import Mustache.Proofs.IndentedText
import Mustache.Proofs.JoinedRenderings
import Mustache.Proofs.JoinedTrees
import Mustache.Proofs.Joining
import Mustache.Proofs.KeptTokens
import Mustache.Proofs.Lexing
import Mustache.Proofs.Lines
import Mustache.Proofs.ListIndexes
import Mustache.Proofs.Locality
import Mustache.Proofs.Matching
import Mustache.Proofs.NameResolution
import Mustache.Proofs.NamedDelimiters
import Mustache.Proofs.Nesting
import Mustache.Proofs.NumberEscape
import Mustache.Proofs.OneLineTexts
import Mustache.Proofs.OneLineViews
import Mustache.Proofs.Outlines
import Mustache.Proofs.Places
import Mustache.Proofs.Printing
import Mustache.Proofs.PrivateAttributes
import Mustache.Proofs.Progress
import Mustache.Proofs.PropertyProbes
import Mustache.Proofs.PublicPaths
import Mustache.Proofs.QuotedTexts
import Mustache.Proofs.ReachedEngines
import Mustache.Proofs.ReachedValues
import Mustache.Proofs.Reading
import Mustache.Proofs.RecalledNames
import Mustache.Proofs.RecordedRendering
import Mustache.Proofs.Recording
import Mustache.Proofs.Regrouping
import Mustache.Proofs.Remembering
import Mustache.Proofs.RenderedBody
import Mustache.Proofs.RenderedSections
import Mustache.Proofs.RenderingsSideBySide
import Mustache.Proofs.ReturnedRenderings
import Mustache.Proofs.ReturnedTemplates
import Mustache.Proofs.ScannedTemplates
import Mustache.Proofs.Scanning
import Mustache.Proofs.SectionBody
import Mustache.Proofs.Shifting
import Mustache.Proofs.SideBySide
import Mustache.Proofs.Squashing
import Mustache.Proofs.StandaloneBlocks
import Mustache.Proofs.StandaloneLines
import Mustache.Proofs.StandalonePartials
import Mustache.Proofs.TagText
import Mustache.Proofs.TextCharacters
import Mustache.Proofs.Throughout
import Mustache.Proofs.UnmentionedData
import Mustache.Proofs.ValueFaults
import Mustache.Render.Cache
import Mustache.Render.Config
import Mustache.Render.Engine
import Mustache.Render.Escape
import Mustache.Render.FilePartials
import Mustache.Render.Note
import Mustache.Render.Partials
import Mustache.Render.Renderer
import Mustache.Render.Session
import Mustache.Settings.Complaint
import Mustache.Settings.Load
import Mustache.Settings.Validate
import Mustache.Template.Balance
import Mustache.Template.Delimiters
import Mustache.Template.HostLine
import Mustache.Template.Lexer
import Mustache.Template.Nest
import Mustache.Template.Outline
import Mustache.Template.Parse
import Mustache.Template.Pattern
import Mustache.Template.Reading
import Mustache.Template.Record
import Mustache.Template.Scanner
import Mustache.Template.Squash
import Mustache.Template.Standalone
import Mustache.Template.SyntaxFault
import Mustache.Template.Token
import Mustache.Text.Blank
import Mustache.Text.Case
import Mustache.Text.Digit
import Mustache.Text.Lines
import Mustache.Text.Printable
import Mustache.Text.Quoted
import Mustache.Text.Utf8
import Mustache.View.Access
import Mustache.View.Catalogue
import Mustache.View.Display
import Mustache.View.Frame
import Mustache.View.FrameTree
import Mustache.View.Host
import Mustache.View.Load
import Mustache.View.Property
import Mustache.View.Recipe
import Mustache.View.Value
import Mustache.Yaml.Cursor
import Mustache.Yaml.Defect
import Mustache.Yaml.Loader
import Mustache.Yaml.Node
import Mustache.Yaml.Part
import Mustache.Yaml.Scalar
import Mustache.Yaml.Schema
import Mustache.Yaml.Timestamp
import Mustache.Yaml.Token
