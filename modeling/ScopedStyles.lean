import ScopedStyles.Build.Expansion
import ScopedStyles.Build.File
import ScopedStyles.Build.Session
import ScopedStyles.Compiler
import ScopedStyles.Environment
import ScopedStyles.Failure
import ScopedStyles.Inspect
import ScopedStyles.JavaScript.Cursor
import ScopedStyles.JavaScript.Escape
import ScopedStyles.JavaScript.Grammar.Class
import ScopedStyles.JavaScript.Grammar.Expression
import ScopedStyles.JavaScript.Grammar.Function
import ScopedStyles.JavaScript.Grammar.Literal
import ScopedStyles.JavaScript.Grammar.Markup
import ScopedStyles.JavaScript.Grammar.Module
import ScopedStyles.JavaScript.Grammar.Operand
import ScopedStyles.JavaScript.Grammar.Pattern
import ScopedStyles.JavaScript.Grammar.Statement
import ScopedStyles.JavaScript.Layout
import ScopedStyles.JavaScript.Numeral
import ScopedStyles.JavaScript.Parser
import ScopedStyles.JavaScript.Printer
import ScopedStyles.JavaScript.Problem
import ScopedStyles.JavaScript.Quoted
import ScopedStyles.JavaScript.Token
import ScopedStyles.JavaScript.Tree
import ScopedStyles.Json
import ScopedStyles.Marker
import ScopedStyles.Page.Description
import ScopedStyles.Page.Place
import ScopedStyles.Page.Record
import ScopedStyles.Page.Renderer
import ScopedStyles.Page.StyleTag
import ScopedStyles.Position
import ScopedStyles.Proofs.Answers
import ScopedStyles.Proofs.Base64
import ScopedStyles.Proofs.BuildOrder
import ScopedStyles.Proofs.ByteOrder
import ScopedStyles.Proofs.CommentContents
import ScopedStyles.Proofs.CompactJson
import ScopedStyles.Proofs.CompiledAhead
import ScopedStyles.Proofs.CompiledOnce
import ScopedStyles.Proofs.Cuts
import ScopedStyles.Proofs.Declarations
import ScopedStyles.Proofs.Decoding
import ScopedStyles.Proofs.Encounters
import ScopedStyles.Proofs.FailedFile
import ScopedStyles.Proofs.FirstRender
import ScopedStyles.Proofs.HiddenCache
import ScopedStyles.Proofs.Imports
import ScopedStyles.Proofs.Injections
import ScopedStyles.Proofs.InlineStyles
import ScopedStyles.Proofs.Interruption
import ScopedStyles.Proofs.Isolation
import ScopedStyles.Proofs.Ledger
import ScopedStyles.Proofs.LiteralNames
import ScopedStyles.Proofs.MapChoice
import ScopedStyles.Proofs.Markers
import ScopedStyles.Proofs.NamedComponents
import ScopedStyles.Proofs.PrintedTags
import ScopedStyles.Proofs.Quantities
import ScopedStyles.Proofs.RawTemplates
import ScopedStyles.Proofs.Recognisers
import ScopedStyles.Proofs.Requests
import ScopedStyles.Proofs.Rounds
import ScopedStyles.Proofs.SecondPass
import ScopedStyles.Proofs.SharedVisitor
import ScopedStyles.Proofs.SourceNames
import ScopedStyles.Proofs.TrackedTags
import ScopedStyles.Proofs.UniqueNames
import ScopedStyles.Proofs.UntouchedCode
import ScopedStyles.Proofs.Visits
import ScopedStyles.Settings
import ScopedStyles.SourceMap.Base64
import ScopedStyles.SourceMap.Comment
import ScopedStyles.SourceMap.Vlq
import ScopedStyles.Stylesheet.Browsers
import ScopedStyles.Stylesheet.Calculation
import ScopedStyles.Stylesheet.Color
import ScopedStyles.Stylesheet.Color.Mix
import ScopedStyles.Stylesheet.Color.Names
import ScopedStyles.Stylesheet.Color.Reader
import ScopedStyles.Stylesheet.Color.Space
import ScopedStyles.Stylesheet.Compiler
import ScopedStyles.Stylesheet.Condition
import ScopedStyles.Stylesheet.Condition.Container
import ScopedStyles.Stylesheet.Condition.Demand
import ScopedStyles.Stylesheet.Condition.Feature
import ScopedStyles.Stylesheet.Condition.Media
import ScopedStyles.Stylesheet.Condition.Supports
import ScopedStyles.Stylesheet.Declaration
import ScopedStyles.Stylesheet.Declaration.Reader
import ScopedStyles.Stylesheet.Declarations.Shortened
import ScopedStyles.Stylesheet.Gradient
import ScopedStyles.Stylesheet.Image
import ScopedStyles.Stylesheet.Number
import ScopedStyles.Stylesheet.Piece
import ScopedStyles.Stylesheet.Position
import ScopedStyles.Stylesheet.Property
import ScopedStyles.Stylesheet.Property.Animation
import ScopedStyles.Stylesheet.Property.Background
import ScopedStyles.Stylesheet.Property.Border
import ScopedStyles.Stylesheet.Property.BorderImage
import ScopedStyles.Stylesheet.Property.Display
import ScopedStyles.Stylesheet.Property.Filter
import ScopedStyles.Stylesheet.Property.Flex
import ScopedStyles.Stylesheet.Property.Font
import ScopedStyles.Stylesheet.Property.Grid
import ScopedStyles.Stylesheet.Property.Mask
import ScopedStyles.Stylesheet.Property.Names
import ScopedStyles.Stylesheet.Property.Shadow
import ScopedStyles.Stylesheet.Property.Shorthand
import ScopedStyles.Stylesheet.Property.Sides
import ScopedStyles.Stylesheet.Property.Single
import ScopedStyles.Stylesheet.Property.Size
import ScopedStyles.Stylesheet.Property.TextDecoration
import ScopedStyles.Stylesheet.Property.Transform
import ScopedStyles.Stylesheet.Property.Transition
import ScopedStyles.Stylesheet.Quantity
import ScopedStyles.Stylesheet.Raw
import ScopedStyles.Stylesheet.Reader
import ScopedStyles.Stylesheet.Rule
import ScopedStyles.Stylesheet.Rule.Printer
import ScopedStyles.Stylesheet.Rule.Reader
import ScopedStyles.Stylesheet.Rule.Shortened
import ScopedStyles.Stylesheet.Selector
import ScopedStyles.Stylesheet.Selector.Counting
import ScopedStyles.Stylesheet.Selector.Printer
import ScopedStyles.Stylesheet.Selector.Reader
import ScopedStyles.Stylesheet.Selector.Support
import ScopedStyles.Stylesheet.Shortening
import ScopedStyles.Stylesheet.Token
import ScopedStyles.Stylesheet.Value
import ScopedStyles.Stylesheet.Value.Reader
import ScopedStyles.Template
import ScopedStyles.Text.Blank
import ScopedStyles.Text.Decimal
import ScopedStyles.Text.Hex
import ScopedStyles.Text.Hidden
import ScopedStyles.Text.Identifier
import ScopedStyles.Text.Inspect
import ScopedStyles.Text.Replace
import ScopedStyles.Text.Runs
import ScopedStyles.Text.Shortest
