import BridgeTypings.CommandLine
import BridgeTypings.Declaration
import BridgeTypings.Emission
import BridgeTypings.Error
import BridgeTypings.Event
import BridgeTypings.Exposure
import BridgeTypings.FileTree
import BridgeTypings.Generation
import BridgeTypings.Java.Keyword
import BridgeTypings.Java.Lexical
import BridgeTypings.Java.Parser.Basic
import BridgeTypings.Java.Parser.Declaration
import BridgeTypings.Java.Parser.Expression
import BridgeTypings.Java.Parser.Parameter
import BridgeTypings.Java.Parser.Source
import BridgeTypings.Java.Parser.Statement
import BridgeTypings.Java.Parser.Type
import BridgeTypings.Java.StringLiteral
import BridgeTypings.Java.Syntax
import BridgeTypings.Java.TypeReading
import BridgeTypings.Main
import BridgeTypings.Number.Binary64
import BridgeTypings.OrderedMap
import BridgeTypings.Path
import BridgeTypings.Proofs.Collected
import BridgeTypings.Proofs.Collected.WellFormed
import BridgeTypings.Proofs.Exposure
import BridgeTypings.Proofs.Exposure.Dimensions
import BridgeTypings.Proofs.Exposure.Markers
import BridgeTypings.Proofs.Exposure.Refusals
import BridgeTypings.Proofs.Generation
import BridgeTypings.Proofs.Generation.Failures
import BridgeTypings.Proofs.Generation.Growth
import BridgeTypings.Proofs.Generation.Lines
import BridgeTypings.Proofs.Generation.Supertypes
import BridgeTypings.Proofs.Java.Gaps
import BridgeTypings.Proofs.Java.Meaning
import BridgeTypings.Proofs.Java.Parsing.Declarations
import BridgeTypings.Proofs.Java.Parsing.Expressions
import BridgeTypings.Proofs.Java.Parsing.Names
import BridgeTypings.Proofs.Java.Parsing.Sources
import BridgeTypings.Proofs.Java.Parsing.Types
import BridgeTypings.Proofs.Java.Proper
import BridgeTypings.Proofs.Java.Reading.Members
import BridgeTypings.Proofs.Java.Reading.Sources
import BridgeTypings.Proofs.Java.Reading.Tokens
import BridgeTypings.Proofs.Java.Reading.Types
import BridgeTypings.Proofs.Java.Reading.Written
import BridgeTypings.Proofs.Java.Shape
import BridgeTypings.Proofs.Java.Spelling
import BridgeTypings.Proofs.Java.StringLiteral.Decoding
import BridgeTypings.Proofs.Java.StringLiteral.Denotation
import BridgeTypings.Proofs.Java.StringLiteral.Digits
import BridgeTypings.Proofs.Java.StringLiteral.Elements
import BridgeTypings.Proofs.Java.StringLiteral.Items
import BridgeTypings.Proofs.Java.StringLiteral.Scanning
import BridgeTypings.Proofs.Java.StringLiteral.Translation
import BridgeTypings.Proofs.Java.TypeReading
import BridgeTypings.Proofs.Java.Void
import BridgeTypings.Proofs.Java.Written
import BridgeTypings.Proofs.OrderedMap
import BridgeTypings.Proofs.Outcome
import BridgeTypings.Proofs.Output.Determination
import BridgeTypings.Proofs.Output.Faithful
import BridgeTypings.Proofs.Output.Growth
import BridgeTypings.Proofs.Output.Layout
import BridgeTypings.Proofs.Output.Lines
import BridgeTypings.Proofs.Output.Names
import BridgeTypings.Proofs.Output.Nesting
import BridgeTypings.Proofs.Output.Outline
import BridgeTypings.Proofs.Output.References
import BridgeTypings.Proofs.Output.Sizes
import BridgeTypings.Proofs.Output.Supertypes
import BridgeTypings.Proofs.Output.TypeLayout
import BridgeTypings.Proofs.Output.Unambiguity
import BridgeTypings.Proofs.Path
import BridgeTypings.Proofs.Registration
import BridgeTypings.Proofs.Scan.Additions
import BridgeTypings.Proofs.Scan.Collection
import BridgeTypings.Proofs.Scan.Failures
import BridgeTypings.Proofs.Scan.Growth
import BridgeTypings.Proofs.Scan.Listing
import BridgeTypings.Proofs.Scan.Reordering
import BridgeTypings.Proofs.Scan.Resolution
import BridgeTypings.Proofs.Settings.Given
import BridgeTypings.Proofs.Settings.Layering
import BridgeTypings.Proofs.Settings.Merging
import BridgeTypings.Proofs.Settings.Schema
import BridgeTypings.Proofs.Text.Parsing
import BridgeTypings.Proofs.Text.Pattern
import BridgeTypings.Proofs.Text.Reading
import BridgeTypings.Proofs.Text.Splitting
import BridgeTypings.Proofs.Text.Utf16
import BridgeTypings.Proofs.Toml.Distinct
import BridgeTypings.Proofs.Types
import BridgeTypings.Registration
import BridgeTypings.Rendering
import BridgeTypings.Settings
import BridgeTypings.Settings.Load
import BridgeTypings.Settings.Schema
import BridgeTypings.Text.IdentifierChar
import BridgeTypings.Text.Parser
import BridgeTypings.Text.Pattern
import BridgeTypings.Text.Quoted
import BridgeTypings.Text.ShownChar
import BridgeTypings.Text.Utf16
import BridgeTypings.Toml.Document
import BridgeTypings.Toml.Parser
import BridgeTypings.Toml.Value
import BridgeTypings.TypeExpr
