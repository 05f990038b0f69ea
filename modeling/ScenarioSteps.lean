import ScenarioSteps.Catalog.Auth
import ScenarioSteps.Catalog.Interaction
import ScenarioSteps.Catalog.Navigation
import ScenarioSteps.Catalog.Network
import ScenarioSteps.Catalog.Sentence
import ScenarioSteps.Catalog.Standard
import ScenarioSteps.Catalog.Store
import ScenarioSteps.Code.Fragment
import ScenarioSteps.Code.Locator
import ScenarioSteps.Code.Value
import ScenarioSteps.Command.Files
import ScenarioSteps.Command.Invocation
import ScenarioSteps.Command.Listing
import ScenarioSteps.Command.Parameter
import ScenarioSteps.Command.Read
import ScenarioSteps.Command.Run
import ScenarioSteps.Declaration.Body
import ScenarioSteps.Declaration.Format
import ScenarioSteps.Declaration.Step
import ScenarioSteps.Fault
import ScenarioSteps.File.Assemble
import ScenarioSteps.File.Header
import ScenarioSteps.Literal.Escape
import ScenarioSteps.Main
import ScenarioSteps.Options
import ScenarioSteps.Pattern.Basic
import ScenarioSteps.Pattern.Captures
import ScenarioSteps.Pattern.Dispatch
import ScenarioSteps.Pattern.Registry
import ScenarioSteps.Pattern.Search
import ScenarioSteps.Proofs.Catalog.Address
import ScenarioSteps.Proofs.Catalog.Extension
import ScenarioSteps.Proofs.Catalog.LetterCase
import ScenarioSteps.Proofs.Catalog.Method
import ScenarioSteps.Proofs.Catalog.PagePath
import ScenarioSteps.Proofs.Catalog.Phrases
import ScenarioSteps.Proofs.Catalog.Quoted
import ScenarioSteps.Proofs.Catalog.Standard
import ScenarioSteps.Proofs.Catalog.Status
import ScenarioSteps.Proofs.Catalog.StorePath
import ScenarioSteps.Proofs.Catalog.Suited
import ScenarioSteps.Proofs.Catalog.Switch
import ScenarioSteps.Proofs.Catalog.Words
import ScenarioSteps.Proofs.Command.Choice
import ScenarioSteps.Proofs.Command.Files
import ScenarioSteps.Proofs.Command.Run
import ScenarioSteps.Proofs.Declaration.Buckets
import ScenarioSteps.Proofs.Declaration.Context
import ScenarioSteps.Proofs.Declaration.Indented
import ScenarioSteps.Proofs.Declaration.Placeholder
import ScenarioSteps.Proofs.Declaration.ReadBack
import ScenarioSteps.Proofs.Declaration.StepLine
import ScenarioSteps.Proofs.Declaration.Targets
import ScenarioSteps.Proofs.Declaration.Total
import ScenarioSteps.Proofs.File.Append
import ScenarioSteps.Proofs.File.Arrange
import ScenarioSteps.Proofs.File.Block
import ScenarioSteps.Proofs.File.Containment
import ScenarioSteps.Proofs.File.Framed
import ScenarioSteps.Proofs.File.Grouping
import ScenarioSteps.Proofs.File.Header
import ScenarioSteps.Proofs.File.Repetition
import ScenarioSteps.Proofs.File.Returns
import ScenarioSteps.Proofs.File.Scenario
import ScenarioSteps.Proofs.Literal.Delimited
import ScenarioSteps.Proofs.Literal.Escape
import ScenarioSteps.Proofs.Pattern.Captures
import ScenarioSteps.Proofs.Pattern.Differing
import ScenarioSteps.Proofs.Pattern.Dispatch
import ScenarioSteps.Proofs.Pattern.Priority
import ScenarioSteps.Proofs.Pattern.Refusal
import ScenarioSteps.Proofs.Pattern.Registry
import ScenarioSteps.Proofs.Pattern.Run
import ScenarioSteps.Proofs.Pattern.Search
import ScenarioSteps.Proofs.Pattern.Verbatim
import ScenarioSteps.Proofs.Regex.Backtrack
import ScenarioSteps.Proofs.Regex.Ending
import ScenarioSteps.Proofs.Regex.Follow
import ScenarioSteps.Proofs.Regex.Groups
import ScenarioSteps.Proofs.Regex.Language
import ScenarioSteps.Proofs.Regex.LetterCase
import ScenarioSteps.Proofs.Regex.Program
import ScenarioSteps.Proofs.Regex.Runs
import ScenarioSteps.Proofs.Regex.Search
import ScenarioSteps.Proofs.Regex.Spelling
import ScenarioSteps.Proofs.Regex.Template
import ScenarioSteps.Proofs.Script.Append
import ScenarioSteps.Proofs.Script.Attachment
import ScenarioSteps.Proofs.Script.Conjunction
import ScenarioSteps.Proofs.Script.DocStrings
import ScenarioSteps.Proofs.Script.Enclosing
import ScenarioSteps.Proofs.Script.Examples
import ScenarioSteps.Proofs.Script.Fenced
import ScenarioSteps.Proofs.Script.Grammar
import ScenarioSteps.Proofs.Script.Heading
import ScenarioSteps.Proofs.Script.Line
import ScenarioSteps.Proofs.Script.LinePattern
import ScenarioSteps.Proofs.Script.OnePass
import ScenarioSteps.Proofs.Script.Outside
import ScenarioSteps.Proofs.Script.Parts
import ScenarioSteps.Proofs.Script.Standing
import ScenarioSteps.Proofs.Script.Steps
import ScenarioSteps.Proofs.Script.StrayFence
import ScenarioSteps.Proofs.Script.TableRow
import ScenarioSteps.Proofs.Script.Trail
import ScenarioSteps.Proofs.Settings.Choice
import ScenarioSteps.Proofs.Source.Blank
import ScenarioSteps.Proofs.Source.Captured
import ScenarioSteps.Proofs.Source.Declaration
import ScenarioSteps.Proofs.Source.File
import ScenarioSteps.Proofs.Source.Fragment
import ScenarioSteps.Proofs.Source.Generators
import ScenarioSteps.Proofs.Source.Indent
import ScenarioSteps.Proofs.Source.Lexer
import ScenarioSteps.Proofs.Source.Scalar
import ScenarioSteps.Proofs.Source.Value
import ScenarioSteps.Proofs.Text.CaseFold
import ScenarioSteps.Proofs.Text.Decimal
import ScenarioSteps.Proofs.Text.LetterCase
import ScenarioSteps.Proofs.Text.Lines
import ScenarioSteps.Proofs.Text.Lowercase
import ScenarioSteps.Proofs.Text.Trim
import ScenarioSteps.Proofs.Toml.Keys
import ScenarioSteps.Proofs.Toml.Written
import ScenarioSteps.Regex.Bracket
import ScenarioSteps.Regex.CharSet
import ScenarioSteps.Regex.Defect
import ScenarioSteps.Regex.Escape
import ScenarioSteps.Regex.Match
import ScenarioSteps.Regex.Nesting
import ScenarioSteps.Regex.Parse
import ScenarioSteps.Regex.Program
import ScenarioSteps.Regex.Storage.CharSet
import ScenarioSteps.Regex.Storage.Limit
import ScenarioSteps.Regex.Storage.Literals
import ScenarioSteps.Regex.Storage.Tally
import ScenarioSteps.Regex.Syntax
import ScenarioSteps.Script.Extract
import ScenarioSteps.Script.Line
import ScenarioSteps.Script.Step
import ScenarioSteps.Settings
import ScenarioSteps.Step.Kind
import ScenarioSteps.Text.Alphanumeric
import ScenarioSteps.Text.Binary64
import ScenarioSteps.Text.Blank
import ScenarioSteps.Text.CaseFold
import ScenarioSteps.Text.CodePoints
import ScenarioSteps.Text.Decimal
import ScenarioSteps.Text.Hexadecimal
import ScenarioSteps.Text.Lines
import ScenarioSteps.Text.Lowercase
import ScenarioSteps.Text.Printable
import ScenarioSteps.Text.Uppercase
import ScenarioSteps.Text.Utf8
import ScenarioSteps.Text.WordChar
import ScenarioSteps.Toml.Cursor
import ScenarioSteps.Toml.Document
import ScenarioSteps.Toml.Number
import ScenarioSteps.Toml.Quoted
import ScenarioSteps.Toml.Read
