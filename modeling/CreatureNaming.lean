import CreatureNaming.Text.Blank
import CreatureNaming.Text.Ascii
import CreatureNaming.Pattern.Span
import CreatureNaming.Pattern.Lexeme
import CreatureNaming.Pattern.Nesting
import CreatureNaming.Pattern.Tree
import CreatureNaming.Pattern.Grammar
import CreatureNaming.Json.Basic
import CreatureNaming.Json.Quoted
import CreatureNaming.Json.Reader
import CreatureNaming.Number.Binary64
import CreatureNaming.Number.Digits
import CreatureNaming.Number.Decimal
import CreatureNaming.Number.Numeral
import CreatureNaming.Number.Layout
import CreatureNaming.Number.Format
import CreatureNaming.Json.Number
import CreatureNaming.Json.Printer
import CreatureNaming.Color
import CreatureNaming.Creature
import CreatureNaming.Levels
import CreatureNaming.Species
import CreatureNaming.Naming.Context
import CreatureNaming.Token.Description
import CreatureNaming.Token.Value
import CreatureNaming.Text.Case
import CreatureNaming.Time.Directive
import CreatureNaming.Time.Letters
import CreatureNaming.Function.Arithmetic
import CreatureNaming.Function.Basic
import CreatureNaming.Function.Work
import CreatureNaming.Naming.Render
import CreatureNaming.Collection
import CreatureNaming.Naming.Batch
import CreatureNaming.Lint
import CreatureNaming.Toml.Quoted
import CreatureNaming.Disk.Path
import CreatureNaming.Toml.Reader
import CreatureNaming.Disk.Basic
import CreatureNaming.Disk.Memory
import CreatureNaming.Document
import CreatureNaming.Loading
import CreatureNaming.Workspace
import CreatureNaming.Command.Arguments
import CreatureNaming.Command.Help
import CreatureNaming.Command.Run
import CreatureNaming.Main
import CreatureNaming.Proofs.Pattern.Pairing
import CreatureNaming.Proofs.Pattern.PlainGrammar
import CreatureNaming.Proofs.Naming.Rendering
import CreatureNaming.Proofs.Naming.NumberUse
import CreatureNaming.Proofs.Naming.NumberSearch
import CreatureNaming.Proofs.Naming.FirstFree
import CreatureNaming.Proofs.Grouping
import CreatureNaming.Proofs.Naming.OneByOne
import CreatureNaming.Proofs.Naming.BySpecies
import CreatureNaming.Proofs.Naming.Clashes
import CreatureNaming.Proofs.Naming.Numbering
import CreatureNaming.Proofs.Pattern.Derivations
import CreatureNaming.Proofs.Pattern.Spelling
import CreatureNaming.Proofs.Pattern.Faithful
import CreatureNaming.Proofs.Pattern.Lossless
import CreatureNaming.Proofs.Pattern.Canonical
import CreatureNaming.Proofs.Pattern.Written
import CreatureNaming.Proofs.Pattern.RoundTrip
import CreatureNaming.Proofs.Naming.SpeciesApart
import CreatureNaming.Proofs.Levels
import CreatureNaming.Proofs.Naming.OwnRecord
import CreatureNaming.Proofs.Pattern.Findings
import CreatureNaming.Proofs.Json.Numerals
import CreatureNaming.Proofs.Json.Strings
import CreatureNaming.Proofs.Json.Documents
import CreatureNaming.Proofs.Json.Values
import CreatureNaming.Proofs.Json.Records
import CreatureNaming.Proofs.Collections
import CreatureNaming.Proofs.WriteBack
import CreatureNaming.Proofs.Naming.DuplicateReport
import CreatureNaming.Proofs.Naming.FirstOfSpecies
import CreatureNaming.Proofs.Pattern.Depth
import CreatureNaming.Proofs.Pattern.NormalForm
import CreatureNaming.Proofs.Pattern.Separators
import CreatureNaming.Proofs.Pattern.Places
import CreatureNaming.Proofs.Pattern.Shift
import CreatureNaming.Proofs.Pattern.Appending
import CreatureNaming.Proofs.Pattern.HalfTypedCall
import CreatureNaming.Proofs.Token.Comparisons
import CreatureNaming.Proofs.Token.Ordinals
import CreatureNaming.Proofs.Token.Oldest
import CreatureNaming.Proofs.Token.Catalog
import CreatureNaming.Proofs.Token.Letters
import CreatureNaming.Proofs.Number.Sections
import CreatureNaming.Proofs.Number.Digits
import CreatureNaming.Proofs.Number.Nearest
import CreatureNaming.Proofs.Number.Fixed
import CreatureNaming.Proofs.Number.Integers
import CreatureNaming.Proofs.Number.SectionLayout
import CreatureNaming.Proofs.Number.Agreement
import CreatureNaming.Proofs.Number.Exact
import CreatureNaming.Proofs.Text.Runs
import CreatureNaming.Proofs.Text.Slices
import CreatureNaming.Proofs.Text.Bytes
import CreatureNaming.Proofs.Number.Written
import CreatureNaming.Proofs.Number.Int64
import CreatureNaming.Proofs.Number.Overflow
import CreatureNaming.Proofs.Number.IntegerTexts
import CreatureNaming.Proofs.Time.Layouts
import CreatureNaming.Proofs.Function.Answers
import CreatureNaming.Proofs.Function.Expressions
import CreatureNaming.Proofs.Function.Positions
import CreatureNaming.Proofs.Function.WrittenCalls
import CreatureNaming.Proofs.Function.IntegerCalls
import CreatureNaming.Proofs.Token.BaseLevel
