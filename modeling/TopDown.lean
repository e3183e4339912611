import TopDown.Analysis.Ascending
import TopDown.Analysis.Basic
import TopDown.Analysis.First
import TopDown.Analysis.Follow
import TopDown.Command.Args
import TopDown.Command.Directory
import TopDown.Command.Interaction
import TopDown.Command.Run
import TopDown.Compilation
import TopDown.Emission.Code
import TopDown.Emission.Fragment
import TopDown.Emission.Identifier
import TopDown.Emission.Layout
import TopDown.Emission.Name
import TopDown.Emission.Support
import TopDown.Emission.Tables
import TopDown.Failure
import TopDown.Grammar.Basic
import TopDown.Grammar.Declarations
import TopDown.Grammar.Piece
import TopDown.Grammar.Resolve
import TopDown.Grammar.Vocabulary
import TopDown.Json
import TopDown.Lexicon.Basic
import TopDown.Lexicon.File
import TopDown.Lexicon.Line
import TopDown.Machine.Basic
import TopDown.Machine.Journal
import TopDown.Main
import TopDown.ParseError
import TopDown.Pattern.CharSet
import TopDown.Pattern.Class
import TopDown.Pattern.Escape
import TopDown.Pattern.Expr
import TopDown.Pattern.Footprint
import TopDown.Pattern.Octets
import TopDown.Pattern.Parse
import TopDown.Pattern.Program
import TopDown.Pattern.Property
import TopDown.Pattern.Search
import TopDown.Proofs.Analysis.Checked
import TopDown.Proofs.Analysis.Derivation
import TopDown.Proofs.Analysis.First
import TopDown.Proofs.Analysis.Follow
import TopDown.Proofs.Analysis.Loop
import TopDown.Proofs.Analysis.Settle
import TopDown.Proofs.Analysis.Succession
import TopDown.Proofs.Compilation
import TopDown.Proofs.Emission.Clash
import TopDown.Proofs.Emission.Condensed
import TopDown.Proofs.Emission.Faithful
import TopDown.Proofs.Emission.Nesting
import TopDown.Proofs.Grammar.Attribution
import TopDown.Proofs.Grammar.Declared
import TopDown.Proofs.Grammar.EmptySpelling
import TopDown.Proofs.Grammar.Greedy
import TopDown.Proofs.Grammar.Language
import TopDown.Proofs.Grammar.Pieces
import TopDown.Proofs.Grammar.RoundTrip
import TopDown.Proofs.Grammar.Vocabulary
import TopDown.Proofs.Grammar.WellFormed
import TopDown.Proofs.Grammar.Written
import TopDown.Proofs.Lexicon.RoundTrip
import TopDown.Proofs.Lexicon.Spelling
import TopDown.Proofs.Linting
import TopDown.Proofs.Machine.Acceptance
import TopDown.Proofs.Machine.Checked
import TopDown.Proofs.Machine.FirstError
import TopDown.Proofs.Machine.Halting
import TopDown.Proofs.Machine.Leftmost
import TopDown.Proofs.Machine.Lockstep
import TopDown.Proofs.Machine.Offsets
import TopDown.Proofs.Machine.Run
import TopDown.Proofs.Machine.Slots
import TopDown.Proofs.OpenQuotes
import TopDown.Proofs.Pattern.Anchored
import TopDown.Proofs.Pattern.Enclosed
import TopDown.Proofs.Pattern.Spared
import TopDown.Proofs.Pattern.SparedClass
import TopDown.Proofs.Replay
import TopDown.Proofs.Resolution
import TopDown.Proofs.Session
import TopDown.Proofs.Standalone.Agreement
import TopDown.Proofs.Standalone.Prediction
import TopDown.Proofs.Standalone.Reading
import TopDown.Proofs.Table.Cells
import TopDown.Proofs.Table.Checked
import TopDown.Proofs.Table.LeftRecursion
import TopDown.Proofs.Table.PredictSets
import TopDown.Proofs.Table.Unambiguity
import TopDown.Proofs.Text.Literal
import TopDown.Proofs.Tokenizer.Anchoring
import TopDown.Proofs.Tokenizer.Reading
import TopDown.Proofs.Tokenizer.Recovery
import TopDown.Proofs.Tokenizer.Tiling
import TopDown.Proofs.Traversal
import TopDown.Proofs.Tree.Assembly
import TopDown.Proofs.Tree.Building
import TopDown.Proofs.Tree.Capping
import TopDown.Proofs.Tree.Depth
import TopDown.Proofs.Tree.Derivation
import TopDown.Proofs.Tree.Growth
import TopDown.Proofs.Tree.Numbering
import TopDown.Proofs.Tree.Unfolding
import TopDown.Proofs.Tree.Walks
import TopDown.Sample
import TopDown.Session
import TopDown.Settings.Basic
import TopDown.Settings.Word
import TopDown.SpecError
import TopDown.Standalone
import TopDown.Table.Basic
import TopDown.Table.Strategy
import TopDown.Text.Blank
import TopDown.Text.Bytes
import TopDown.Text.Escape
import TopDown.Text.Hex
import TopDown.Text.Lines
import TopDown.Text.Quoted
import TopDown.Token
import TopDown.TokenTable
import TopDown.Tokenizer
import TopDown.Tree.Arena
import TopDown.Tree.Basic
import TopDown.Tree.Parse
import TopDown.Unicode.Age
import TopDown.Unicode.AgeData
import TopDown.Unicode.BinaryProperty
import TopDown.Unicode.CaseFold
import TopDown.Unicode.Category
import TopDown.Unicode.CategoryData
import TopDown.Unicode.Property
import TopDown.Unicode.PropertyData
import TopDown.Unicode.Ranges
import TopDown.Unicode.Script
import TopDown.Unicode.ScriptData
import TopDown.Unicode.Segmentation
import TopDown.Validation
