import PhraseStructure.Bundled
import PhraseStructure.CommandLine.Commands
import PhraseStructure.CommandLine.Failure
import PhraseStructure.CommandLine.FileSystem
import PhraseStructure.CommandLine.Host
import PhraseStructure.CommandLine.InMemory
import PhraseStructure.CommandLine.Invocation
import PhraseStructure.CommandLine.Loading
import PhraseStructure.CommandLine.Path
import PhraseStructure.CommandLine.Session
import PhraseStructure.Grammar
import PhraseStructure.Grammar.Error
import PhraseStructure.Grammar.Reader
import PhraseStructure.Lexicon
import PhraseStructure.Lexicon.Reader
import PhraseStructure.Main
import PhraseStructure.Matching
import PhraseStructure.Parser
import PhraseStructure.Proofs.Calls
import PhraseStructure.Proofs.ContextFree
import PhraseStructure.Proofs.DepthLimit
import PhraseStructure.Proofs.Derivation
import PhraseStructure.Proofs.GrammarText
import PhraseStructure.Proofs.OrderedChoice
import PhraseStructure.Proofs.Preorder
import PhraseStructure.Proofs.Rules
import PhraseStructure.Proofs.Verdicts
import PhraseStructure.Report
import PhraseStructure.Table
import PhraseStructure.Text.Blank
import PhraseStructure.Text.CodePoints
import PhraseStructure.Text.Columns
import PhraseStructure.Text.Columns.EmojiTables
import PhraseStructure.Text.Columns.Ligature
import PhraseStructure.Text.Columns.Opening
import PhraseStructure.Text.Columns.Tables
import PhraseStructure.Text.Definition
import PhraseStructure.Text.LowerCase
import PhraseStructure.Text.LowerCase.Tables
import PhraseStructure.Text.Pieces
import PhraseStructure.Tokens
import PhraseStructure.Trace
import PhraseStructure.Tree
import PhraseStructure.Tree.Bracket
import PhraseStructure.Tree.Colour
import PhraseStructure.Tree.Graph
import PhraseStructure.Tree.Json
import PhraseStructure.Tree.Layout
import PhraseStructure.Tree.Outline
import PhraseStructure.Tree.Preorder
import PhraseStructure.Proofs.Log
import PhraseStructure.Proofs.KeptTraces
import PhraseStructure.Proofs.Expectations
import PhraseStructure.Proofs.Progress
import PhraseStructure.Proofs.Locality
import PhraseStructure.Proofs.Reachability
import PhraseStructure.Proofs.Phrases
import PhraseStructure.Proofs.Diagnostics
import PhraseStructure.Proofs.LeftRecursion
import PhraseStructure.Proofs.UnknownSymbols
import PhraseStructure.Proofs.DeadAlternatives
import PhraseStructure.Proofs.DefinitionLines
import PhraseStructure.Proofs.GrammarSource
import PhraseStructure.Proofs.LowerCase
import PhraseStructure.Proofs.LexiconText
import PhraseStructure.Proofs.LexiconListing
import PhraseStructure.Proofs.Barriers
import PhraseStructure.Proofs.Rejections
import PhraseStructure.Proofs.ShadowedAlternatives
import PhraseStructure.Proofs.Subtrees
import PhraseStructure.Proofs.LeadingLoops
import PhraseStructure.Proofs.Nesting
import PhraseStructure.Proofs.GrammarReading
import PhraseStructure.Proofs.LexiconReading
import PhraseStructure.Proofs.Paths
import PhraseStructure.Proofs.Graph
import PhraseStructure.Proofs.LayoutRows
import PhraseStructure.Proofs.LayoutColumns
import PhraseStructure.Proofs.Outlines
import PhraseStructure.Proofs.Bracketing
import PhraseStructure.Proofs.GraphText
import PhraseStructure.Proofs.ActiveSet
