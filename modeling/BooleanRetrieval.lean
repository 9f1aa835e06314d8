import BooleanRetrieval.Main
import BooleanRetrieval.Database
import BooleanRetrieval.FileTree
import BooleanRetrieval.Config
import BooleanRetrieval.Results
import BooleanRetrieval.Query.Evaluation
import BooleanRetrieval.Query.Parser
import BooleanRetrieval.Index.File
import BooleanRetrieval.Registry
import BooleanRetrieval.Analyzer
import BooleanRetrieval.Stem
import BooleanRetrieval.Text.Alphabetic
import BooleanRetrieval.Text.BreakClass
import BooleanRetrieval.Text.Lowercase
import BooleanRetrieval.Text.Numeric
import BooleanRetrieval.Text.Pictographic
import BooleanRetrieval.Text.Split
import BooleanRetrieval.Text.Uppercase
import BooleanRetrieval.Proofs.Text.Split
import BooleanRetrieval.Proofs.Text.Encoding
import BooleanRetrieval.Proofs.Posting
import BooleanRetrieval.Proofs.Corpus
import BooleanRetrieval.Proofs.Index.Content
import BooleanRetrieval.Proofs.Index.Totals
import BooleanRetrieval.Proofs.Index.Grammar
import BooleanRetrieval.Proofs.Index.Entry
import BooleanRetrieval.Proofs.Index.Reading
import BooleanRetrieval.Proofs.Index.File
import BooleanRetrieval.Proofs.Query.Grammar
import BooleanRetrieval.Proofs.Query.Evaluation
import BooleanRetrieval.Proofs.FileTree
import BooleanRetrieval.Proofs.Database.Build
import BooleanRetrieval.Proofs.Database.Search
import BooleanRetrieval.Proofs.Results
import BooleanRetrieval.Proofs.Database.Algebra
import BooleanRetrieval.Proofs.Index.History
import BooleanRetrieval.Proofs.Text.RangeMap
import BooleanRetrieval.Proofs.Text.Capital
import BooleanRetrieval.Proofs.Text.Lowercase
import BooleanRetrieval.Proofs.Query.Rendering
import BooleanRetrieval.Proofs.Text.Segment
import BooleanRetrieval.Proofs.Analyzer
import BooleanRetrieval.Proofs.Database.Vocabulary
import BooleanRetrieval.Proofs.Database.Batch
import BooleanRetrieval.Proofs.Term
import BooleanRetrieval.Proofs.Query.Formula
import BooleanRetrieval.Proofs.Index.Interchange
import BooleanRetrieval.Proofs.Index.Canonical
import BooleanRetrieval.Proofs.Token
import BooleanRetrieval.Proofs.Pipeline
import BooleanRetrieval.Proofs.Tokenizer
import BooleanRetrieval.Proofs.Text.Titlecase
import BooleanRetrieval.Proofs.StopWords
import BooleanRetrieval.Proofs.Posting.Map
import BooleanRetrieval.Proofs.Posting.AnyOrder
import BooleanRetrieval.Proofs.Index.Recount
import BooleanRetrieval.Proofs.Place
import BooleanRetrieval.Proofs.Corpus.Manifest
import BooleanRetrieval.Proofs.Path
import BooleanRetrieval.Proofs.Results.Foreign
import BooleanRetrieval.Proofs.Query.Case
import BooleanRetrieval.Proofs.Text.Context
import BooleanRetrieval.Proofs.Text.Spacing
import BooleanRetrieval.Proofs.Index.Kept
import BooleanRetrieval.Proofs.Json.Literal
import BooleanRetrieval.Proofs.Json.Value
import BooleanRetrieval.Proofs.Config
import BooleanRetrieval.Proofs.CommandLine
