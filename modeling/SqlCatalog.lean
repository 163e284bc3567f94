import SqlCatalog.Extraction.Event
import SqlCatalog.Extraction.Extractor
import SqlCatalog.Json.Schema
import SqlCatalog.Lexeme.Literal
import SqlCatalog.Proofs.Bracket.Partner
import SqlCatalog.Proofs.Extraction.Accounting
import SqlCatalog.Proofs.Extraction.CanonicalText
import SqlCatalog.Proofs.Extraction.Composition
import SqlCatalog.Proofs.Extraction.Consistency
import SqlCatalog.Proofs.Extraction.DeclaredType
import SqlCatalog.Proofs.Extraction.Joining
import SqlCatalog.Proofs.Extraction.Layout
import SqlCatalog.Proofs.Extraction.LetterCase
import SqlCatalog.Proofs.Extraction.Log
import SqlCatalog.Proofs.Extraction.Opacity
import SqlCatalog.Proofs.Extraction.Placement
import SqlCatalog.Proofs.Extraction.Qualifier
import SqlCatalog.Proofs.Extraction.WellFormed
import SqlCatalog.Proofs.Fragment.ClauseOrder
import SqlCatalog.Proofs.Indexing.Columns
import SqlCatalog.Proofs.Json.Carrying
import SqlCatalog.Proofs.Lexing.Bytes
import SqlCatalog.Proofs.Lexing.Closing
import SqlCatalog.Proofs.Lexing.Division
import SqlCatalog.Proofs.Lexing.Origin
import SqlCatalog.Proofs.Lexing.Quotation
import SqlCatalog.Proofs.Rendering.Table
import SqlCatalog.Proofs.Statement.Grammar
import SqlCatalog.Proofs.Statement.OptionOrder
import SqlCatalog.Proofs.Statement.Trimming
import SqlCatalog.Schema.Render
