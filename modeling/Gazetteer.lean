import Gazetteer.Decimal.Fixed
import Gazetteer.Decimal.Numeral
import Gazetteer.Text.Category
import Gazetteer.Text.Script
import Gazetteer.Text.ScriptExtension
import Gazetteer.Text.BinaryProperty
import Gazetteer.Text.Casing
import Gazetteer.Text.Blank
import Gazetteer.Text.Split
import Gazetteer.Value.Printer
import Gazetteer.Value.Order
import Gazetteer.Value.Reader
import Gazetteer.Pattern.Expr
import Gazetteer.Pattern.CharClass
import Gazetteer.Pattern.Parser
import Gazetteer.Pattern.Basic
import Gazetteer.Geodesy.Bounds
import Gazetteer.Geodesy.DistanceUnit
import Gazetteer.Geodesy.Memo
import Gazetteer.Geodesy.GreatCircle
import Gazetteer.Geodesy.Gauge
import Gazetteer.Geodesy.Config
import Gazetteer.Lookup.Predicate
import Gazetteer.Atlas.Document
import Gazetteer.Proofs.Run
import Gazetteer.Proofs.OrderBy
import Gazetteer.Proofs.Sharing
import Gazetteer.Proofs.Filter
import Gazetteer.Proofs.Query
import Gazetteer.Proofs.Packing
import Gazetteer.Proofs.Adoption
import Gazetteer.Proofs.Refusal
import Gazetteer.Proofs.Coordinate
import Gazetteer.Proofs.Position
import Gazetteer.Proofs.Retrieval
import Gazetteer.Proofs.WriteBack
import Gazetteer.Proofs.Comparison
import Gazetteer.Proofs.Key
import Gazetteer.Proofs.Equality
import Gazetteer.Proofs.Conversion
import Gazetteer.Proofs.WholeNumber
import Gazetteer.Proofs.LowerCase
import Gazetteer.Proofs.Narrowing
import Gazetteer.Proofs.Repeats
import Gazetteer.Proofs.Dump
import Gazetteer.Proofs.Projection
import Gazetteer.Proofs.Bounds
import Gazetteer.Proofs.Shapes
import Gazetteer.Proofs.Extent
import Gazetteer.Proofs.Recency
import Gazetteer.Proofs.Iteration
import Gazetteer.Proofs.Writing
import Gazetteer.Proofs.Places
import Gazetteer.Proofs.Settings
