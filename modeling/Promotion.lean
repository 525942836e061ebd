import Promotion.Run
import Promotion.Tree.Equal
import Promotion.Tree.Names
import Promotion.Tree.Recipe
import Promotion.Toml.Basic
import Promotion.Toml.Scalar
import Promotion.Toml.Quoted
import Promotion.Text.Quoted
import Promotion.Toml.Reader
import Promotion.Text.Double
import Promotion.Manifest
import Promotion.Json.Reader
import Promotion.Json.Value
import Promotion.Diagnostic.Basic
import Promotion.Diagnostic.Record
import Promotion.Diagnostic.Snippet
import Promotion.Proofs.BottomUp
import Promotion.Proofs.Nodes
import Promotion.Proofs.Layout
import Promotion.Proofs.Nested
import Promotion.Proofs.Inner
import Promotion.Proofs.Run
import Promotion.Proofs.Marking
import Promotion.Proofs.Order
import Promotion.Proofs.Names
import Promotion.Proofs.Naming
import Promotion.Proofs.MissingConstructor
import Promotion.Proofs.Warnings
import Promotion.Proofs.Syntax
import Promotion.Proofs.Coverage
import Promotion.Proofs.Balance
import Promotion.Proofs.Counting
import Promotion.Proofs.Provenance
import Promotion.Proofs.Drafting
import Promotion.Proofs.Equality
import Promotion.Proofs.DistinctKeys
import Promotion.Proofs.ManifestFormat
import Promotion.Proofs.OneClass
import Promotion.Proofs.DraftedNodes
import Promotion.Proofs.Numbering
import Promotion.Proofs.Renaming
import Promotion.Proofs.JsonText
import Promotion.Proofs.Log
import Promotion.Proofs.JsonReading
import Promotion.Proofs.RecordText
import Promotion.Proofs.Body
import Promotion.Proofs.Exhaustion
import Promotion.Proofs.StaleMarkers
