import Reshape.Compile.Query
import Reshape.Json.Reader
import Reshape.Value.Identity
import Reshape.Proofs.Value.Rearrangement
import Reshape.Proofs.Json.RoundTrip
import Reshape.Proofs.Node.Copy
import Reshape.Proofs.Node.Exclusion
import Reshape.Proofs.Node.Kept
import Reshape.Proofs.Node.Partition
import Reshape.Proofs.Node.Ranking
import Reshape.Proofs.Node.Reads
import Reshape.Proofs.Node.RecordOrder
import Reshape.Proofs.Node.Single
import Reshape.Proofs.Node.Ties
import Reshape.Proofs.Compile.Call
import Reshape.Proofs.Compile.Carried
import Reshape.Proofs.Compile.Chain
import Reshape.Proofs.Compile.FieldOrder
import Reshape.Proofs.Compile.Filter
import Reshape.Proofs.Compile.GroupBy
import Reshape.Proofs.Compile.Location
import Reshape.Proofs.Compile.Names
import Reshape.Proofs.Compile.Predicate
import Reshape.Proofs.Compile.Projection
import Reshape.Proofs.Compile.Range
import Reshape.Proofs.Compile.Removal
import Reshape.Proofs.Compile.Shuffle
import Reshape.Proofs.Compile.Sorted
import Reshape.Proofs.Query.Spelling
import Reshape.Proofs.Value.Equality
import Reshape.Proofs.Vocabulary.Rounding
import Reshape.Proofs.Vocabulary.Totals
