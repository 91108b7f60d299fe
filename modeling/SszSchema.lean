import SszSchema.Text.Points
import SszSchema.Text.Blank
import SszSchema.Text.Letters
import SszSchema.Text.LowerCase
import SszSchema.Text.Printable
import SszSchema.Text.IdentifierChar
import SszSchema.Text.Compatibility
import SszSchema.Text.Quoted
import SszSchema.Classification
import SszSchema.Codec.Bits
import SszSchema.Codec.Bytes
import SszSchema.Codec.Decoding
import SszSchema.Codec.Encoding
import SszSchema.Codec.Size
import SszSchema.Command
import SszSchema.Command.Reply
import SszSchema.Log.Moment
import SszSchema.Main
import SszSchema.Proofs.ByteStrings
import SszSchema.Proofs.PackedBits
import SszSchema.Proofs.Steps
import SszSchema.Proofs.SszType
import SszSchema.Proofs.Parts
import SszSchema.Proofs.Serialization
import SszSchema.Proofs.Compliance
import SszSchema.Proofs.Encoding
import SszSchema.Proofs.Decoding
import SszSchema.Proofs.Unfolding
import SszSchema.Proofs.Registration
import SszSchema.Proofs.Verdicts
import SszSchema.Proofs.Generation
import SszSchema.Proofs.DeclaredTypes
import SszSchema.Proofs.Resolving
import SszSchema.Proofs.Maintaining
import SszSchema.Proofs.Registry
import SszSchema.Proofs.History
import SszSchema.Proofs.RoundTrip
import SszSchema.Proofs.InfiniteSize
import SszSchema.Proofs.Measures
import SszSchema.Proofs.Calls
import SszSchema.Proofs.Robustness
import SszSchema.Proofs.BestEffort
import SszSchema.Proofs.Assembling
import SszSchema.Proofs.Writing
import SszSchema.Proofs.Fragments
import SszSchema.Proofs.Names
import SszSchema.Proofs.Hygiene
import SszSchema.Proofs.Closure
import SszSchema.Proofs.DeclaredCode
import SszSchema.Proofs.Building
import SszSchema.Proofs.Placement
import SszSchema.Proofs.Reordering
import SszSchema.Proofs.WellFormed
import SszSchema.Proofs.Totality
import SszSchema.Proofs.Importing
import SszSchema.Proofs.Recovery
import SszSchema.Proofs.Appending
import SszSchema.Proofs.NodeSizes
import SszSchema.Proofs.Demands
import SszSchema.Proofs.Rejections
import SszSchema.Proofs.Annotations
import SszSchema.Proofs.FaultPlaces
import SszSchema.Proofs.Cycles
import SszSchema.Proofs.Directories
import SszSchema.Proofs.Regeneration
import SszSchema.Proofs.OffsetTables
import SszSchema.Proofs.NormalForm
import SszSchema.Proofs.Lexing
import SszSchema.Proofs.Headers
