import InlineNotes.Pipeline.Basic
import InlineNotes.Storage.Listing
import InlineNotes.Main
import InlineNotes.Proofs.OnePass
import InlineNotes.Proofs.Decoding
import InlineNotes.Proofs.References
import InlineNotes.Proofs.Definitions
import InlineNotes.Proofs.Concatenation
import InlineNotes.Proofs.Resumption
import InlineNotes.Proofs.SecondConversion
import InlineNotes.Proofs.Reports
import InlineNotes.Proofs.CommandOutput
import InlineNotes.Proofs.Target
import InlineNotes.Proofs.Footprint
import InlineNotes.Proofs.Segmentation
import InlineNotes.Proofs.Markers
import InlineNotes.Proofs.Opacity
import InlineNotes.Proofs.Stage
import InlineNotes.Proofs.Limits
import InlineNotes.Proofs.Reloading
import InlineNotes.Proofs.DefinitionSearch
import InlineNotes.Proofs.Pieces
