import DataflowTyping.Catalogue.Arithmetic
import DataflowTyping.Graph.Edit
import DataflowTyping.Proofs.Forgetting
import DataflowTyping.Proofs.Hints
import DataflowTyping.Proofs.OperandWidths
import DataflowTyping.Proofs.Permanence
import DataflowTyping.Proofs.Replacement
import DataflowTyping.Proofs.Reporting
import DataflowTyping.Proofs.Restoring
import DataflowTyping.Proofs.RoundTrip
import DataflowTyping.Proofs.SharedPorts
import DataflowTyping.Proofs.Shielding
import DataflowTyping.Proofs.Undoing
import DataflowTyping.Proofs.Unwiring
import DataflowTyping.Proofs.WidestSource
import DataflowTyping.Proofs.Worklist
import DataflowTyping.Settings.Disk
import DataflowTyping.Stored.Codec
