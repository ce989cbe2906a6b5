import Encapsulation.Builder.Wire
import Encapsulation.Field.Number
import Encapsulation.Dump
import Encapsulation.Meaning
import Encapsulation.Memo.Program
import Encapsulation.Session
import Encapsulation.Proofs.Kind.Order
import Encapsulation.Proofs.Kind.Acceptance
import Encapsulation.Proofs.Memo.Unfold
import Encapsulation.Proofs.Memo.Dependence
import Encapsulation.Proofs.Memo.Footprint
import Encapsulation.Proofs.Access.Cells
import Encapsulation.Proofs.Access.Header
import Encapsulation.Proofs.Access.Packet
import Encapsulation.Proofs.Access.Equality
import Encapsulation.Proofs.Access.Measured
import Encapsulation.Proofs.Access.Build
import Encapsulation.Proofs.Access.Regular
import Encapsulation.Proofs.Access.Moment
import Encapsulation.Proofs.Access.Dependence
import Encapsulation.Proofs.Access.Unfold
import Encapsulation.Proofs.Access.Log
import Encapsulation.Proofs.Access.Silence
import Encapsulation.Proofs.Access.Failure
import Encapsulation.Proofs.Access.Footprint
import Encapsulation.Proofs.Bytes.Hex
import Encapsulation.Proofs.Bytes.Number
import Encapsulation.Proofs.Bytes.Polynomial
import Encapsulation.Proofs.Bytes.Edit
import Encapsulation.Proofs.Text.Numeral
import Encapsulation.Proofs.Text.Section
import Encapsulation.Proofs.Text.Heading
import Encapsulation.Proofs.Chain.Mirror
import Encapsulation.Proofs.Packet.Composed
import Encapsulation.Proofs.Packet.Equality
import Encapsulation.Proofs.Packet.Library
import Encapsulation.Proofs.Packet.Position
import Encapsulation.Proofs.Chain.Search
import Encapsulation.Proofs.Field.Number
import Encapsulation.Proofs.Header.Layout
import Encapsulation.Proofs.Packet.Outline
import Encapsulation.Proofs.Packet.Flat
import Encapsulation.Proofs.Builder.Reopen
import Encapsulation.Proofs.Builder.Wire
import Encapsulation.Proofs.Builder.LengthField
import Encapsulation.Proofs.Builder.Context
import Encapsulation.Proofs.Builder.Unfold
import Encapsulation.Proofs.Builder.Report
import Encapsulation.Proofs.Workbench.Operation
import Encapsulation.Proofs.Workbench.Sound
import Encapsulation.Proofs.Workbench.Action
import Encapsulation.Proofs.Workbench.Run
import Encapsulation.Proofs.Workbench.Coherence
import Encapsulation.Proofs.Workbench.Regular
import Encapsulation.Proofs.Workbench.Shown
import Encapsulation.Proofs.Workbench.Equality
import Encapsulation.Proofs.Workbench.Text
import Encapsulation.Proofs.Workbench.Wire
import Encapsulation.Proofs.Workbench.LengthField
import Encapsulation.Proofs.Workbench.Rebuild
import Encapsulation.Proofs.Workbench.Mirror
import Encapsulation.Proofs.Workbench.Context
import Encapsulation.Proofs.Workbench.Moment
import Encapsulation.Proofs.Workbench.Log
import Encapsulation.Proofs.Workbench.Failure
import Encapsulation.Proofs.Workbench.Closure
import Encapsulation.Proofs.Workbench.Report
import Encapsulation.Proofs.Workbench.Footprint
import Encapsulation.Proofs.Workbench.Flat
import Encapsulation.Proofs.Workbench.Hash
import Encapsulation.Proofs.Workbench.Codec
import Encapsulation.Proofs.Workbench.Hex
import Encapsulation.Proofs.Access.Guard
import Encapsulation.Proofs.Workbench.Reentry
import Encapsulation.Proofs.Memo.Narration
import Encapsulation.Proofs.Memo.WriteOnce
import Encapsulation.Proofs.Builder.Calls
import Encapsulation.Proofs.Workbench.Calls
