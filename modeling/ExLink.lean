import ExLink.Automata.Mealy
import ExLink.Automata.Transition
import ExLink.Automata.Interaction
import ExLink.Data.Bytes
import ExLink.Data.Bits
import ExLink.Data.Ring
import ExLink.Frame.Codec
import ExLink.Frame.Parser
import ExLink.Frame.Recogniser
import ExLink.Frame.Refinement
import ExLink.Frame.Stream
import ExLink.Usb.Bulk
import ExLink.Usb.Endpoint
import ExLink.Usb.DapResponses
import ExLink.Control.RxRing
import ExLink.Control.Dispatch
import ExLink.Control.Thread
import ExLink.Swd.Spi
import ExLink.Swd.Transport
import ExLink.Swd.Status
import ExLink.Swd.Line
import ExLink.Swd.Reference
import ExLink.Swd.Equivalence
import ExLink.Swd.Access
import ExLink.Swd.Clock
import ExLink.Dap.Engine
import ExLink.Dap.Window
import ExLink.Dap.Command
import ExLink.Dap.Transfer
import ExLink.Dap.Fits
import ExLink.Dap.Bounds
import ExLink.Dap.TransferBounds
import ExLink.Dap.BlockBounds
import ExLink.Dap.SequenceBounds
import ExLink.Dap.HandlerBounds
import ExLink.Dap.PacketBounds
import ExLink.Frame.Recovery
import ExLink.Data.Fifo
import ExLink.Control.RxFifo
import ExLink.Dap.PinWait
import ExLink.Dap.Delivery
import ExLink.Dap.Responses
import ExLink.Swd.Phases
import ExLink.Dap.Configuration
import ExLink.Control.Session
import ExLink.Dap.Reset
import ExLink.Automata.Observation
import ExLink.Dap.Determined
import ExLink.Dap.TurnNeeds
import ExLink.Dap.TransferNeeds
import ExLink.Dap.BlockNeeds
import ExLink.Dap.SequenceNeeds
import ExLink.Dap.PinNeeds
import ExLink.Dap.HandlerNeeds
import ExLink.Dap.PacketNeeds
import ExLink.Dap.Remnants
import ExLink.Usb.Ports
import ExLink.Usb.Hooks
import ExLink.Usb.OutTransfers
import ExLink.Dap.StartUp
import ExLink.Dap.WakeUp
import ExLink.Control.StopAndWait
import ExLink.Swd.Backoff
import ExLink.Automata.Emission
import ExLink.Dap.ResetPad
import ExLink.Dap.ResetLine
import ExLink.Automata.Checkpoint
import ExLink.Dap.Loops
import ExLink.Dap.Pace
import ExLink.Dap.LoopPace
import ExLink.Dap.Probe
import ExLink.Dap.TransferAbort
import ExLink.Swd.Adiv5
import ExLink.Swd.SelectCache
import ExLink.Swd.Sequence
import ExLink.Dap.Sequences
import ExLink.Usb.CdcPorts
import ExLink.Swd.ClockPhase
import ExLink.Coding.Gf2
import ExLink.Coding.Messages
import ExLink.Frame.Crc
import ExLink.Frame.BitErrors
import ExLink.Frame.BurstErrors
import ExLink.Automata.Execution
import ExLink.Automata.Registers
import ExLink.Swd.AdiTarget
import ExLink.Dap.Requests
import ExLink.Dap.TargetRun
import ExLink.Dap.PostedReads
import ExLink.Dap.TransferReport
import ExLink.Dap.BlockReport
import ExLink.Automata.Correspondence
import ExLink.Dap.Batch
import ExLink.Swd.MemAp
import ExLink.Dap.Service
import ExLink.Usb.ControlBus
import ExLink.Usb.ControlTransfers
import ExLink.Data.Records
import ExLink.Usb.DescriptorWalks
import ExLink.Usb.Enumeration
import ExLink.Usb.DescriptorReads
