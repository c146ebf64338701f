import Coprocessor.Bytes.Runs
import Coprocessor.Kernel.CosineTransform
import Coprocessor.Memory.Board
import Coprocessor.Simulation.Bench
import Coprocessor.Simulation.Link
import Coprocessor.Simulation.ScriptedHandlers
import Coprocessor.Simulation.Wire
import Coprocessor.Proofs.Act.Run
import Coprocessor.Proofs.Act.Triple
import Coprocessor.Proofs.Act.Mirrors
import Coprocessor.Proofs.Storage.Staged
import Coprocessor.Proofs.Storage.WriteSplice
import Coprocessor.Proofs.Storage.Confinement
import Coprocessor.Proofs.Storage.Congruence
import Coprocessor.Proofs.Storage.StalePages
import Coprocessor.Proofs.Storage.Interruption
import Coprocessor.Proofs.Storage.Calls
import Coprocessor.Proofs.Storage.Programming
import Coprocessor.Proofs.Storage.Paging
import Coprocessor.Proofs.Storage.Blockage
import Coprocessor.Proofs.Firmware.WindowConfinement
import Coprocessor.Proofs.Command.Responses
import Coprocessor.Proofs.Command.FlatStorage
import Coprocessor.Proofs.Command.SharedMemory
import Coprocessor.Proofs.Command.Transforms
import Coprocessor.Proofs.Mailbox.Transfer
import Coprocessor.Proofs.Mailbox.Reception
import Coprocessor.Proofs.Simulation.Exchanges
import Coprocessor.Proofs.Firmware.Interleaving
import Coprocessor.Proofs.Mailbox.Codec
import Coprocessor.Proofs.Mailbox.ReceiveTrace
import Coprocessor.Proofs.Mailbox.SendTrace
import Coprocessor.Proofs.Mailbox.FlowControl
import Coprocessor.Proofs.Mailbox.Landed
import Coprocessor.Proofs.Firmware.Containment
import Coprocessor.Proofs.Act.Relates
import Coprocessor.Proofs.Host.Acceptance
import Coprocessor.Proofs.Mailbox.Alike
import Coprocessor.Proofs.Async
import Coprocessor.Proofs.Mailbox.Acknowledged
import Coprocessor.Proofs.Interrupt.Iteration
import Coprocessor.Proofs.Interrupt.Urgency
import Coprocessor.Proofs.Interrupt.Slots
import Coprocessor.Proofs.Firmware.Service
import Coprocessor.Proofs.Firmware.AbortChannel
import Coprocessor.Proofs.Firmware.Noninterference
import Coprocessor.Proofs.Firmware.Replies
import Coprocessor.Proofs.Mailbox.Program
import Coprocessor.Proofs.Host.Session
import Coprocessor.Proofs.Host.Remote
import Coprocessor.Proofs.Simulation.Lossless
import Coprocessor.Proofs.Host.Abort
import Coprocessor.Proofs.Host.Pacing
import Coprocessor.Proofs.Host.Requests
import Coprocessor.Proofs.Host.Polling
import Coprocessor.Proofs.Host.RequestPolls
import Coprocessor.Proofs.Host.AbortPolls
import Coprocessor.Proofs.Storage.Slices
import Coprocessor.Proofs.Command.WriteRange
import Coprocessor.Proofs.Kernel.Darkening
