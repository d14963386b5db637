import WlanCard.Bootloader
import WlanCard.Bootloader.Journal
import WlanCard.Card.Attached
import WlanCard.Card.Basic
import WlanCard.Card.Command
import WlanCard.Card.Data
import WlanCard.Card.Execute
import WlanCard.Card.Functions
import WlanCard.Card.Journal
import WlanCard.Card.Notice
import WlanCard.Card.Phase
import WlanCard.Card.Response
import WlanCard.Card.Status
import WlanCard.Card.Transfer
import WlanCard.Chip.Basic
import WlanCard.Chip.Config
import WlanCard.Chip.Description
import WlanCard.Chip.Journal
import WlanCard.Chip.Target
import WlanCard.Cis
import WlanCard.Clock
import WlanCard.Clock.Journal
import WlanCard.CommonArea.Basic
import WlanCard.CommonArea.Journal
import WlanCard.CommonArea.Register
import WlanCard.Firmware
import WlanCard.Firmware.Event
import WlanCard.Firmware.Journal
import WlanCard.HostInterface.Access
import WlanCard.HostInterface.Basic
import WlanCard.HostInterface.Journal
import WlanCard.HostInterface.Register
import WlanCard.HostInterface.Window
import WlanCard.Journal
import WlanCard.Text.Numeral
import WlanCard.Text.Record
import WlanCard.Word
import WlanCard.Proofs.Card.Frame
import WlanCard.Proofs.Card.Command
import WlanCard.Proofs.Card.Transfer
import WlanCard.Proofs.Card.DataPath
import WlanCard.Proofs.Card.WriteTransfer
import WlanCard.Proofs.Card.ReadTransfer
import WlanCard.Proofs.Card.Argument
import WlanCard.Proofs.Chip.Run
import WlanCard.Proofs.Chip.Settled
import WlanCard.Proofs.Chip.Direct
import WlanCard.Proofs.Chip.Transfer
import WlanCard.Proofs.Chip.AccessPaths
import WlanCard.Proofs.Card.Forgetting
import WlanCard.Proofs.Card.IdleCommand
import WlanCard.Proofs.Card.Observation
import WlanCard.Proofs.Clock.Due
import WlanCard.Proofs.Chip.Advance
import WlanCard.Proofs.Card.InterruptLine
import WlanCard.Proofs.Card.InterruptRun
import WlanCard.Proofs.Chip.InterruptLine
import WlanCard.Proofs.Card.Reset
import WlanCard.Proofs.Clock.Live
import WlanCard.Proofs.Card.Replay
import WlanCard.Proofs.Chip.Firing
import WlanCard.Proofs.HostInterface.Register
import WlanCard.Proofs.HostInterface.Access
import WlanCard.Proofs.Bit
import WlanCard.Proofs.HostInterface.Credits
import WlanCard.Proofs.Chip.History
import WlanCard.Proofs.Chip.Deferral
import WlanCard.Proofs.Chip.Announcement
import WlanCard.Proofs.Chip.Credits
import WlanCard.Proofs.Chip.CreditRise
import WlanCard.Proofs.HostInterface.Aggregation
import WlanCard.Proofs.Chip.Aggregation
import WlanCard.Proofs.Card.Refusal
import WlanCard.Proofs.Card.History
import WlanCard.Proofs.Card.Standing
import WlanCard.Proofs.Card.Enumeration
import WlanCard.Proofs.Card.Responses
import WlanCard.Proofs.Card.Matching
import WlanCard.Proofs.Clock.Current
import WlanCard.Proofs.Chip.Alike
import WlanCard.Proofs.Chip.Isolation
import WlanCard.Proofs.Card.Bookkeeping
import WlanCard.Proofs.HostInterface.Messages
import WlanCard.Proofs.Card.Interference
import WlanCard.Proofs.Checked.Fault
import WlanCard.Proofs.Checked.CommonArea
import WlanCard.Proofs.Checked.Card
import WlanCard.Proofs.Checked.Attached
import WlanCard.Proofs.Checked.HostInterface
import WlanCard.Proofs.Checked.ControlMessages
import WlanCard.Proofs.Checked.Target
import WlanCard.Proofs.Checked.Chip
import WlanCard.Proofs.Clock.Epoch
import WlanCard.Proofs.Card.SerialBus
import WlanCard.Proofs.Chip.SerialBus
import WlanCard.Proofs.HostInterface.Windows
import WlanCard.Proofs.Card.Writers
import WlanCard.Proofs.Chip.MailboxMemory
import WlanCard.Proofs.Clock.Order
import WlanCard.Proofs.Chip.Workload
import WlanCard.Proofs.CommonArea.ByteReads
import WlanCard.Proofs.CommonArea.Independence
import WlanCard.Proofs.CommonArea.Run
import WlanCard.Proofs.CommonArea.PowerOn
import WlanCard.Proofs.CommonArea.Storage
import WlanCard.Proofs.Card.Relabelling
import WlanCard.Proofs.Card.Reports
import WlanCard.Proofs.Card.Opening
import WlanCard.Proofs.Card.Abort
import WlanCard.Proofs.Word
import WlanCard.Proofs.Card.RelativeAddress
import WlanCard.Proofs.HostInterface.Footprint
import WlanCard.Proofs.HostInterface.Frames
import WlanCard.Proofs.Bootloader
import WlanCard.Proofs.CommonArea.Tuples
import WlanCard.Proofs.Card.Consumption
