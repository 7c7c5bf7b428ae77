import Usbmuxd.Soundness.AckTimer
import Usbmuxd.Soundness.Answers
import Usbmuxd.Soundness.Blocking
import Usbmuxd.Soundness.Commands
import Usbmuxd.Soundness.Configurations
import Usbmuxd.Soundness.Devices
import Usbmuxd.Soundness.Directories
import Usbmuxd.Soundness.Flush
import Usbmuxd.Soundness.Growth
import Usbmuxd.Soundness.Isolation
import Usbmuxd.Soundness.ListenerList
import Usbmuxd.Soundness.Listeners
import Usbmuxd.Soundness.Locks
import Usbmuxd.Soundness.MainLoop
import Usbmuxd.Soundness.Masks
import Usbmuxd.Soundness.Multiplexing
import Usbmuxd.Soundness.Output
import Usbmuxd.Soundness.Oversized
import Usbmuxd.Soundness.PacketSize
import Usbmuxd.Soundness.PairRecords
import Usbmuxd.Soundness.Pairing
import Usbmuxd.Soundness.Parser
import Usbmuxd.Soundness.Polling
import Usbmuxd.Soundness.PortSupply
import Usbmuxd.Soundness.Ports
import Usbmuxd.Soundness.Preflight
import Usbmuxd.Soundness.Reaping
import Usbmuxd.Soundness.Reassembly
import Usbmuxd.Soundness.Released
import Usbmuxd.Soundness.Replies
import Usbmuxd.Soundness.Resets
import Usbmuxd.Soundness.Residue
import Usbmuxd.Soundness.Retries
import Usbmuxd.Soundness.Sends
import Usbmuxd.Soundness.SerialNumber
import Usbmuxd.Soundness.Shutdown
import Usbmuxd.Soundness.StartUp
import Usbmuxd.Soundness.Streams
import Usbmuxd.Soundness.SystemBuid
import Usbmuxd.Soundness.Transfers
import Usbmuxd.Soundness.Window
