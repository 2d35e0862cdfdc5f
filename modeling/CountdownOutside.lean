import CountdownOutside.Buffer
import CountdownOutside.Scan
import CountdownOutside.Loop
import CountdownOutside.Keep
import CountdownOutside.Run
import CountdownOutside.Countdown
import CountdownOutside.Bytes
import CountdownOutside.Config
import CountdownOutside.Gat2004
import CountdownOutside.Gat2014
import CountdownOutside.Transmission
import CountdownOutside.Receive
import CountdownOutside.Uart
import CountdownOutside.GeLinWei
import CountdownOutside.Searches
import CountdownOutside.Decipher
import CountdownOutside.Obfuscation
import CountdownOutside.Record
import CountdownOutside.Number
import CountdownOutside.Reception
import CountdownOutside.Truncation
import CountdownOutside.Refresh
import CountdownOutside.OtherUnits
import CountdownOutside.Study
import CountdownOutside.Panel
import CountdownOutside.System
import CountdownOutside.Subpackage
import CountdownOutside.Merging
import CountdownOutside.Display
import CountdownOutside.Iteration
import CountdownOutside.Agreement
import CountdownOutside.SwitchOff
import CountdownOutside.Ownership
import CountdownOutside.Timing
import CountdownOutside.Pace
import CountdownOutside.Learning
import CountdownOutside.Phases
import CountdownOutside.Arming
import CountdownOutside.Pedestrian
import CountdownOutside.Concatenation
import CountdownOutside.Font
import CountdownOutside.ScanOut
import CountdownOutside.Pixels
import CountdownOutside.Composition
import CountdownOutside.Bleeding
import CountdownOutside.Simulation
import CountdownOutside.Ring
import CountdownOutside.SerialRing
import CountdownOutside.Wire
import CountdownOutside.Preemption
import CountdownOutside.Interleaving
import CountdownOutside.Provenance
import CountdownOutside.Firmware
import CountdownOutside.Dial
import CountdownOutside.Blocks
import CountdownOutside.Announcement
import CountdownOutside.Broadcast
import CountdownOutside.Agenda
import CountdownOutside.Timers
import CountdownOutside.Framing
import CountdownOutside.Scheduler
import CountdownOutside.Kernel
import CountdownOutside.Threads
import CountdownOutside.Wakeups
import CountdownOutside.Timeouts
import CountdownOutside.RcvEvent
