import ExtUnix.Data.Overlay
import ExtUnix.Data.Radix
import ExtUnix.Data.Record
import ExtUnix.Runtime.Word
import ExtUnix.Transfer.Roundtrip
import ExtUnix.Endian.Roundtrip
import ExtUnix.Endian.Substr
import ExtUnix.Discover.Coherence
import ExtUnix.Ppx.Marked
import ExtUnix.Ppx.Misspelt
import ExtUnix.Linkage.Agreement
import ExtUnix.Linkage.Availability
import ExtUnix.Files.Fallocate
import ExtUnix.Files.Realpath
import ExtUnix.Marshal.Flags
import ExtUnix.Marshal.Strings
import ExtUnix.Process.ByteCount
import ExtUnix.Process.Logmask
import ExtUnix.Process.MinusOne
import ExtUnix.Process.Poll
import ExtUnix.Process.Time
import ExtUnix.Socket.Partial
import ExtUnix.Transfer.Concurrent
import ExtUnix.Transfer.Pipe
import ExtUnix.Userns.Safety
import ExtUnix.Userns.Termination
import ExtUnix.Event.Eventfd
import ExtUnix.Ppx.Within
import ExtUnix.Linkage.Configurations
import ExtUnix.Event.Signalfd
import ExtUnix.Socket.Sockopt
import ExtUnix.Files.Tempnames
import ExtUnix.Safety.Discipline
import ExtUnix.Data.Atoms
import ExtUnix.Discover.LinkFlags
import ExtUnix.Process.Threads
import ExtUnix.Transfer.Capacity
