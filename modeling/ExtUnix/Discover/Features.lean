import ExtUnix.Discover.Config

namespace ExtUnix.Discover

/-! The table of features. -/

/-- Marks bindings that take a file descriptor to be an int. -/
def fdInt : Arg := .ND "Handle_val"

def statvfs : List Arg := [
  .I "sys/statvfs.h", .T "struct statvfs", .D "ST_RDONLY", .D "ST_NOSUID",
  .Z "ST_NODEV", .Z "ST_NOEXEC", .Z "ST_SYNCHRONOUS", .Z "ST_MANDLOCK",
  .Z "ST_WRITE", .Z "ST_APPEND", .Z "ST_IMMUTABLE", .Z "ST_NOATIME",
  .Z "ST_NODIRATIME", .Z "ST_RELATIME"]

def features : List (String × Test) := [
  ("EVENTFD", .L [fdInt, .I "sys/eventfd.h", .T "eventfd_t", .S "eventfd",
    .S "eventfd_read", .S "eventfd_write"]),
  ("ATFILE", .L [fdInt, .DEFINE "_ATFILE_SOURCE", .I "fcntl.h",
    .I "sys/types.h", .I "sys/stat.h", .I "unistd.h", .I "stdio.h",
    .D "S_IFREG", .S "fstatat", .S "openat", .S "unlinkat", .S "renameat",
    .S "mkdirat", .S "linkat", .S "symlinkat", .S "readlinkat", .S "fchownat",
    .S "fchmodat"]),
  ("RENAMEAT2", .L [fdInt, .I "fcntl.h", .I "stdio.h", .S "renameat2"]),
  ("RENAME_WHITEOUT", .L [.DEFINE "_GNU_SOURCE", .D "RENAME_WHITEOUT"]),
  ("DIRFD", .L [fdInt, .I "sys/types.h", .I "dirent.h", .S "dirfd"]),
  ("STATVFS", .ANY [
    statvfs ++ [.S "statvfs"],
    [.DEFINE "CAML_INTERNALS", .I "windows.h", .S "GetDiskFreeSpace",
      .S "GetDiskFreeSpaceEx", .S "GetVolumeInformation"]]),
  ("FSTATVFS", .L ([fdInt] ++ statvfs ++ [.S "fstatvfs"])),
  ("SIOCGIFCONF", .L [fdInt, .I "sys/ioctl.h", .I "net/if.h", .D "SIOCGIFCONF",
    .S "ioctl", .T "struct ifconf", .T "struct ifreq"]),
  ("IFADDRS", .L [.I "sys/types.h", .I "ifaddrs.h", .S "getifaddrs",
    .S "freeifaddrs", .T "struct ifaddrs"]),
  ("INET_NTOA", .ANY [
    [.I "sys/socket.h", .I "netinet/in.h", .I "arpa/inet.h", .S "inet_ntoa"],
    [.I "winsock2.h", .I "ws2tcpip.h", .S "inet_ntoa"]]),
  ("INET_NTOP", .ANY [
    [.I "arpa/inet.h", .S "inet_ntop"],
    [.I "winsock2.h", .I "ws2tcpip.h", .S "inet_ntop"]]),
  ("UNAME", .L [.I "sys/utsname.h", .T "struct utsname", .S "uname"]),
  ("FADVISE", .L [fdInt, .I "fcntl.h", .S "posix_fadvise", .S "posix_fadvise64",
    .D "POSIX_FADV_NORMAL"]),
  ("FALLOCATE", .ANY [
    [.I "fcntl.h", .S "posix_fallocate", .S "posix_fallocate64"],
    [.D "_WIN32", .S "GetFileSizeEx"]]),
  ("TTY_IOCTL", .L [fdInt, .I "termios.h", .I "sys/ioctl.h",
    .T "struct winsize", .S "ioctl", .S "tcsetattr", .S "tcgetattr",
    .D "CRTSCTS", .D "TCSANOW", .D "TIOCMGET", .D "TIOCMSET", .D "TIOCMBIC",
    .D "TIOCMBIS", .D "TIOCGWINSZ"]),
  ("TTYNAME", .L [fdInt, .I "unistd.h", .S "ttyname"]),
  ("CTERMID", .L [.I "stdio.h", .S "ctermid", .V "L_ctermid"]),
  ("GETTID", .ANY [
    [.D "_WIN32", .S "GetCurrentThreadId"],
    [.DEFINE "EXTUNIX_USE_THREADID", .I "pthread.h", .I "stdint.h",
      .S "pthread_threadid_np"],
    [.DEFINE "EXTUNIX_USE_THREAD_SELFID", .I "sys/syscall.h", .S "syscall",
      .V "SYS_thread_selfid"],
    [.I "sys/syscall.h", .S "syscall", .V "SYS_gettid"]]),
  ("PGID", .L [.I "unistd.h", .S "getpgid", .S "setpgid", .S "getsid"]),
  ("SETREUID", .L [.I "sys/types.h", .I "unistd.h", .S "setreuid",
    .S "setregid"]),
  ("FSYNC", .ANY [
    [.I "unistd.h", .S "fsync"],
    [.D "_WIN32", .S "FlushFileBuffers"]]),
  ("FDATASYNC", .ANY [
    [.I "unistd.h", .S "fdatasync"],
    [.D "_WIN32", .S "FlushFileBuffers"]]),
  ("SYNC", .L [.I "unistd.h", .S "sync"]),
  ("SYNCFS", .ANY [
    [fdInt, .I "unistd.h", .S "syncfs"],
    [fdInt, .DEFINE "EXTUNIX_USE_SYS_SYNCFS", .I "unistd.h", .I "sys/syscall.h",
      .S "syscall", .V "SYS_syncfs"]]),
  ("REALPATH", .ANY [
    [.I "limits.h", .I "stdlib.h", .S "realpath"],
    [.D "_WIN32", .DEFINE "CAML_INTERNALS"]]),
  ("SIGNALFD", .L [fdInt, .I "sys/signalfd.h", .S "signalfd", .I "signal.h",
    .S "sigemptyset", .S "sigaddset"]),
  ("PTRACE", .L [.I "sys/ptrace.h", .S "ptrace", .V "PTRACE_TRACEME",
    .V "PTRACE_ATTACH"]),
  ("RESOURCE", .L [.I "sys/time.h", .I "sys/resource.h", .S "getpriority",
    .S "setpriority", .S "getrlimit", .S "setrlimit", .V "PRIO_PROCESS",
    .V "RLIMIT_NOFILE", .V "RLIM_INFINITY"]),
  ("MLOCKALL", .L [.I "sys/mman.h", .S "mlockall", .S "munlockall",
    .V "MCL_CURRENT", .V "MCL_FUTURE"]),
  ("STRPTIME", .L [.I "time.h", .S "strptime"]),
  ("STRTIME", .ANY [
    [.I "time.h", .S "strftime", .S "asctime_r", .S "tzset", .S "tzname"],
    [.DEFINE "CAML_INTERNALS", .I "caml/osdeps.h", .I "time.h",
      .Ldlib "cc" "-lucrtbase", .S "wcsftime", .S "_wasctime_s", .S "_tzset",
      .S "_get_tzname"]]),
  ("TIMEZONE", .ANY [
    [.I "time.h", .S "tzset", .S "timezone", .S "daylight"],
    [.I "time.h", .Ldlib "cc" "-lucrtbase", .S "_tzset", .S "_get_timezone",
      .S "_get_daylight"]]),
  ("TIMEGM", .ANY [
    [.I "time.h", .S "timegm"],
    [.I "time.h", .Ldlib "cc" "-lucrtbase", .S "_mkgmtime"]]),
  ("PTS", .L [fdInt, .I "fcntl.h", .I "stdlib.h", .S "posix_openpt",
    .S "grantpt", .S "unlockpt", .S "ptsname"]),
  ("FCNTL", .L [fdInt, .I "unistd.h", .I "fcntl.h", .S "fcntl", .V "F_GETFL"]),
  ("TCPGRP", .L [fdInt, .I "unistd.h", .S "tcgetpgrp", .S "tcsetpgrp"]),
  ("EXECINFO", .ANY [
    [.I "execinfo.h", .S "backtrace", .S "backtrace_symbols"],
    [.I "execinfo.h", .S "backtrace", .S "backtrace_symbols",
      .Ldlib "cc" "-lexecinfo"]]),
  ("SETENV", .L [.I "stdlib.h", .S "setenv", .S "unsetenv"]),
  ("CLEARENV", .L [.I "stdlib.h", .S "clearenv"]),
  ("MKDTEMP", .L [.I "stdlib.h", .I "unistd.h", .S "mkdtemp"]),
  ("MALLOC_INFO", .L [.I "malloc.h", .S "malloc_info"]),
  ("MALLOC_STATS", .L [.I "malloc.h", .S "malloc_stats"]),
  ("MEMALIGN", .L [.I "stdlib.h", .S "posix_memalign"]),
  ("ENDIAN", .ANY [
    [.I "endian.h", .D "htobe16", .D "htole16", .D "be16toh", .D "le16toh",
      .D "htobe32", .D "htole32", .D "be32toh", .D "le32toh", .D "htobe64",
      .D "htole64", .D "be64toh", .D "le64toh"],
    [.I "sys/endian.h", .D "htobe16", .D "htole16", .D "htobe32", .D "htole32",
      .D "htobe64", .D "htole64"],
    [.DEFINE "EXTUNIX_USE_OSBYTEORDER_H", .I "libkern/OSByteOrder.h",
      .D "OSSwapHostToBigInt32"],
    [.DEFINE "EXTUNIX_USE_WINSOCK2_H", .I "winsock2.h", .S "htons", .S "ntohs",
      .S "htonl", .S "ntohl"]]),
  ("READ_CREDENTIALS", .L [fdInt, .I "sys/types.h", .I "sys/socket.h",
    .D "SO_PEERCRED"]),
  ("FEXECVE", .L [fdInt, .I "unistd.h", .S "fexecve"]),
  ("SENDMSG", .ANY [
    [fdInt, .I "sys/types.h", .I "sys/socket.h", .S "sendmsg", .S "recvmsg",
      .D "CMSG_SPACE"],
    [fdInt, .I "sys/types.h", .I "sys/socket.h", .S "sendmsg", .S "recvmsg",
      .F "msghdr" "msg_accrights"]]),
  ("PREAD", .L [fdInt, .I "unistd.h", .S "pread"]),
  ("PWRITE", .L [fdInt, .I "unistd.h", .S "pwrite"]),
  ("READ", .L [fdInt, .I "unistd.h", .S "read"]),
  ("WRITE", .L [fdInt, .I "unistd.h", .S "write"]),
  ("MKSTEMPS", .L [fdInt, .I "stdlib.h", .I "unistd.h", .S "mkstemps"]),
  ("MKOSTEMPS", .L [fdInt, .I "stdlib.h", .I "unistd.h", .S "mkostemps"]),
  ("SETRESUID", .L [.I "sys/types.h", .I "unistd.h", .S "setresuid",
    .S "setresgid"]),
  ("SYSCONF", .L [.I "unistd.h", .S "sysconf", .D "_SC_VERSION",
    .D "_SC_2_VERSION"]),
  ("SPLICE", .L [fdInt, .I "fcntl.h", .S "splice"]),
  ("TEE", .L [fdInt, .I "fcntl.h", .S "tee"]),
  ("VMSPLICE", .L [fdInt, .I "fcntl.h", .S "vmsplice"]),
  ("SOCKOPT", .ANY [
    [fdInt, .I "sys/socket.h", .I "netinet/in.h", .I "netinet/tcp.h",
      .S "setsockopt", .S "getsockopt"],
    [.I "winsock2.h", .I "ws2tcpip.h", .S "setsockopt", .S "getsockopt"]]),
  ("TCP_KEEPIDLE", .ANY [
    [.I "netinet/in.h", .I "netinet/tcp.h", .V "TCP_KEEPIDLE"],
    [.I "winsock2.h", .I "ws2tcpip.h",
      .IF "!defined(TCP_KEEPIDLE) && defined(__MINGW32__)"
        "TCP_KEEPIDLE" "0x03"],
    [.D "__APPLE__", .I "netinet/in.h", .I "netinet/tcp.h",
      .V "TCP_KEEPALIVE"]]),
  ("TCP_KEEPCNT", .ANY [
    [.I "netinet/in.h", .I "netinet/tcp.h", .V "TCP_KEEPCNT"],
    [.I "winsock2.h", .I "ws2tcpip.h",
      .IF "!defined(TCP_KEEPCNT) && defined(__MINGW32__)"
        "TCP_KEEPCNT" "0x10"]]),
  ("TCP_KEEPINTVL", .ANY [
    [.I "netinet/in.h", .I "netinet/tcp.h", .V "TCP_KEEPINTVL"],
    [.I "winsock2.h", .I "ws2tcpip.h",
      .IF "!defined(TCP_KEEPINTVL) && defined(__MINGW32__)"
        "TCP_KEEPINTVL" "0x11"]]),
  ("SO_REUSEPORT", .L [.I "sys/socket.h", .V "SO_REUSEPORT"]),
  ("POLL", .L [fdInt, .I "poll.h", .S "poll", .D "POLLIN", .D "POLLOUT",
    .Z "POLLRDHUP"]),
  ("SYSINFO", .L [.I "sys/sysinfo.h", .S "sysinfo", .F "sysinfo" "mem_unit"]),
  ("MCHECK", .L [.I "mcheck.h", .S "mtrace", .S "muntrace"]),
  ("MOUNT", .L [.I "sys/mount.h", .S "mount", .S "umount2", .D "MS_REC"]),
  ("UNSHARE", .L [.I "sched.h", .S "unshare", .D "CLONE_NEWPID",
    .D "CLONE_NEWUSER"]),
  ("CHROOT", .L [.I "unistd.h", .S "chroot"]),
  ("SYSLOG", .L [.I "syslog.h", .S "syslog", .S "openlog", .S "closelog",
    .S "setlogmask", .D "LOG_PID", .D "LOG_CONS", .D "LOG_NDELAY",
    .D "LOG_ODELAY", .D "LOG_NOWAIT", .D "LOG_EMERG", .D "LOG_ALERT",
    .D "LOG_CRIT", .D "LOG_ERR", .D "LOG_WARNING", .D "LOG_NOTICE",
    .D "LOG_INFO", .D "LOG_DEBUG"]),
  ("WAIT4", .L [.I "sys/resource.h", .I "sys/time.h", .I "sys/types.h",
    .I "sys/wait.h", .DEFINE "CAML_INTERNALS", .S "wait4"])]

end ExtUnix.Discover
