import ExtUnix.Discover.Config

namespace ExtUnix.Linkage

open ExtUnix.Cpp ExtUnix.Discover

/-! The C files.  A line stands for the definition of the primitive it names;
other code, and conditionals around nothing but other code, are left out. -/

/-- A file is some wanted features, `#include "config.h"`, and the rest. -/
structure Source where
  wants : List String
  rest : List Directive

def wantLines (names : List String) : List Directive :=
  names.map fun name => .define (wantSymbol name)

def Source.lines (results : List Result) (source : Source) : List Directive :=
  wantLines source.wants ++ showC results ++ source.rest

namespace Stubs

def have_ (name : String) : Condition := .defined (haveSymbol name)

def ifHave (name : String) : Directive := .if_ (have_ name)

def ifMissing (symbol : String) : Directive := .ifndef symbol

def win32 : Condition := .defined "_WIN32"

def atfile : Source where
  wants := ["ATFILE"]
  rest := [
    ifHave "ATFILE",
    .if_ (.raw "OCAML_VERSION_MAJOR >= 5"),
    .else_, .define "caml_unix_cst_to_constr cst_to_constr", .endif,
    ifMissing "AT_EACCESS", .define "AT_EACCESS 0", .endif,
    ifMissing "AT_SYMLINK_NOFOLLOW", .define "AT_SYMLINK_NOFOLLOW 0", .endif,
    ifMissing "AT_SYMLINK_FOLLOW", .define "AT_SYMLINK_FOLLOW 0", .endif,
    ifMissing "AT_NO_AUTOMOUNT", .define "AT_NO_AUTOMOUNT 0", .endif,
    .line "caml_extunix_fstatat", .line "caml_extunix_unlinkat",
    .line "caml_extunix_renameat", .line "caml_extunix_mkdirat",
    .line "caml_extunix_linkat", .line "caml_extunix_fchownat",
    .line "caml_extunix_fchmodat", .line "caml_extunix_symlinkat",
    .line "caml_extunix_openat", .line "caml_extunix_readlinkat", .endif]

def bigarray : Source where
  wants := []
  rest := [
    .line "caml_extunixba_get_substr", .line "caml_extunixba_set_substr"]

def common : Source where
  wants := []
  rest := [
    .includeSystem "fcntl.h",
    ifMissing "O_NONBLOCK",
    ifMissing "O_NDELAY", .define "O_NDELAY 0", .endif,
    .define "O_NONBLOCK O_NDELAY", .endif,
    ifMissing "O_NOCTTY", .define "O_NOCTTY 0", .endif,
    ifMissing "O_DSYNC", .define "O_DSYNC 0", .endif,
    ifMissing "O_SYNC", .define "O_SYNC 0", .endif,
    ifMissing "O_RSYNC", .define "O_RSYNC 0", .endif,
    ifMissing "O_CLOEXEC", .define "O_CLOEXEC 0", .endif,
    ifMissing "O_KEEPEXEC", .define "O_KEEPEXEC 0", .endif]

def dirfd : Source where
  wants := ["DIRFD"]
  rest := [
    ifHave "DIRFD", .line "caml_extunix_dirfd", .endif]

def endian : Source where
  wants := ["ENDIAN"]
  rest := [
    .includeLocal "endian_helper.h", .includeSystem "stdint.h",
    .define "CONV(name, type, conv, type_val, val_type)",
    .define "GET(name, type, conv, Val_type)",
    .define "SET(name, type, conv, Type_val)",
    ifHave "ENDIAN", .line "caml_extunix_htobe16",
    .line "caml_extunix_htobe16_signed", .line "caml_extunix_be16toh",
    .line "caml_extunix_be16toh_signed", .line "caml_extunix_htobe31",
    .line "caml_extunix_htobe31_signed", .line "caml_extunix_be31toh",
    .line "caml_extunix_be31toh_signed", .line "caml_extunix_htobe32",
    .line "caml_extunix_be32toh", .line "caml_extunix_htobe64",
    .line "caml_extunix_be64toh", .line "caml_extunix_get_bu16",
    .line "caml_extunix_get_bs16", .line "caml_extunix_get_bu31",
    .line "caml_extunix_get_bs31", .line "caml_extunix_get_bs32",
    .line "caml_extunix_get_bu63", .line "caml_extunix_get_bs63",
    .line "caml_extunix_get_bs64", .line "caml_extunix_set_b16",
    .line "caml_extunix_set_b31", .line "caml_extunix_set_b32",
    .line "caml_extunix_set_b63", .line "caml_extunix_set_b64",
    .line "caml_extunix_htole16", .line "caml_extunix_htole16_signed",
    .line "caml_extunix_le16toh", .line "caml_extunix_le16toh_signed",
    .line "caml_extunix_htole31", .line "caml_extunix_htole31_signed",
    .line "caml_extunix_le31toh", .line "caml_extunix_le31toh_signed",
    .line "caml_extunix_htole32", .line "caml_extunix_le32toh",
    .line "caml_extunix_htole64", .line "caml_extunix_le64toh",
    .line "caml_extunix_get_lu16", .line "caml_extunix_get_ls16",
    .line "caml_extunix_get_lu31", .line "caml_extunix_get_ls31",
    .line "caml_extunix_get_ls32", .line "caml_extunix_get_lu63",
    .line "caml_extunix_get_ls63", .line "caml_extunix_get_ls64",
    .line "caml_extunix_set_l16", .line "caml_extunix_set_l31",
    .line "caml_extunix_set_l32", .line "caml_extunix_set_l63",
    .line "caml_extunix_set_l64", .endif, .define "id(x) x",
    .line "caml_extunix_get_u8", .line "caml_extunix_get_s8",
    .line "caml_extunix_get_hu16", .line "caml_extunix_get_hs16",
    .line "caml_extunix_get_hu31", .line "caml_extunix_get_hs31",
    .line "caml_extunix_get_hs32", .line "caml_extunix_get_hu63",
    .line "caml_extunix_get_hs63", .line "caml_extunix_get_hs64",
    .line "caml_extunix_set_8", .line "caml_extunix_set_h16",
    .line "caml_extunix_set_h31", .line "caml_extunix_set_h32",
    .line "caml_extunix_set_h63", .line "caml_extunix_set_h64"]

def endianba : Source where
  wants := ["ENDIAN"]
  rest := [
    .includeLocal "endian_helper.h", .includeSystem "stdint.h",
    .define "GET(name, type, conv, Val_type)",
    .define "SET(name, type, conv, Type_val)",
    ifHave "ENDIAN", .line "caml_extunixba_get_bu16",
    .line "caml_extunixba_get_bs16", .line "caml_extunixba_get_bu31",
    .line "caml_extunixba_get_bs31", .line "caml_extunixba_get_bs32",
    .line "caml_extunixba_get_bu63", .line "caml_extunixba_get_bs63",
    .line "caml_extunixba_get_bs64", .line "caml_extunixba_set_b16",
    .line "caml_extunixba_set_b31", .line "caml_extunixba_set_b32",
    .line "caml_extunixba_set_b63", .line "caml_extunixba_set_b64",
    .line "caml_extunixba_get_lu16", .line "caml_extunixba_get_ls16",
    .line "caml_extunixba_get_lu31", .line "caml_extunixba_get_ls31",
    .line "caml_extunixba_get_ls32", .line "caml_extunixba_get_lu63",
    .line "caml_extunixba_get_ls63", .line "caml_extunixba_get_ls64",
    .line "caml_extunixba_set_l16", .line "caml_extunixba_set_l31",
    .line "caml_extunixba_set_l32", .line "caml_extunixba_set_l63",
    .line "caml_extunixba_set_l64", .endif, .define "id(x) x",
    .line "caml_extunixba_get_u8", .line "caml_extunixba_get_s8",
    .line "caml_extunixba_get_hu16", .line "caml_extunixba_get_hs16",
    .line "caml_extunixba_get_hu31", .line "caml_extunixba_get_hs31",
    .line "caml_extunixba_get_hs32", .line "caml_extunixba_get_hu63",
    .line "caml_extunixba_get_hs63", .line "caml_extunixba_get_hs64",
    .line "caml_extunixba_set_8", .line "caml_extunixba_set_h16",
    .line "caml_extunixba_set_h31", .line "caml_extunixba_set_h32",
    .line "caml_extunixba_set_h63", .line "caml_extunixba_set_h64"]

def execinfo : Source where
  wants := ["EXECINFO"]
  rest := [
    ifHave "EXECINFO", .line "caml_extunix_backtrace", .endif]

def fadvise : Source where
  wants := ["FADVISE"]
  rest := [
    ifHave "FADVISE", .line "caml_extunix_fadvise64",
    .line "caml_extunix_fadvise", .endif]

def fallocate : Source where
  wants := ["FALLOCATE"]
  rest := [
    ifHave "FALLOCATE",
    .if_ win32, .line "caml_extunix_fallocate64",
    .line "caml_extunix_fallocate",
    .else_, .line "caml_extunix_fallocate64", .line "caml_extunix_fallocate",
    .endif, .endif]

def fexecve : Source where
  wants := ["FEXECVE"]
  rest := [
    ifHave "FEXECVE", .line "caml_extunix_fexecve", .endif]

def fsync : Source where
  wants := ["FSYNC", "FDATASYNC", "SYNC", "SYNCFS"]
  rest := [
    .if_ win32,
    ifHave "FSYNC", .line "caml_extunix_fsync",
    ifHave "FDATASYNC", .line "caml_extunix_fdatasync", .endif, .endif,
    .else_,
    ifHave "FSYNC", .line "caml_extunix_fsync", .endif,
    ifHave "FDATASYNC", .line "caml_extunix_fdatasync", .endif,
    ifHave "SYNC", .line "caml_extunix_sync", .endif,
    ifHave "SYNCFS", .line "caml_extunix_syncfs", .endif, .endif]

def ioctlSiocgifconf : Source where
  wants := ["SIOCGIFCONF", "INET_NTOA", "INET_NTOP", "IFADDRS"]
  rest := [
    ifHave "SIOCGIFCONF", .line "caml_extunix_ioctl_siocgifconf", .endif,
    ifHave "IFADDRS", .line "caml_extunix_getifaddrs", .endif]

def malloc : Source where
  wants := ["MALLOC_INFO", "MALLOC_STATS", "MCHECK"]
  rest := [
    ifHave "MALLOC_STATS", .line "caml_extunix_malloc_stats", .endif,
    ifHave "MALLOC_INFO", .includeSystem "stdio.h",
    .line "caml_extunix_malloc_info", .endif,
    ifHave "MCHECK", .line "caml_extunix_mtrace", .line "caml_extunix_muntrace",
    .endif]

def memalign : Source where
  wants := ["MEMALIGN"]
  rest := [
    ifHave "MEMALIGN", .line "caml_extunix_memalign", .endif]

def mktemp : Source where
  wants := ["MKDTEMP", "MKSTEMPS", "MKOSTEMPS"]
  rest := [
    ifHave "MKDTEMP", .line "caml_extunix_mkdtemp", .endif,
    ifHave "MKSTEMPS", .line "caml_extunix_internal_mkstemps", .endif,
    ifHave "MKOSTEMPS", .includeSystem "fcntl.h",
    ifMissing "O_CLOEXEC", .define "O_CLOEXEC 0", .endif,
    .line "caml_extunix_internal_mkostemps", .endif]

def mman : Source where
  wants := ["MLOCKALL"]
  rest := [
    ifHave "MLOCKALL", .line "caml_extunix_mlockall",
    .line "caml_extunix_munlockall", .endif]

def mount : Source where
  wants := ["MOUNT"]
  rest := [
    ifHave "MOUNT", .line "caml_extunix_mount", .line "caml_extunix_umount2",
    .endif]

def poll : Source where
  wants := ["POLL"]
  rest := [
    ifHave "POLL", .line "caml_extunix_poll_constants",
    .line "caml_extunix_poll", .endif]

def preadPwriteBa : Source where
  wants := ["PREAD", "PWRITE"]
  rest := [
    ifHave "PREAD", .line "caml_extunixba_pread_common",
    .line "caml_extunixba_all_pread", .line "caml_extunixba_single_pread",
    .line "caml_extunixba_pread", .line "caml_extunixba_intr_pread",
    .line "caml_extunixba_all_pread64", .line "caml_extunixba_single_pread64",
    .line "caml_extunixba_pread64", .line "caml_extunixba_intr_pread64", .endif,
    ifHave "PWRITE", .line "caml_extunixba_pwrite_common",
    .line "caml_extunixba_all_pwrite", .line "caml_extunixba_single_pwrite",
    .line "caml_extunixba_pwrite", .line "caml_extunixba_intr_pwrite",
    .line "caml_extunixba_all_pwrite64", .line "caml_extunixba_single_pwrite64",
    .line "caml_extunixba_pwrite64", .line "caml_extunixba_intr_pwrite64",
    .endif,
    ifHave "READ", .line "caml_extunixba_read_common",
    .line "caml_extunixba_all_read", .line "caml_extunixba_single_read",
    .line "caml_extunixba_read", .line "caml_extunixba_intr_read", .endif,
    ifHave "WRITE", .line "caml_extunixba_write_common",
    .line "caml_extunixba_all_write", .line "caml_extunixba_single_write",
    .line "caml_extunixba_write", .line "caml_extunixba_intr_write", .endif]

def ptrace : Source where
  wants := ["PTRACE"]
  rest := [
    ifHave "PTRACE", .line "caml_extunix_ptrace_traceme",
    .line "caml_extunix_ptrace", .line "caml_extunix_ptrace_peekdata",
    .line "caml_extunix_ptrace_peektext", .endif]

def pts : Source where
  wants := ["PTS"]
  rest := [
    ifHave "PTS", .line "caml_extunix_posix_openpt",
    .line "caml_extunix_grantpt", .line "caml_extunix_unlockpt",
    .line "caml_extunix_ptsname", .endif]

def readCred : Source where
  wants := ["READ_CREDENTIALS"]
  rest := [
    ifHave "READ_CREDENTIALS", .line "caml_extunix_read_credentials", .endif]

def realpath : Source where
  wants := ["REALPATH"]
  rest := [
    ifHave "REALPATH",
    .if_ (.not win32), .line "caml_extunix_realpath",
    .else_, .includeSystem "caml/osdeps.h", .line "caml_extunix_realpath",
    .endif, .endif]

def rename : Source where
  wants := ["RENAMEAT2"]
  rest := [
    ifHave "RENAMEAT2",
    ifMissing "RENAME_WHITEOUT", .define "RENAME_WHITEOUT 0", .endif,
    .define "RENAME_WHITEOUT_INDEX 2", .line "caml_extunix_renameat2", .endif]

def resource : Source where
  wants := ["RESOURCE"]
  rest := [
    ifHave "RESOURCE", .line "caml_extunix_getpriority",
    .line "caml_extunix_setpriority", .define "RESOURCE_LEN 7",
    .line "caml_extunix_getrlimit", .line "#pragma GCC diagnostic push",
    .line "#pragma GCC diagnostic ignored \"-Wmissing-field-initializers\"",
    .line "caml_extunix_setrlimit", .line "#pragma GCC diagnostic pop", .endif]

def sendmsg : Source where
  wants := ["SENDMSG"]
  rest := [
    ifHave "SENDMSG", .line "caml_extunix_sendmsg",
    .line "caml_extunix_recvmsg", .endif]

def signalfd : Source where
  wants := ["SIGNALFD"]
  rest := [
    ifHave "SIGNALFD", .line "caml_extunix_signalfd",
    .define "SSI_SIZE sizeof(struct signalfd_siginfo)",
    .line "caml_extunix_signalfd_read", .line "caml_extunix_ssi_signo_sys",
    .define "SSI_GET_FIELD(field,coerce)", .line "caml_extunix_ssi_signo",
    .line "caml_extunix_ssi_errno", .line "caml_extunix_ssi_code",
    .line "caml_extunix_ssi_pid", .line "caml_extunix_ssi_uid",
    .line "caml_extunix_ssi_fd", .line "caml_extunix_ssi_tid",
    .line "caml_extunix_ssi_band", .line "caml_extunix_ssi_overrun",
    .line "caml_extunix_ssi_trapno", .line "caml_extunix_ssi_status",
    .line "caml_extunix_ssi_int", .line "caml_extunix_ssi_ptr",
    .line "caml_extunix_ssi_utime", .line "caml_extunix_ssi_stime",
    .line "caml_extunix_ssi_addr", .endif]

def sockopt : Source where
  wants := ["SOCKOPT", "TCP_KEEPIDLE", "TCP_KEEPCNT", "TCP_KEEPINTVL"]
  rest := [
    ifHave "SOCKOPT",
    ifMissing "TCP_KEEPCNT", .define "TCP_KEEPCNT (-1)", .endif,
    ifMissing "TCP_KEEPIDLE",
    .if_ (.and (.defined "__APPLE__") (.defined "TCP_KEEPALIVE")),
    .define "TCP_KEEPIDLE (TCP_KEEPALIVE)",
    .else_, .define "TCP_KEEPIDLE (-1)", .endif, .endif,
    ifMissing "TCP_KEEPINTVL", .define "TCP_KEEPINTVL (-1)", .endif,
    ifMissing "SO_REUSEPORT", .define "SO_REUSEPORT (-1)", .endif,
    ifMissing "SO_ATTACH_BPF", .define "SO_ATTACH_BPF (-1)", .endif,
    ifMissing "SO_ATTACH_REUSEPORT_EBPF", .define "SO_ATTACH_REUSEPORT_EBPF (-1)",
    .endif,
    ifMissing "SO_DETACH_FILTER", .define "SO_DETACH_FILTER (-1)", .endif,
    ifMissing "SO_DETACH_BPF", .define "SO_DETACH_BPF (-1)", .endif,
    ifMissing "SO_LOCK_FILTER", .define "SO_LOCK_FILTER (-1)", .endif,
    .line "caml_extunix_have_sockopt", .line "caml_extunix_setsockopt_int",
    .line "caml_extunix_getsockopt_int", .endif]

def splice : Source where
  wants := ["VMSPLICE", "SPLICE", "TEE"]
  rest := [
    .includeLocal "common.h",
    ifHave "SPLICE", .line "caml_extunix_splice",
    .line "caml_extunix_splice_bytecode", .endif,
    ifHave "TEE", .line "caml_extunix_tee", .endif,
    ifHave "VMSPLICE", .line "caml_extunixba_vmsplice", .endif]

def statvfs : Source where
  wants := ["STATVFS"]
  rest := [
    .if_ (.and (have_ "STATVFS") win32), .includeSystem "caml/osdeps.h",
    .line "caml_extunix_statvfs",
    .elif (.and (.or (have_ "STATVFS") (have_ "FSTATVFS")) (.not win32)),
    ifHave "STATVFS", .line "caml_extunix_statvfs", .endif,
    ifHave "STATVFS", .line "caml_extunix_fstatvfs", .endif, .endif]

def stdlib : Source where
  wants := ["SETENV", "CLEARENV", "MKDTEMP"]
  rest := [
    ifHave "SETENV", .line "caml_extunix_setenv", .line "caml_extunix_unsetenv",
    .endif,
    ifHave "CLEARENV", .line "caml_extunix_clearenv", .endif]

def sysconf : Source where
  wants := ["SYSCONF"]
  rest := [
    ifHave "SYSCONF",
    ifMissing "_SC_PHYS_PAGES", .define "_SC_PHYS_PAGES (-1)", .endif,
    ifMissing "_SC_AVPHYS_PAGES", .define "_SC_AVPHYS_PAGES (-1)", .endif,
    ifMissing "_SC_NPROCESSORS_CONF", .define "_SC_NPROCESSORS_CONF (-1)", .endif,
    ifMissing "_SC_NPROCESSORS_ONLN", .define "_SC_NPROCESSORS_ONLN (-1)", .endif,
    .line "caml_extunix_sysconf", .endif]

def sysinfo : Source where
  wants := ["SYSINFO"]
  rest := [
    ifHave "SYSINFO", .line "caml_extunix_sysinfo", .line "caml_extunix_uptime",
    .endif]

def syslog : Source where
  wants := ["SYSLOG"]
  rest := [
    ifHave "SYSLOG", .line "caml_extunix_setlogmask",
    .line "caml_extunix_openlog", .line "caml_extunix_closelog",
    .line "caml_extunix_syslog", .endif]

def time : Source where
  wants := ["STRPTIME", "STRTIME", "TIMEZONE", "TIMEGM"]
  rest := [
    ifHave "STRPTIME", .line "#pragma GCC diagnostic push",
    .line "#pragma GCC diagnostic ignored \"-Wmissing-field-initializers\"",
    .line "caml_extunix_strptime", .line "#pragma GCC diagnostic pop", .endif,
    ifHave "STRTIME", .line "caml_extunix_asctime",
    .line "caml_extunix_strftime", .line "caml_extunix_tzname", .endif,
    ifHave "TIMEZONE", .line "caml_extunix_timezone", .endif,
    ifHave "TIMEGM", .line "caml_extunix_timegm", .endif]

def ttyIoctl : Source where
  wants := ["TTY_IOCTL"]
  rest := [
    ifHave "TTY_IOCTL", .line "caml_extunix_crtscts",
    .define "TTY_IOCTL_INT(cmd)", .line "caml_extunix_ioctl_TIOCGWINSZ",
    .line "caml_extunix_ioctl_TIOCMGET", .line "caml_extunix_ioctl_TIOCMSET",
    .line "caml_extunix_ioctl_TIOCMBIC", .line "caml_extunix_ioctl_TIOCMBIS",
    .endif]

def uname : Source where
  wants := ["UNAME"]
  rest := [
    ifHave "UNAME", .line "caml_extunix_uname", .endif]

def unistd : Source where
  wants := [
    "TTYNAME", "CTERMID", "PGID", "SETREUID", "SETRESUID", "FCNTL", "TCPGRP",
    "PREAD", "PWRITE", "READ", "WRITE", "GETTID", "CHROOT"]
  rest := [
    ifHave "TTYNAME", .line "caml_extunix_ttyname", .endif,
    ifHave "CTERMID", .line "caml_extunix_ctermid", .endif,
    ifHave "GETTID", .line "caml_extunix_gettid", .endif,
    ifHave "PGID", .line "caml_extunix_setpgid", .line "caml_extunix_getpgid",
    .line "caml_extunix_getsid", .endif,
    ifHave "SETREUID", .line "caml_extunix_setreuid",
    .line "caml_extunix_setregid", .endif,
    ifHave "SETRESUID", .line "caml_extunix_setresuid",
    .line "caml_extunix_setresgid", .endif,
    ifHave "FCNTL", .line "caml_extunix_is_open_descr", .endif,
    ifHave "TCPGRP", .line "caml_extunix_tcgetpgrp",
    .line "caml_extunix_tcsetpgrp", .endif,
    ifHave "PREAD", .line "caml_extunix_pread_common",
    .line "caml_extunix_all_pread", .line "caml_extunix_single_pread",
    .line "caml_extunix_pread", .line "caml_extunix_intr_pread",
    .line "caml_extunix_all_pread64", .line "caml_extunix_single_pread64",
    .line "caml_extunix_pread64", .line "caml_extunix_intr_pread64", .endif,
    ifHave "PWRITE", .line "caml_extunix_pwrite_common",
    .line "caml_extunix_all_pwrite", .line "caml_extunix_single_pwrite",
    .line "caml_extunix_pwrite", .line "caml_extunix_intr_pwrite",
    .line "caml_extunix_all_pwrite64", .line "caml_extunix_single_pwrite64",
    .line "caml_extunix_pwrite64", .line "caml_extunix_intr_pwrite64", .endif,
    ifHave "READ", .line "caml_extunix_read_common",
    .line "caml_extunix_all_read", .line "caml_extunix_single_read",
    .line "caml_extunix_read", .line "caml_extunix_intr_read", .endif,
    ifHave "WRITE", .line "caml_extunix_write_common",
    .line "caml_extunix_all_write", .line "caml_extunix_single_write",
    .line "caml_extunix_write", .line "caml_extunix_intr_write", .endif,
    ifHave "CHROOT", .line "caml_extunix_chroot", .endif]

def unshare : Source where
  wants := ["UNSHARE"]
  rest := [
    ifHave "UNSHARE", .line "caml_extunix_unshare", .endif]

def wait4 : Source where
  wants := ["WAIT4"]
  rest := [
    ifHave "WAIT4", .line "caml_extunix_wait4", .endif]

def eventfd : Source where
  wants := ["EVENTFD"]
  rest := [
    ifHave "EVENTFD", .line "caml_extunix_eventfd",
    .line "caml_extunix_eventfd_read", .line "caml_extunix_eventfd_write",
    .endif]

def sources : List Source := [
  atfile, bigarray, common, dirfd, endian, endianba, execinfo, fadvise,
  fallocate, fexecve, fsync, ioctlSiocgifconf, malloc, memalign, mktemp, mman,
  mount, poll, preadPwriteBa, ptrace, pts, readCred, realpath, rename, resource,
  sendmsg, signalfd, sockopt, splice, statvfs, stdlib, sysconf, sysinfo, syslog,
  time, ttyIoctl, uname, unistd, unshare, wait4, eventfd]

end Stubs

end ExtUnix.Linkage
