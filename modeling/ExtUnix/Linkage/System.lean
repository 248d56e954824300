import ExtUnix.Linkage.Files

namespace ExtUnix.Linkage.Bindings

open ExtUnix.Ppx

def system : List Item := [
  have_ "MOUNT" [
    .other "type mount_flag",
    labelled "mount" [(.labelled "source", "string"),
      (.labelled "target", "string"), (.labelled "fstype", "string"),
      (.nolabel, "mount_flag list"), (.labelled "data", "string")] "unit"
      ["caml_extunix_mount"],
    .other "type umount2_flag",
    external "umount2" ["string", "umount2_flag list"] "unit"
      ["caml_extunix_umount2"]],
  have_ "CHROOT" [external "chroot" ["string"] "unit" ["caml_extunix_chroot"]],
  have_ "UNSHARE" [
    .other "type clone_flag",
    external "unshare" ["clone_flag list"] "unit" ["caml_extunix_unshare"]],
  .module "Ioctl" [
    have_ "SIOCGIFCONF" [
      labelled "siocgifconf" [(.labelled "sock", "Unix.file_descr")]
        "(string * string) list" ["caml_extunix_ioctl_siocgifconf"]],
    have_ "TTY_IOCTL" [
      external "crtscts" ["Unix.file_descr"] "int" ["caml_extunix_crtscts"],
      external "tiocmget" ["Unix.file_descr"] "int"
        ["caml_extunix_ioctl_TIOCMGET"],
      external "tiocmset" ["Unix.file_descr", "int"] "unit"
        ["caml_extunix_ioctl_TIOCMSET"],
      external "tiocmbic" ["Unix.file_descr", "int"] "unit"
        ["caml_extunix_ioctl_TIOCMBIC"],
      external "tiocmbis" ["Unix.file_descr", "int"] "unit"
        ["caml_extunix_ioctl_TIOCMBIS"],
      external "tiocgwinsz" ["Unix.file_descr"] "(int * int * int * int)"
        ["caml_extunix_ioctl_TIOCGWINSZ"]]],
  have_ "TTYNAME" [
    external "ttyname" ["Unix.file_descr"] "string" ["caml_extunix_ttyname"]],
  have_ "CTERMID" [
    external "ctermid" ["unit"] "string" ["caml_extunix_ctermid"]],
  have_ "GETTID" [external "gettid" ["unit"] "int" ["caml_extunix_gettid"]],
  have_ "PGID" [
    external "setpgid" ["int", "int"] "unit" ["caml_extunix_setpgid"],
    external "getpgid" ["int"] "int" ["caml_extunix_getpgid"],
    external "getsid" ["int"] "int" ["caml_extunix_getsid"]],
  have_ "SETREUID" [
    external "setreuid" ["int", "int"] "unit" ["caml_extunix_setreuid"],
    external "setregid" ["int", "int"] "unit" ["caml_extunix_setregid"]],
  have_ "SETRESUID" [
    external "setresuid" ["int", "int", "int"] "unit"
      ["caml_extunix_setresuid"],
    external "setresgid" ["int", "int", "int"] "unit"
      ["caml_extunix_setresgid"]],
  have_ "TCPGRP" [
    external "tcgetpgrp" ["Unix.file_descr"] "int" ["caml_extunix_tcgetpgrp"],
    external "tcsetpgrp" ["Unix.file_descr", "int"] "unit"
      ["caml_extunix_tcsetpgrp"]],
  external "sys_exit" ["int"] "'a" ["caml_sys_exit"],
  have_ "SYSINFO" [
    .other "type sysinfo",
    external "sysinfo" ["unit"] "sysinfo" ["caml_extunix_sysinfo"],
    external "uptime" ["unit"] "int" ["caml_extunix_uptime"]],
  have_ "IFADDRS" [
    external "getifaddrs" ["unit"] "(string * string) list"
      ["caml_extunix_getifaddrs"]],
  have_ "SOCKOPT" [
    .other "type socket_int_option_", let_ "string_of_socket_int_option_",
    external "setsockopt_int" ["Unix.file_descr", "socket_int_option_", "int"]
      "unit" ["caml_extunix_setsockopt_int"],
    external "getsockopt_int" ["Unix.file_descr", "socket_int_option_"] "int"
      ["caml_extunix_getsockopt_int"],
    external "have_sockopt_int" ["socket_int_option_"] "bool"
      ["caml_extunix_have_sockopt"],
    let_ "setsockopt_int", let_ "getsockopt_int",
    .other "type socket_int_option", .other "type socket_bool_option",
    .other "type socket_unit_option", let_ "make_socket_int_option",
    let_ "make_socket_bool_option", let_ "make_socket_unit_option",
    let_ "have_sockopt_unit", let_ "have_sockopt_bool", let_ "have_sockopt_int",
    let_ "have_sockopt", let_ "setsockopt_unit", let_ "setsockopt",
    let_ "getsockopt", let_ "setsockopt_int", let_ "getsockopt_int"],
  have_ "POLL" [
    .module "Poll" [
      .other "type t",
      external "poll_constants" ["unit"]
        "(int * int * int * int * int * int * int)"
        ["caml_extunix_poll_constants"],
      let_ "(pollin,pollpri,pollout,pollerr,pollhup,pollnval,pollrdhup)",
      let_ "none", let_ "is_set", let_ "inter", let_ "is_inter", let_ "union",
      let_ "(+)", let_ "join"],
    external "poll" ["(Unix.file_descr * Poll.t) array", "int", "float"]
      "(Unix.file_descr * Poll.t) list" ["caml_extunix_poll"],
    let_ "poll"],
  have_ "SIGNALFD" [
    labelled "signalfd" [(.optional "fd", "Unix.file_descr"),
      (.labelled "sigs", "int list"), (.labelled "flags", "int list"),
      (.nolabel, "unit")] "Unix.file_descr" ["caml_extunix_signalfd"],
    .other "type ssi",
    external "signalfd_read" ["Unix.file_descr"] "ssi"
      ["caml_extunix_signalfd_read"],
    external "ssi_signo_sys" ["ssi"] "int" ["caml_extunix_ssi_signo_sys"],
    external "ssi_signo" ["ssi"] "int32" ["caml_extunix_ssi_signo"],
    external "ssi_errno" ["ssi"] "int32" ["caml_extunix_ssi_errno"],
    external "ssi_code" ["ssi"] "int32" ["caml_extunix_ssi_code"],
    external "ssi_pid" ["ssi"] "int32" ["caml_extunix_ssi_pid"],
    external "ssi_uid" ["ssi"] "int32" ["caml_extunix_ssi_uid"],
    external "ssi_fd" ["ssi"] "Unix.file_descr" ["caml_extunix_ssi_fd"],
    external "ssi_tid" ["ssi"] "int32" ["caml_extunix_ssi_tid"],
    external "ssi_band" ["ssi"] "int32" ["caml_extunix_ssi_band"],
    external "ssi_overrun" ["ssi"] "int32" ["caml_extunix_ssi_overrun"],
    external "ssi_trapno" ["ssi"] "int32" ["caml_extunix_ssi_trapno"],
    external "ssi_status" ["ssi"] "int32" ["caml_extunix_ssi_status"],
    external "ssi_int" ["ssi"] "int32" ["caml_extunix_ssi_int"],
    external "ssi_ptr" ["ssi"] "int64" ["caml_extunix_ssi_ptr"],
    external "ssi_utime" ["ssi"] "int64" ["caml_extunix_ssi_utime"],
    external "ssi_stime" ["ssi"] "int64" ["caml_extunix_ssi_stime"],
    external "ssi_addr" ["ssi"] "int64" ["caml_extunix_ssi_addr"]],
  have_ "RESOURCE" [
    .other "type which_prio_t", .other "type priority", .other "type resource",
    let_ "string_of_resource",
    .module "Rlimit" [
      .other "type t", let_ "string_of_bytes", let_ "to_string", let_ "compare",
      let_ "eq", let_ "gt", let_ "ge", let_ "lt", let_ "le"],
    external "getpriority" ["which_prio_t"] "priority"
      ["caml_extunix_getpriority"],
    external "setpriority" ["which_prio_t", "priority"] "unit"
      ["caml_extunix_setpriority"],
    external "getrlimit" ["resource"] "Rlimit.t * Rlimit.t"
      ["caml_extunix_getrlimit"],
    labelled "setrlimit" [(.nolabel, "resource"),
      (.labelled "soft", "Rlimit.t"), (.labelled "hard", "Rlimit.t")] "unit"
      ["caml_extunix_setrlimit"]],
  have_ "MLOCKALL" [
    .other "type mlockall_flag",
    external "mlockall" ["mlockall_flag list"] "unit" ["caml_extunix_mlockall"],
    external "munlockall" ["unit"] "unit" ["caml_extunix_munlockall"]],
  have_ "MEMALIGN" [
    external "memalign" ["int", "int"] "Bigarray.int8_unsigned_elt carray8"
      ["caml_extunix_memalign"]],
  have_ "STRPTIME" [
    external "strptime" ["string", "string"] "Unix.tm"
      ["caml_extunix_strptime"]],
  have_ "STRTIME" [
    external "asctime" ["Unix.tm"] "string" ["caml_extunix_asctime"],
    external "strftime" ["string", "Unix.tm"] "string"
      ["caml_extunix_strftime"],
    external "tzname" ["bool"] "string" ["caml_extunix_tzname"]],
  have_ "TIMEZONE" [
    external "timezone" ["unit"] "int * bool" ["caml_extunix_timezone"]],
  have_ "TIMEGM" [
    external "timegm" ["Unix.tm"] "float" ["caml_extunix_timegm"]],
  have_ "PTS" [
    external "posix_openpt" ["open_flag list"] "Unix.file_descr"
      ["caml_extunix_posix_openpt"],
    external "grantpt" ["Unix.file_descr"] "unit" ["caml_extunix_grantpt"],
    external "unlockpt" ["Unix.file_descr"] "unit" ["caml_extunix_unlockpt"],
    external "ptsname" ["Unix.file_descr"] "string" ["caml_extunix_ptsname"]],
  have_ "EXECINFO" [
    external "backtrace" ["unit"] "string array" ["caml_extunix_backtrace"]],
  have_ "MALLOC_STATS" [
    external "malloc_stats" ["unit"] "unit" ["caml_extunix_malloc_stats"]],
  have_ "MALLOC_INFO" [
    external "malloc_info" ["unit"] "string" ["caml_extunix_malloc_info"]],
  have_ "MCHECK" [
    external "mtrace" ["unit"] "unit" ["caml_extunix_mtrace"],
    external "muntrace" ["unit"] "unit" ["caml_extunix_muntrace"]],
  have_ "PTRACE" [
    external "ptrace_traceme" ["unit"] "unit" ["caml_extunix_ptrace_traceme"],
    external "ptrace_peekdata" ["int", "nativeint"] "nativeint"
      ["caml_extunix_ptrace_peekdata"],
    external "ptrace_peektext" ["int", "nativeint"] "nativeint"
      ["caml_extunix_ptrace_peektext"],
    .other "type ptrace_request",
    external "ptrace" ["int", "ptrace_request"] "unit" ["caml_extunix_ptrace"]],
  have_ "SETENV" [
    external "setenv" ["string", "string", "bool"] "unit"
      ["caml_extunix_setenv"],
    external "unsetenv" ["string"] "unit" ["caml_extunix_unsetenv"]],
  have_ "CLEARENV" [
    external "clearenv" ["unit"] "unit" ["caml_extunix_clearenv"]],
  have_ "MKDTEMP" [
    external "mkdtemp" ["string"] "string" ["caml_extunix_mkdtemp"]],
  have_ "MKSTEMPS" [
    external "internal_mkstemps" ["bytes", "int"] "Unix.file_descr"
      ["caml_extunix_internal_mkstemps"],
    let_ "mkstemp"],
  have_ "MKOSTEMPS" [
    external "internal_mkostemps" ["bytes", "int", "open_flag list"]
      "Unix.file_descr" ["caml_extunix_internal_mkostemps"],
    let_ "mkostemp"]]

end ExtUnix.Linkage.Bindings
