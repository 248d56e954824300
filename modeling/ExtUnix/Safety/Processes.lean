import ExtUnix.Safety.Stub

namespace ExtUnix.Safety.Processes

open Command

/-! `unistd.c`, but for its transfers. -/

def ttyname : Stub where
  name := "caml_extunix_ttyname"
  params := ["v_fd"]
  body := block [
    param ["v_fd"],
    .choose (block [create "result", give ["result"]]) (raise [])]

def ctermid : Stub where
  name := "caml_extunix_ctermid"
  params := ["v_unit"]
  body := number true

def gettid : Stub := quiet "caml_extunix_gettid" ["v_unit"]

def setpgid : Stub := direct "caml_extunix_setpgid" ["v_pid", "v_pgid"] []

def getpgid : Stub := direct "caml_extunix_getpgid" ["v_pid"] []

def getsid : Stub := direct "caml_extunix_getsid" ["v_pid"] []

def setreuid : Stub := direct "caml_extunix_setreuid" ["v_ruid", "v_euid"] []

def setregid : Stub := direct "caml_extunix_setregid" ["v_rgid", "v_egid"] []

def setresuid : Stub := direct "caml_extunix_setresuid" ["r", "e", "s"] []

def setresgid : Stub := direct "caml_extunix_setresgid" ["r", "e", "s"] []

def is_open_descr : Stub := bare "caml_extunix_is_open_descr" ["v_fd"]

def tcgetpgrp : Stub := bare "caml_extunix_tcgetpgrp" ["v_fd"]

def tcsetpgrp : Stub := bare "caml_extunix_tcsetpgrp" ["v_fd", "v_pgid"]

def chroot : Stub :=
  copying "caml_extunix_chroot" ["v_path"] [("p_path", "v_path")] [] ["p_path"]
    ["v_path"]

/-! `mman.c`, `unshare.c` and `ptrace.c`. -/

def mlockall : Stub := waiting "caml_extunix_mlockall" ["v_flags"] ["v_flags"]

def munlockall : Stub := waiting "caml_extunix_munlockall" ["v_unit"] []

def unshare : Stub :=
  waiting "caml_extunix_unshare" ["v_cloneflags"] ["v_cloneflags"]

def ptrace_traceme : Stub := bare "caml_extunix_ptrace_traceme" ["v_unit"]

def ptrace : Stub where
  name := "caml_extunix_ptrace"
  params := ["v_pid", "v_req"]
  body := block [param ["v_pid", "v_req"], mayRaise [], mayRaise [], give []]

/-- `caml_extunix_ptrace_peekdata` and `caml_extunix_ptrace_peektext`. -/
def peek (request : String) : Stub where
  name := "caml_extunix_ptrace_" ++ request
  params := ["v_pid", "v_addr"]
  body := block [
    param ["v_pid", "v_addr"], inspect ["v_addr"], mayRaise [], number true]

/-! `wait4.c`. -/

def alloc_wait4_return (result : Variable) : Command Variable :=
  block [
    locals ["alloc_wait4_return.res", "alloc_wait4_return.st",
      "alloc_wait4_return.ru"],
    create "alloc_wait4_return.st", inspect ["alloc_wait4_return.st"],
    create "alloc_wait4_return.ru",
    block (List.replicate 3
      (storeNew "alloc_wait4_return.ru" "alloc_wait4_return.field" [])),
    create "alloc_wait4_return.res", inspect ["alloc_wait4_return.res"],
    inspect ["alloc_wait4_return.res", "alloc_wait4_return.st"],
    inspect ["alloc_wait4_return.res", "alloc_wait4_return.ru"],
    copy result "alloc_wait4_return.res",
    drop ["alloc_wait4_return.res", "alloc_wait4_return.st",
      "alloc_wait4_return.ru"]]

def wait4 : Stub where
  name := "caml_extunix_wait4"
  params := ["vwait_flags", "vpid_req"]
  body := block [
    param ["vwait_flags", "vpid_req"], inspect ["vwait_flags"],
    blocking [], mayRaise [],
    alloc_wait4_return "result", give ["result"]]

/-! `fexecve.c`. -/

/-- The strings the array points to have one name. -/
def array_of_value (arr strings argument : Variable) : Command Variable :=
  block [
    copy "array_of_value.v" argument, param ["array_of_value.v"],
    inspect ["array_of_value.v"], reserve arr,
    borrow strings "array_of_value.v", touch [arr], drop ["array_of_value.v"]]

def fexecve : Stub where
  name := "caml_extunix_fexecve"
  params := ["fd_val", "argv_val", "envp_val"]
  body := block [
    param ["fd_val", "argv_val", "envp_val"],
    array_of_value "argv" "argv[i]" "argv_val",
    array_of_value "envp" "envp[i]" "envp_val",
    touch ["argv", "argv[i]", "envp", "envp[i]"],
    free "argv", free "envp", raise []]

/-! `resource.c`. -/

def decode_which_prio : Command Variable :=
  block [
    copy "decode_which_prio.vwprio" "vwprio",
    param ["decode_which_prio.vwprio"], inspect ["decode_which_prio.vwprio"],
    mayRaise [], drop ["decode_which_prio.vwprio"]]

def getpriority : Stub where
  name := "caml_extunix_getpriority"
  params := ["vwprio"]
  body := block [param ["vwprio"], decode_which_prio, mayRaise [], give []]

def setpriority : Stub where
  name := "caml_extunix_setpriority"
  params := ["vwprio", "vprio"]
  body := block [
    param ["vwprio", "vprio"], decode_which_prio, mayRaise [], give []]

def encode_limit (result : Variable) : Command Variable :=
  block [
    locals ["encode_limit.vres"],
    maybe (block [
      create "encode_limit.vres",
      storeNew "encode_limit.vres" "encode_limit.field" []]),
    copy result "encode_limit.vres", drop ["encode_limit.vres"]]

def getrlimit : Stub where
  name := "caml_extunix_getrlimit"
  params := ["vrsrc"]
  body := block [
    param ["vrsrc"], locals ["vres"], mayRaise [], create "vres",
    encode_limit "rlim_cur", inspect ["vres", "rlim_cur"],
    encode_limit "rlim_max", inspect ["vres", "rlim_max"], give ["vres"]]

def decode_limit (vchglimit : Variable) : Command Variable :=
  block [
    copy "decode_limit.vchglimit" vchglimit,
    param ["decode_limit.vchglimit"], inspect ["decode_limit.vchglimit"],
    drop ["decode_limit.vchglimit"]]

def setrlimit : Stub where
  name := "caml_extunix_setrlimit"
  params := ["vrsrc", "vslimit", "vhlimit"]
  body := block [
    param ["vrsrc", "vslimit", "vhlimit"], decode_limit "vslimit",
    decode_limit "vhlimit", mayRaise [], give []]

/-! `sysinfo.c`, `uname.c` and `sysconf.c`. -/

def convert (result : Variable) : Command Variable :=
  block [
    locals ["convert.v", "convert.v_loads"], create "convert.v_loads",
    block (List.replicate 3 (storeNew "convert.v_loads" "convert.field" [])),
    create "convert.v", inspect ["convert.v"],
    inspect ["convert.v", "convert.v_loads"], inspect ["convert.v"],
    copy result "convert.v", drop ["convert.v", "convert.v_loads"]]

def sysinfo : Stub where
  name := "caml_extunix_sysinfo"
  params := ["v_unit"]
  body := block [
    param ["v_unit"], mayRaise [], convert "result", give ["result"]]

def uptime : Stub := bare "caml_extunix_uptime" ["v_unit"]

def uname : Stub where
  name := "caml_extunix_uname"
  params := ["u"]
  body := block [
    param ["u"], locals ["result", "domainname"],
    .choose (block [
      create "result",
      block (List.replicate 5 (storeNew "result" "field" []))]) (raise []),
    give ["result"]]

def sysconf : Stub where
  name := "caml_extunix_sysconf"
  params := ["name"]
  body := block [param ["name"], mayRaise [], mayRaise [], number true]

/-! `stdlib.c`. -/

def setenv : Stub where
  name := "caml_extunix_setenv"
  params := ["v_name", "v_val", "v_overwrite"]
  body := block [
    param ["v_name", "v_val", "v_overwrite"],
    borrow "String_val(v_name)" "v_name", borrow "String_val(v_val)" "v_val",
    touch ["String_val(v_name)", "String_val(v_val)"],
    mayRaise ["v_name"], give []]

def unsetenv : Stub where
  name := "caml_extunix_unsetenv"
  params := ["v_name"]
  body := block [
    param ["v_name"], borrow "String_val(v_name)" "v_name",
    touch ["String_val(v_name)"], mayRaise ["v_name"], give []]

def clearenv : Stub := bare "caml_extunix_clearenv" ["v_unit"]

/-! `syslog.c`, but for `openlog`. -/

def setlogmask : Stub where
  name := "caml_extunix_setlogmask"
  params := ["v_level"]
  body := block [
    param ["v_level"], locals ["cli", "cons"], inspect ["v_level"],
    blocking [],
    .loop (maybe (block [
      create "cons", inspect ["cons"], inspect ["cons", "cli"],
      copy "cli" "cons"])),
    give ["cli"]]

def closelog : Stub := quiet "caml_extunix_closelog" []

def syslog : Stub where
  name := "caml_extunix_syslog"
  params := ["v_facility", "v_level", "v_string"]
  body := block [
    param ["v_facility", "v_level", "v_string"], inspect ["v_facility"],
    strdup "str" "v_string", blocking ["str"], free "str", give []]

/-! `time.c`, other than on Windows. -/

def alloc_tm (result : Variable) : Command Variable :=
  block [create "alloc_tm.res", inspect ["alloc_tm.res"],
    copy result "alloc_tm.res"]

def strptime : Stub where
  name := "caml_extunix_strptime"
  params := ["v_fmt", "v_s"]
  body := block [
    borrow "String_val(v_s)" "v_s", borrow "String_val(v_fmt)" "v_fmt",
    touch ["String_val(v_s)", "String_val(v_fmt)"],
    mayRaise ["v_s"], alloc_tm "result", give ["result"]]

def fill_tm (t : Variable) : Command Variable := inspect [t]

def asctime : Stub where
  name := "caml_extunix_asctime"
  params := ["v_t"]
  body := block [param ["v_t"], fill_tm "v_t", mayRaise [], number true]

def strftime : Stub where
  name := "caml_extunix_strftime"
  params := ["v_fmt", "v_t"]
  body := block [
    param ["v_fmt", "v_t"], fill_tm "v_t",
    borrow "String_val(v_fmt)" "v_fmt", touch ["String_val(v_fmt)"],
    mayRaise ["v_fmt"], number true]

def tzname : Stub where
  name := "caml_extunix_tzname"
  params := ["v_isdst"]
  body := block [param ["v_isdst"], number true]

def timezone : Stub where
  name := "caml_extunix_timezone"
  params := ["v_unit"]
  body := block [
    param ["v_unit"], locals ["v"], create "v", inspect ["v"], give ["v"]]

def timegm : Stub where
  name := "caml_extunix_timegm"
  params := ["v_t"]
  body := block [param ["v_t"], fill_tm "v_t", number true]

/-! `execinfo.c` and `malloc.c`. -/

/-- `strings` is from C's `malloc`. -/
def backtrace : Stub where
  name := "caml_extunix_backtrace"
  params := ["unit"]
  body := block [
    param ["unit"], locals ["v_ret"], mayRaise [], malloc "strings",
    create "v_ret", .loop (storeNew "v_ret" "string" ["strings"]),
    free "strings", give ["v_ret"]]

def malloc_stats : Stub := quiet "caml_extunix_malloc_stats" ["v_unit"]

/-- `open_memstream` allocates `buf`. -/
def malloc_info : Stub where
  name := "caml_extunix_malloc_info"
  params := ["v_unit"]
  body := block [
    locals ["v_s"], mayRaise [], malloc "buf",
    maybe (block [free "buf", raise []]),
    create "v_s", borrow "Bp_val(v_s)" "v_s", touch ["Bp_val(v_s)", "buf"],
    free "buf", give ["v_s"]]

def mtrace : Stub := quiet "caml_extunix_mtrace" ["v"]

def muntrace : Stub := quiet "caml_extunix_muntrace" ["v"]

def stubs : List Stub := [
  ttyname, ctermid, gettid, setpgid, getpgid, getsid, setreuid, setregid,
  setresuid, setresgid, is_open_descr, tcgetpgrp, tcsetpgrp, chroot, mlockall,
  munlockall, unshare, ptrace_traceme, ptrace, peek "peekdata", peek "peektext",
  wait4, fexecve, getpriority, setpriority, getrlimit, setrlimit, sysinfo,
  uptime, uname, sysconf, setenv, unsetenv, clearenv, setlogmask, closelog,
  syslog, strptime, asctime, strftime, tzname, timezone, timegm, backtrace,
  malloc_stats, malloc_info, mtrace, muntrace]

end ExtUnix.Safety.Processes
