import ExtUnix.Safety.Stub

namespace ExtUnix.Safety.Channels

open Command

/-! `sendmsg.c`, where `CMSG_SPACE` is defined. -/

def sendmsg : Stub where
  name := "caml_extunix_sendmsg"
  params := ["fd_val", "sendfd_val", "data_val"]
  body := block [
    param ["fd_val", "sendfd_val", "data_val"], locals ["data"],
    maybe (inspect ["sendfd_val"]), inspect ["data_val"],
    reserve "buf", borrow "String_val(data_val)" "data_val",
    touch ["buf", "String_val(data_val)"],
    blocking ["buf"], free "buf", mayRaise [], give []]

def recvmsg : Stub where
  name := "caml_extunix_recvmsg"
  params := ["fd_val"]
  body := block [
    param ["fd_val"], locals ["data", "res"],
    blocking [], mayRaise [], create "res",
    .choose (inspect ["res"]) (block [
      locals ["some_fd"],
      maybe (block [create "message", raise ["message"]]),
      maybe (block [create "message", raise ["message"]]),
      create "some_fd", inspect ["some_fd"], inspect ["res", "some_fd"]]),
    create "data", inspect ["res", "data"], give ["res"]]

/-! `signalfd.c`. -/

def signalfd : Stub where
  name := "caml_extunix_signalfd"
  params := ["vfd", "vsigs", "vflags", "v_unit"]
  body := block [
    param ["vfd", "vsigs", "vflags", "v_unit"], inspect ["vfd"],
    .loop (block [inspect ["vsigs"], mayRaise [], copy "vsigs" "vsigs"]),
    .loop (block [inspect ["vflags"], copy "vflags" "vflags"]),
    mayRaise [], give []]

def signalfd_read : Stub where
  name := "caml_extunix_signalfd_read"
  params := ["v_fd"]
  body := block [
    param ["v_fd"], locals ["vret"], blocking [], mayRaise [],
    create "vret", inspect ["vret"], give ["vret"]]

/-- `caml_extunix_ssi_signo_sys`, and the functions of `SSI_GET_FIELD`. -/
def ssi (boxed : Bool) (field : String) : Stub where
  name := "caml_extunix_ssi_" ++ field
  params := ["vssi"]
  body := block [
    param ["vssi"], borrow "ssi" "vssi", touch ["ssi"], number boxed]

def ssiFields : List Stub :=
  ["signo_sys", "fd"].map (ssi false) ++
  ["signo", "errno", "code", "pid", "uid", "tid", "band", "overrun", "trapno",
    "status", "int", "ptr", "utime", "stime", "addr"].map (ssi true)

/-! `eventfd.c`. -/

def eventfd : Stub := direct "caml_extunix_eventfd" ["v_init"] []

def eventfd_read : Stub where
  name := "caml_extunix_eventfd_read"
  params := ["v_fd"]
  body := block [param ["v_fd"], mayRaise [], number true]

def eventfd_write : Stub :=
  direct "caml_extunix_eventfd_write" ["v_fd", "v_val"] ["v_val"]

/-! `poll.c`. -/

def poll_constants : Stub where
  name := "caml_extunix_poll_constants"
  params := ["v_unit"]
  body := block [create "v", inspect ["v"], give ["v"]]

def poll : Stub where
  name := "caml_extunix_poll"
  params := ["v_fds", "v_n", "v_ms"]
  body := block [
    param ["v_fds", "v_n", "v_ms"], locals ["v_l", "v_tuple", "v_cons"],
    inspect ["v_ms"], inspect ["v_fds"], mayRaise [], maybe (give []),
    reserve "fd",
    .loop (block [inspect ["v_fds"], touch ["fd"]]),
    blocking ["fd"],
    maybe (block [free "fd", raise []]),
    .loop (block [
      touch ["fd"],
      maybe (block [
        create "v_tuple", inspect ["v_tuple"], create "v_cons",
        inspect ["v_cons", "v_tuple"], inspect ["v_cons", "v_l"],
        copy "v_l" "v_cons"])]),
    free "fd", give ["v_l"]]

/-! `splice.c`, but for `vmsplice`. -/

def splice : Stub :=
  waiting "caml_extunix_splice"
    ["v_fd_in", "v_off_in", "v_fd_out", "v_off_out", "v_len", "v_flags"]
    ["v_flags", "v_off_in", "v_off_out"]

def splice_bytecode : Stub :=
  waiting "caml_extunix_splice_bytecode"
    ["argv[0]", "argv[1]", "argv[2]", "argv[3]", "argv[4]", "argv[5]"]
    ["argv[5]", "argv[1]", "argv[3]"]

def tee : Stub :=
  waiting "caml_extunix_tee" ["v_fd_in", "v_fd_out", "v_len", "v_flags"]
    ["v_flags"]

/-! `sockopt.c` and `read_cred.c`. -/

def have_sockopt : Stub := bare "caml_extunix_have_sockopt" ["k"]

def setsockopt_int : Stub := bare "caml_extunix_setsockopt_int" ["fd", "k", "v"]

def getsockopt_int : Stub := bare "caml_extunix_getsockopt_int" ["fd", "k"]

def read_credentials : Stub where
  name := "caml_extunix_read_credentials"
  params := ["fd_val"]
  body := block [
    param ["fd_val"], locals ["res"], mayRaise [],
    create "res", inspect ["res"], give ["res"]]

/-! `ioctl_siocgifconf.c`. -/

def ioctl_siocgifconf : Stub where
  name := "caml_extunix_ioctl_siocgifconf"
  params := ["v_sock"]
  body := block [
    param ["v_sock"], locals ["lst", "item", "cons"], mayRaise [],
    .loop (block [
      create "cons", create "item",
      storeNew "item" "ifr_name" [], storeNew "item" "inet_ntoa" [],
      inspect ["cons", "item"], inspect ["cons", "lst"], copy "lst" "cons"]),
    give ["lst"]]

def convertAddress : Command Variable :=
  block [
    create "cons", create "item", storeNew "item" "ifa_name" ["ifaddrs"],
    touch ["ifaddrs"], mayRaise [],
    storeNew "item" "addr_str" [],
    inspect ["cons", "item"], inspect ["cons", "lst"], copy "lst" "cons"]

def getifaddrs : Stub where
  name := "caml_extunix_getifaddrs"
  params := ["v"]
  body := block [
    param ["v"], locals ["lst", "item", "cons"],
    maybe (block [maybe (block [malloc "ifaddrs", free "ifaddrs"]), raise []]),
    malloc "ifaddrs",
    .loop (block [touch ["ifaddrs"], maybe convertAddress]),
    free "ifaddrs", give ["lst"]]

/-! `pts.c` and `tty_ioctl.c`. -/

def posix_openpt : Stub :=
  direct "caml_extunix_posix_openpt" ["flags"] ["flags"]

def grantpt : Stub := direct "caml_extunix_grantpt" ["fd"] []

def unlockpt : Stub := direct "caml_extunix_unlockpt" ["fd"] []

def ptsname : Stub where
  name := "caml_extunix_ptsname"
  params := ["fd"]
  body := block [
    param ["fd"], locals ["ret"], mayRaise [], create "ret", give ["ret"]]

def crtscts : Stub := direct "caml_extunix_crtscts" ["mlfd"] []

/-- The exception carries a string allocated for it. -/
def ioctlFailed : Command Variable :=
  maybe (block [create "command", raise ["command"]])

def ioctl_TIOCGWINSZ : Stub where
  name := "caml_extunix_ioctl_TIOCGWINSZ"
  params := ["v_fd"]
  body := block [
    param ["v_fd"], locals ["result"], ioctlFailed,
    create "result", inspect ["result"], give ["result"]]

def ioctl_TIOCMGET : Stub where
  name := "caml_extunix_ioctl_TIOCMGET"
  params := ["v_fd"]
  body := block [param ["v_fd"], ioctlFailed, give []]

def ttyIoctlInt (cmd : String) : Stub where
  name := "caml_extunix_ioctl_" ++ cmd
  params := ["v_fd", "v_arg"]
  body := block [param ["v_fd", "v_arg"], ioctlFailed, give []]

def ttyIoctls : List Stub :=
  ["TIOCMSET", "TIOCMBIC", "TIOCMBIS"].map ttyIoctlInt

def stubs : List Stub := [
  sendmsg, recvmsg, signalfd, signalfd_read] ++ ssiFields ++ [
  eventfd, eventfd_read, eventfd_write, poll_constants, poll, splice,
  splice_bytecode, tee, have_sockopt, setsockopt_int, getsockopt_int,
  read_credentials, ioctl_siocgifconf, getifaddrs, posix_openpt, grantpt,
  unlockpt, ptsname, crtscts, ioctl_TIOCGWINSZ, ioctl_TIOCMGET] ++ ttyIoctls

end ExtUnix.Safety.Channels
