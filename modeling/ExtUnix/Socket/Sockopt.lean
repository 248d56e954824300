import ExtUnix.Data.Machine
import ExtUnix.Runtime.Stub
import Mathlib.Logic.Function.Basic

namespace ExtUnix.Socket.Sockopt

open ExtUnix.Data
open ExtUnix.Runtime

/-! `sockopt.c`, and what `extUnix.pp.ml` makes of it. -/

inductive SocketIntOption_ where
  | TCP_KEEPCNT_
  | TCP_KEEPIDLE_
  | TCP_KEEPINTVL_
  | SO_REUSEPORT_
  | SO_ATTACH_BPF_
  | SO_ATTACH_REUSEPORT_EBPF_
  | SO_DETACH_FILTER_
  | SO_DETACH_BPF_
  | SO_LOCK_FILTER_
  deriving DecidableEq

def SocketIntOption_.tag : SocketIntOption_ → Nat
  | .TCP_KEEPCNT_ => 0
  | .TCP_KEEPIDLE_ => 1
  | .TCP_KEEPINTVL_ => 2
  | .SO_REUSEPORT_ => 3
  | .SO_ATTACH_BPF_ => 4
  | .SO_ATTACH_REUSEPORT_EBPF_ => 5
  | .SO_DETACH_FILTER_ => 6
  | .SO_DETACH_BPF_ => 7
  | .SO_LOCK_FILTER_ => 8

def stringOfSocketIntOption_ : SocketIntOption_ → String
  | .TCP_KEEPCNT_ => "TCP_KEEPCNT"
  | .TCP_KEEPIDLE_ => "TCP_KEEPIDLE"
  | .TCP_KEEPINTVL_ => "TCP_KEEPINTVL"
  | .SO_REUSEPORT_ => "SO_REUSEPORT"
  | .SO_ATTACH_BPF_ => "SO_ATTACH_BPF"
  | .SO_ATTACH_REUSEPORT_EBPF_ => "SO_ATTACH_REUSEPORT_EBPF"
  | .SO_DETACH_FILTER_ => "SO_DETACH_FILTER"
  | .SO_DETACH_BPF_ => "SO_DETACH_BPF"
  | .SO_LOCK_FILTER_ => "SO_LOCK_FILTER"

structure Option_ where
  opt : BitVec 32
  level : BitVec 32
  deriving DecidableEq

/-- The constants of the platform; an option it lacks is `-1`. -/
structure SockoptConstants where
  opt : SocketIntOption_ → BitVec 32
  IPPROTO_TCP : BitVec 32
  SOL_SOCKET : BitVec 32
  ENOPROTOOPT : Errno

section Constants

variable (constants : SockoptConstants)

def SockoptConstants.level : SocketIntOption_ → BitVec 32
  | .TCP_KEEPCNT_ | .TCP_KEEPIDLE_ | .TCP_KEEPINTVL_ => constants.IPPROTO_TCP
  | _ => constants.SOL_SOCKET

def SockoptConstants.entry (option : SocketIntOption_) : Option_ :=
  ⟨constants.opt option, constants.level option⟩

def tcpOptions : List Option_ := [
  ⟨constants.opt .TCP_KEEPCNT_, constants.IPPROTO_TCP⟩,
  ⟨constants.opt .TCP_KEEPIDLE_, constants.IPPROTO_TCP⟩,
  ⟨constants.opt .TCP_KEEPINTVL_, constants.IPPROTO_TCP⟩,
  ⟨constants.opt .SO_REUSEPORT_, constants.SOL_SOCKET⟩,
  ⟨constants.opt .SO_ATTACH_BPF_, constants.SOL_SOCKET⟩,
  ⟨constants.opt .SO_ATTACH_REUSEPORT_EBPF_, constants.SOL_SOCKET⟩,
  ⟨constants.opt .SO_DETACH_FILTER_, constants.SOL_SOCKET⟩,
  ⟨constants.opt .SO_DETACH_BPF_, constants.SOL_SOCKET⟩,
  ⟨constants.opt .SO_LOCK_FILTER_, constants.SOL_SOCKET⟩]

end Constants

abbrev Sockets := BitVec 32 → Option_ → BitVec 32

/-- `setsockopt(2)`; `normalise` is what the kernel keeps of a value, such as
whether it is `0`. -/
def Sockets.set (normalise : Option_ → BitVec 32 → BitVec 32)
    (sockets : Sockets) (fd : BitVec 32) (option : Option_)
    (optval : BitVec 32) : Sockets :=
  Function.update sockets fd
    (Function.update (sockets fd) option (normalise option optval))

section Stubs

variable (constants : SockoptConstants)
  (normalise : Option_ → BitVec 32 → BitVec 32)

def haveSockopt (k : Nat) : Outcome Bool :=
  match (tcpOptions constants)[k]? with
  | none => .invalidArgument "have_sockopt"
  | some option => .returned (option.opt ≠ -1)

def sockoptInt (function : String) (k : Nat) (refusal : Option Errno)
    (success : Option_ → α) : Option (Outcome α) :=
  match (tcpOptions constants)[k]? with
  | none => some (.invalidArgument function)
  | some option =>
      if option.opt = -1 then none
      else
        match refusal with
        | none => some (.returned (success option))
        | some errno =>
            if errno = constants.ENOPROTOOPT then none
            else some (.unixError errno function [])

/-- `caml_extunix_setsockopt_int`; on success, the sockets it leaves. -/
def setsockoptIntStub (sockets : Sockets) (fd : CamlInt) (k : Nat)
    (v : CamlInt) (refusal : Option Errno) : Option (Outcome Sockets) :=
  sockoptInt constants "setsockopt_int" k refusal fun option =>
    sockets.set normalise (intVal fd) option (intVal v)

def getsockoptIntStub (sockets : Sockets) (fd : CamlInt) (k : Nat)
    (refusal : Option Errno) : Option (Outcome CamlInt) :=
  sockoptInt constants "getsockopt_int" k refusal fun option =>
    valInt (sockets (intVal fd) option)

/-- `try .. with Not_found -> raise (Not_available ..)`. -/
def rescue (verb : String) (opt : SocketIntOption_) :
    Option (Outcome α) → Outcome α
  | some outcome => outcome
  | none => .notAvailable (verb ++ " " ++ stringOfSocketIntOption_ opt)

/-- The first `setsockopt_int`. -/
def setsockoptInt_ (sockets : Sockets) (sock : CamlInt)
    (opt : SocketIntOption_) (v : CamlInt) (refusal : Option Errno) :
    Outcome Sockets :=
  rescue "setsockopt" opt
    (setsockoptIntStub constants normalise sockets sock opt.tag v refusal)

/-- The first `getsockopt_int`. -/
def getsockoptInt_ (sockets : Sockets) (sock : CamlInt)
    (opt : SocketIntOption_) (refusal : Option Errno) : Outcome CamlInt :=
  rescue "getsockopt" opt
    (getsockoptIntStub constants sockets sock opt.tag refusal)

inductive SocketIntOption where
  | TCP_KEEPCNT
  | TCP_KEEPIDLE
  | TCP_KEEPINTVL
  | SO_ATTACH_BPF
  | SO_ATTACH_REUSEPORT_EBPF
  deriving DecidableEq

inductive SocketBoolOption where
  | SO_REUSEPORT
  | SO_LOCK_FILTER
  deriving DecidableEq

inductive SocketUnitOption where
  | SO_DETACH_FILTER
  | SO_DETACH_BPF
  deriving DecidableEq

def makeSocketIntOption : SocketIntOption → SocketIntOption_
  | .TCP_KEEPCNT => .TCP_KEEPCNT_
  | .TCP_KEEPIDLE => .TCP_KEEPIDLE_
  | .TCP_KEEPINTVL => .TCP_KEEPINTVL_
  | .SO_ATTACH_BPF => .SO_ATTACH_BPF_
  | .SO_ATTACH_REUSEPORT_EBPF => .SO_ATTACH_REUSEPORT_EBPF_

def makeSocketBoolOption : SocketBoolOption → SocketIntOption_
  | .SO_REUSEPORT => .SO_REUSEPORT_
  | .SO_LOCK_FILTER => .SO_LOCK_FILTER_

def makeSocketUnitOption : SocketUnitOption → SocketIntOption_
  | .SO_DETACH_FILTER => .SO_DETACH_FILTER_
  | .SO_DETACH_BPF => .SO_DETACH_BPF_

def haveSockoptUnit (x : SocketUnitOption) : Outcome Bool :=
  haveSockopt constants (makeSocketUnitOption x).tag

def haveSockoptBool (x : SocketBoolOption) : Outcome Bool :=
  haveSockopt constants (makeSocketBoolOption x).tag

def haveSockoptInt (x : SocketIntOption) : Outcome Bool :=
  haveSockopt constants (makeSocketIntOption x).tag

def setsockoptUnit (sockets : Sockets) (sock : CamlInt)
    (opt : SocketUnitOption) (refusal : Option Errno) : Outcome Sockets :=
  setsockoptInt_ constants normalise sockets sock (makeSocketUnitOption opt) 0
    refusal

def setsockopt (sockets : Sockets) (sock : CamlInt) (opt : SocketBoolOption)
    (v : Bool) (refusal : Option Errno) : Outcome Sockets :=
  setsockoptInt_ constants normalise sockets sock (makeSocketBoolOption opt)
    (if v then 1 else 0) refusal

def getsockopt (sockets : Sockets) (sock : CamlInt) (opt : SocketBoolOption)
    (refusal : Option Errno) : Outcome Bool :=
  (getsockoptInt_ constants sockets sock (makeSocketBoolOption opt)
    refusal).map fun v => 0 ≠ v

def setsockoptInt (sockets : Sockets) (sock : CamlInt) (opt : SocketIntOption)
    (v : CamlInt) (refusal : Option Errno) : Outcome Sockets :=
  setsockoptInt_ constants normalise sockets sock (makeSocketIntOption opt) v
    refusal

def getsockoptInt (sockets : Sockets) (sock : CamlInt) (opt : SocketIntOption)
    (refusal : Option Errno) : Outcome CamlInt :=
  getsockoptInt_ constants sockets sock (makeSocketIntOption opt) refusal

end Stubs

inductive Request where
  | setUnit (opt : SocketUnitOption)
  | setBool (opt : SocketBoolOption) (v : Bool)
  | setInt (opt : SocketIntOption) (v : CamlInt)
  | getBool (opt : SocketBoolOption)
  | getInt (opt : SocketIntOption)
  deriving DecidableEq

structure Call where
  sock : CamlInt
  request : Request
  refusal : Option Errno
  deriving DecidableEq

inductive Answer where
  | unit (outcome : Outcome Unit)
  | bool (outcome : Outcome Bool)
  | int (outcome : Outcome CamlInt)
  deriving DecidableEq

/-- A call that raises leaves the sockets as they were. -/
def setting (sockets : Sockets) : Outcome Sockets → Sockets × Answer
  | .returned next => (next, .unit (.returned ()))
  | outcome => (sockets, .unit (outcome.map fun _ => ()))

def step (constants : SockoptConstants)
    (normalise : Option_ → BitVec 32 → BitVec 32) (sockets : Sockets)
    (call : Call) : Sockets × Answer :=
  match call.request with
  | .setUnit opt => setting sockets
      (setsockoptUnit constants normalise sockets call.sock opt call.refusal)
  | .setBool opt v => setting sockets
      (setsockopt constants normalise sockets call.sock opt v call.refusal)
  | .setInt opt v => setting sockets
      (setsockoptInt constants normalise sockets call.sock opt v call.refusal)
  | .getBool opt =>
      (sockets, .bool (getsockopt constants sockets call.sock opt call.refusal))
  | .getInt opt =>
      (sockets,
        .int (getsockoptInt constants sockets call.sock opt call.refusal))

def Request.option : Request → SocketIntOption_
  | .setUnit opt => makeSocketUnitOption opt
  | .setBool opt _ | .getBool opt => makeSocketBoolOption opt
  | .setInt opt _ | .getInt opt => makeSocketIntOption opt

def Request.given : Request → Option (BitVec 32)
  | .setUnit _ => some 0
  | .setBool _ v => some (if v then 1 else 0)
  | .setInt _ v => some (intVal v)
  | .getBool _ | .getInt _ => none

def Request.verb (request : Request) : String :=
  if request.given.isSome then "setsockopt" else "getsockopt"

def ended (constants : SockoptConstants) (verb : String)
    (opt : SocketIntOption_) (refusal : Option Errno) (value : α) : Outcome α :=
  if constants.opt opt = -1 ∨ refusal = some constants.ENOPROTOOPT then
    .notAvailable (verb ++ " " ++ stringOfSocketIntOption_ opt)
  else
    match refusal with
    | none => .returned value
    | some errno => .unixError errno (verb ++ "_int") []

def Call.expected (constants : SockoptConstants) (call : Call)
    (value : BitVec 32) : Outcome (BitVec 32) :=
  ended constants call.request.verb call.request.option call.refusal value

def Request.answer : Request → Outcome (BitVec 32) → Answer
  | .setUnit _, outcome | .setBool _ _, outcome | .setInt _ _, outcome =>
      .unit (outcome.map fun _ => ())
  | .getBool _, outcome => .bool (outcome.map fun value => value ≠ 0)
  | .getInt _, outcome => .int (outcome.map valInt)

/-- What a call of a history put there for an option of a socket. -/
def written (constants : SockoptConstants)
    (normalise : Option_ → BitVec 32 → BitVec 32) (fd : BitVec 32)
    (option : Option_) : Call × Answer → Option (BitVec 32)
  | (call, .unit (.returned ())) =>
      if intVal call.sock = fd ∧ constants.entry call.request.option = option
      then call.request.given.map (normalise option)
      else none
  | _ => none

section Steps

variable {constants : SockoptConstants}
  {normalise : Option_ → BitVec 32 → BitVec 32} (sockets : Sockets)

end Steps

end ExtUnix.Socket.Sockopt
