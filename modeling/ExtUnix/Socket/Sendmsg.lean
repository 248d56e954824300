import ExtUnix.Data.Machine
import ExtUnix.Data.Slots
import ExtUnix.Runtime.Stub
import Mathlib.Data.List.TakeDrop

namespace ExtUnix.Socket

open ExtUnix.Data
open ExtUnix.Runtime

/-! `sendmsg.c` and the functions over it, between the two ends of a Unix
datagram socket pair. -/

/-- A file descriptor is a non-negative C `int`. -/
abbrev Descriptor := Nat

/-- What `sendmsg.c` takes from the system's headers; `CMSG_SPACE` is defined. -/
structure Headers where
  SOL_SOCKET : BitVec 32
  SCM_RIGHTS : BitVec 32
  CMSG_LEN : Nat → Nat

structure Cmsghdr where
  len : Nat
  level : BitVec 32
  type : BitVec 32
  data : Descriptor

structure Msghdr where
  control : Option Cmsghdr
  controllen : Nat
  iov : List UInt8

def sizeofInt : Nat := 4

def EBADF : Errno := 9
def EINVAL : Errno := 22

variable {File : Type}

structure Message (File : Type) where
  bytes : List UInt8
  file : Option File

/-- `sendmsg(2)`, where nothing but the rights can be wrong.  `files` are the
open files of the sender. -/
def kernelSendmsg (headers : Headers) (files : Descriptor → Option File)
    (msg : Msghdr) : Except Errno (Message File) :=
  match msg.control with
  | none => .ok ⟨msg.iov, none⟩
  | some cmsg =>
      if cmsg.len = headers.CMSG_LEN sizeofInt ∧ cmsg.len ≤ msg.controllen ∧
          cmsg.level = headers.SOL_SOCKET ∧ cmsg.type = headers.SCM_RIGHTS then
        match files cmsg.data with
        | none => .error EBADF
        | some file => .ok ⟨msg.iov, some file⟩
      else .error EINVAL

/-- `recvmsg(2)` on a message: the buffer takes the first bytes of it, and a file
gets the lowest descriptor that is free at the receiver. -/
def kernelRecvmsg (headers : Headers) (message : Message File)
    (files : Slots File) (iovLen controllen : Nat) : Msghdr × Slots File :=
  let iov := message.bytes.take iovLen
  match message.file with
  | none => (⟨none, 0, iov⟩, files)
  | some file =>
      if headers.CMSG_LEN sizeofInt ≤ controllen then
        let (fd, installed) := files.insert file
        let cmsg : Cmsghdr := ⟨headers.CMSG_LEN sizeofInt, headers.SOL_SOCKET,
          headers.SCM_RIGHTS, fd⟩
        (⟨some cmsg, headers.CMSG_LEN sizeofInt, iov⟩, installed)
      else (⟨none, 0, iov⟩, files)

def ascii (text : String) : List UInt8 :=
  text.toList.map fun char => UInt8.ofNat char.toNat

structure UnixError where
  errno : Errno
  function : String
  argument : List UInt8
  deriving DecidableEq

/-- `caml_extunix_sendmsg`, up to the message the kernel makes of it. -/
def sendmsg (headers : Headers)
    (kernel : Msghdr → Except Errno (Message File))
    (sendfdVal : Option Descriptor) (dataVal : List UInt8) :
    Except UnixError (Message File) :=
  let control := sendfdVal.map fun sendfd =>
    ⟨headers.CMSG_LEN sizeofInt, headers.SOL_SOCKET, headers.SCM_RIGHTS, sendfd⟩
  let controllen := if sendfdVal.isSome then headers.CMSG_LEN sizeofInt else 0
  (kernel ⟨control, controllen, dataVal⟩).mapError (⟨·, "sendmsg", []⟩)

/-- `sizeof buf` in `caml_extunix_recvmsg`. -/
def bufferSize : Nat := 4096

def recvmsgResult (headers : Headers) (msg : Msghdr) :
    Except UnixError (Option Descriptor × List UInt8) :=
  match msg.control with
  | none => .ok (none, msg.iov)
  | some cmsgp =>
      if cmsgp.len ≠ headers.CMSG_LEN sizeofInt then
        .error ⟨EINVAL, "recvmsg", ascii "wrong descriptor size"⟩
      else if cmsgp.level ≠ headers.SOL_SOCKET ∨
          cmsgp.type ≠ headers.SCM_RIGHTS then
        .error ⟨EINVAL, "recvmsg", ascii "invalid protocol"⟩
      else .ok (some cmsgp.data, msg.iov)

def recvmsgStub (headers : Headers) (files : Slots File)
    (message : Message File) :
    Slots File × Except UnixError (Option Descriptor × List UInt8) :=
  let (msg, installed) := kernelRecvmsg headers message files bufferSize
    (headers.CMSG_LEN sizeofInt)
  (installed, recvmsgResult headers msg)

inductive Result where
  | pair (fd : Option Descriptor) (msg : List UInt8)
  | descriptor (fd : Descriptor)
  | message (msg : List UInt8)
  | raisedRecvfd (fd : Descriptor) (msg : List UInt8)
  | raisedUnixError (error : UnixError)
  deriving DecidableEq

abbrev Finished (File : Type) := Slots File × List Descriptor × Result

def closeThen (files : Slots File) (fd : Descriptor) (result : Result) :
    Finished File :=
  match files.lookup fd with
  | none => (files, [], .raisedUnixError ⟨EBADF, "close", []⟩)
  | some _ => (files.remove fd, [fd], result)

def recvmsgFd (files : Slots File) :
    Option Descriptor × List UInt8 → Finished File
  | (fd, msg) => (files, [], .pair fd msg)

def recvfd (files : Slots File) :
    Option Descriptor × List UInt8 → Finished File
  | (some recvfd, _) => (files, [], .descriptor recvfd)
  | _ =>
      (files, [], .raisedUnixError ⟨EINVAL, "recvfd", ascii "no descriptor"⟩)

def recvmsg (files : Slots File) :
    Option Descriptor × List UInt8 → Finished File
  | (none, msg) => (files, [], .message msg)
  | (some fd, msg) => (files, [], .raisedRecvfd fd msg)

def recvmsgNofd (files : Slots File) :
    Option Descriptor × List UInt8 → Finished File
  | (some fd, msg) => closeThen files fd (.message msg)
  | (none, msg) => (files, [], .message msg)

inductive Receiver where
  | recvmsgFd
  | recvfd
  | recvmsg
  | recvmsgNofd
  deriving DecidableEq

def Receiver.finish (receiver : Receiver) (files : Slots File)
    (received : Option Descriptor × List UInt8) : Finished File :=
  match receiver with
  | .recvmsgFd => Socket.recvmsgFd files received
  | .recvfd => Socket.recvfd files received
  | .recvmsg => Socket.recvmsg files received
  | .recvmsgNofd => Socket.recvmsgNofd files received

structure Connection (File : Type) where
  queue : List (Message File)
  files : Slots File

/-- One end sends, with the files it has open, or the other receives.  The kernel
may refuse either call. -/
inductive Action (File : Type) where
  | send (files : Descriptor → Option File) (sendfd : Option Descriptor)
      (data : List UInt8) (refusal : Option Errno)
  | receive (receiver : Receiver) (refusal : Option Errno)

/-- A receive that consumed a message: the files of the receiver before it, when
`recvmsg_fd` returned, and after it, and what `recvmsg_fd` found. -/
structure Reception (File : Type) where
  receiver : Receiver
  consumed : Message File
  before : Slots File
  installed : Slots File
  left : Slots File
  found : Option Descriptor
  closed : List Descriptor
  result : Result

/-- The arguments of a successful send: the bytes, and what the descriptor, if
one was given, stood for at the sender. -/
structure Sent (File : Type) where
  data : List UInt8
  sendfd : Option (Option File)

inductive Reply (File : Type) where
  | sent (arguments : Sent File)
  | received (reception : Reception File)
  | failed (error : UnixError)
  | waiting

def receive (headers : Headers) (files : Slots File) (receiver : Receiver)
    (message : Message File) : Reception File :=
  let (installed, outcome) := recvmsgStub headers files message
  match outcome with
  | .ok received =>
      let (left, closed, result) := receiver.finish installed received
      ⟨receiver, message, files, installed, left, received.1, closed, result⟩
  | .error error =>
      ⟨receiver, message, files, installed, installed, none, [],
        .raisedUnixError error⟩

/-- A receive on an empty queue waits, and is tried again later. -/
def step (headers : Headers) (state : Connection File) :
    Action File → Connection File × Reply File
  | .send files sendfd data refusal =>
      let kernel := fun msg =>
        match refusal with
        | some errno => .error errno
        | none => kernelSendmsg headers files msg
      match sendmsg headers kernel sendfd data with
      | .ok message =>
          (⟨state.queue ++ [message], state.files⟩,
            .sent ⟨data, sendfd.map files⟩)
      | .error error => (state, .failed error)
  | .receive receiver refusal =>
      match refusal, state.queue with
      | some errno, _ => (state, .failed ⟨errno, "recvmsg", []⟩)
      | none, [] => (state, .waiting)
      | none, message :: queue =>
          let reception := receive headers state.files receiver message
          (⟨queue, reception.left⟩, .received reception)

def sents (replies : List (Reply File)) : List (Sent File) :=
  replies.filterMap fun
    | .sent arguments => some arguments
    | _ => none

def receptions (replies : List (Reply File)) : List (Reception File) :=
  replies.filterMap fun
    | .received reception => some reception
    | _ => none

def Result.exposed : Result → Option (List UInt8)
  | .pair _ msg => some msg
  | .descriptor _ => none
  | .message msg => some msg
  | .raisedRecvfd _ msg => some msg
  | .raisedUnixError _ => none

def Result.handed : Result → List Descriptor
  | .pair fd _ => fd.toList
  | .descriptor fd => [fd]
  | .message _ => []
  | .raisedRecvfd fd _ => [fd]
  | .raisedUnixError _ => []

def Receiver.exposes : Receiver → Bool
  | .recvfd => false
  | _ => true

def Message.origin (message : Message File) : Sent File :=
  ⟨message.bytes, message.file.map some⟩

/-- The reception consumed the message that was sent, exposed its bytes, found
its file, and handed the descriptor to the caller or closed it: afterwards the
descriptors that were open before and those handed to the caller are open. -/
structure Reception.Delivers (reception : Reception File) (sent : Sent File) :
    Prop where
  consumed : reception.consumed.origin = sent
  exposed : reception.result.exposed =
    if reception.receiver.exposes then some sent.data else none
  found : reception.found.map reception.installed.lookup = sent.sendfd
  owned : reception.result.handed ++ reception.closed = reception.found.toList
  left : ∀ fd, reception.left.lookup fd =
    if fd ∈ reception.result.handed then reception.installed.lookup fd
    else reception.before.lookup fd

def InOrder (received : List (Reception File)) (sent : List (Sent File)) :
    Prop :=
  ∀ (k : Nat) reception, received[k]? = some reception →
    ∃ arguments, sent[k]? = some arguments ∧ reception.Delivers arguments

/-- A receive that exposes bytes finds a message that fits the buffer. -/
def Fits (state : Connection File) (action : Action File) : Prop :=
  match action, state.queue with
  | .receive receiver none, message :: _ =>
      receiver.exposes = true → message.bytes.length ≤ bufferSize
  | _, _ => True

theorem inOrder_nil (sent : List (Sent File)) : InOrder [] sent := by
  intro k reception received
  simp at received

theorem inOrder_cons (reception : Reception File)
    (received : List (Reception File)) (arguments : Sent File)
    (sent : List (Sent File)) :
    InOrder (reception :: received) (arguments :: sent) ↔
      reception.Delivers arguments ∧ InOrder received sent := by
  constructor
  · intro ordered
    refine ⟨?_, fun k later found => ordered (k + 1) later found⟩
    obtain ⟨first, isFirst, delivers⟩ := ordered 0 reception rfl
    cases isFirst
    exact delivers
  · rintro ⟨delivers, ordered⟩ k later found
    cases k with
    | zero =>
        cases found
        exact ⟨arguments, rfl, delivers⟩
    | succ k => exact ordered k later found

theorem sendmsg_origin {headers : Headers} {files : Descriptor → Option File}
    {sendfd : Option Descriptor} {data : List UInt8} {message : Message File}
    (sent : sendmsg headers (kernelSendmsg headers files) sendfd data =
      .ok message) :
    message.origin = ⟨data, sendfd.map files⟩ := by
  cases sendfd with
  | none =>
      cases sent
      rfl
  | some fd =>
      cases opened : files fd with
      | none => simp [sendmsg, kernelSendmsg, opened, Except.mapError] at sent
      | some file =>
          simp [sendmsg, kernelSendmsg, opened, Except.mapError] at sent
          rw [← sent]
          simp [Message.origin, opened]

theorem recvmsgStub_eq (headers : Headers) (files : Slots File)
    (message : Message File) :
    recvmsgStub headers files message =
      match message.file with
      | none => (files, .ok (none, message.bytes.take bufferSize))
      | some file =>
          ((files.insert file).2,
            .ok (some (files.insert file).1, message.bytes.take bufferSize)) := by
  obtain ⟨bytes, file⟩ := message
  cases file with
  | none => rfl
  | some file => simp [recvmsgStub, kernelRecvmsg, recvmsgResult]

section Receive

variable (headers : Headers) (files : Slots File) (receiver : Receiver)

theorem receive_eq (message : Message File) :
    receive headers files receiver message =
      let opened := message.file.map fun file => files.insert file
      let installed := (opened.map Prod.snd).getD files
      let finished := receiver.finish installed
        (opened.map Prod.fst, message.bytes.take bufferSize)
      ⟨receiver, message, files, installed, finished.1, opened.map Prod.fst,
        finished.2.1, finished.2.2⟩ := by
  rw [receive, recvmsgStub_eq]
  cases message.file <;> rfl

theorem closeThen_insert (file : File) (result : Result) :
    closeThen (files.insert file).2 (files.insert file).1 result =
      ((files.insert file).2.remove (files.insert file).1,
        [(files.insert file).1], result) := by
  simp [closeThen, Slots.lookup_insert]

theorem receive_found (message : Message File) :
    let reception := receive headers files receiver message
    reception.found.map reception.installed.lookup =
      message.file.map some := by
  rw [receive_eq]
  cases message.file with
  | none => rfl
  | some file => simp [Slots.lookup_insert]

theorem receive_exposed (message : Message File) :
    (receive headers files receiver message).result.exposed =
      if receiver.exposes then some (message.bytes.take bufferSize)
      else none := by
  rw [receive_eq]
  cases message.file <;> cases receiver <;>
    simp [Receiver.finish, recvmsgFd, recvfd, recvmsg, recvmsgNofd,
      closeThen_insert, Result.exposed, Receiver.exposes]

theorem receive_owned (message : Message File) :
    let reception := receive headers files receiver message
    reception.result.handed ++ reception.closed = reception.found.toList := by
  rw [receive_eq]
  cases message.file <;> cases receiver <;>
    simp [Receiver.finish, recvmsgFd, recvfd, recvmsg, recvmsgNofd,
      closeThen_insert, Result.handed]

theorem receive_left (message : Message File) (fd : Descriptor) :
    let reception := receive headers files receiver message
    reception.left.lookup fd =
      if fd ∈ reception.result.handed then reception.installed.lookup fd
      else reception.before.lookup fd := by
  rw [receive_eq]
  cases message.file with
  | none =>
      cases receiver <;>
        simp [Receiver.finish, recvmsgFd, recvfd, recvmsg, recvmsgNofd,
          Result.handed]
  | some file =>
      cases receiver
      case recvmsgNofd =>
        simp [Receiver.finish, recvmsgNofd, closeThen_insert, Result.handed,
          Slots.lookup_remove_insert]
      all_goals
        simp only [Receiver.finish, recvmsgFd, recvfd, recvmsg, Result.handed,
          Option.map_some, Option.getD_some, Option.toList_some,
          List.mem_singleton, Slots.lookup_insert]
        split_ifs <;> rfl

theorem receive_delivers_iff (message : Message File) :
    (receive headers files receiver message).Delivers message.origin ↔
      (receiver.exposes = true → message.bytes.length ≤ bufferSize) := by
  have same : (receive headers files receiver message).receiver = receiver ∧
      (receive headers files receiver message).consumed = message := by
    rw [receive_eq]
    exact ⟨rfl, rfl⟩
  have exposed := receive_exposed headers files receiver message
  constructor
  · intro delivers exposes
    have whole := delivers.exposed
    rw [exposed, same.1, if_pos exposes, if_pos exposes] at whole
    exact (List.take_eq_self_iff _).mp (Option.some.inj whole)
  · intro fits
    refine ⟨by rw [same.2], ?_, receive_found headers files receiver message,
      receive_owned headers files receiver message,
      receive_left headers files receiver message⟩
    rw [exposed, same.1]
    split_ifs with exposes
    · rw [List.take_of_length_le (fits exposes)]
      rfl
    · rfl

end Receive

/-- One step queues what was sent, consumes the head of the queue, or leaves the
connection alone. -/
theorem step_cases (headers : Headers) (state : Connection File)
    (action : Action File) :
    (∃ message : Message File,
      step headers state action =
        (⟨state.queue ++ [message], state.files⟩, .sent message.origin) ∧
      Fits state action) ∨
    (∃ receiver message queue,
      let reception := receive headers state.files receiver message
      state.queue = message :: queue ∧
      step headers state action =
        (⟨queue, reception.left⟩, .received reception) ∧
      (Fits state action ↔
        (receiver.exposes = true → message.bytes.length ≤ bufferSize))) ∨
    (∃ reply, step headers state action = (state, reply) ∧
      (∀ replies, sents (reply :: replies) = sents replies) ∧
      (∀ replies, receptions (reply :: replies) = receptions replies) ∧
      Fits state action) := by
  cases action with
  | send files sendfd data refusal =>
      cases refusal with
      | some errno => exact .inr (.inr ⟨_, rfl, fun _ => rfl, fun _ => rfl, trivial⟩)
      | none =>
          cases sent : sendmsg headers (kernelSendmsg headers files) sendfd
              data with
          | error error =>
              refine .inr (.inr ⟨.failed error, ?_, fun _ => rfl,
                fun _ => rfl, trivial⟩)
              simp only [step, sent]
          | ok message =>
              refine .inl ⟨message, ?_, trivial⟩
              simp only [step, sent, sendmsg_origin sent]
  | receive receiver refusal =>
      cases refusal with
      | some errno => exact .inr (.inr ⟨_, rfl, fun _ => rfl, fun _ => rfl, trivial⟩)
      | none =>
          obtain ⟨queue, files⟩ := state
          cases queue with
          | nil => exact .inr (.inr ⟨_, rfl, fun _ => rfl, fun _ => rfl, trivial⟩)
          | cons message queue =>
              exact .inr (.inl ⟨receiver, message, queue, rfl, rfl, Iff.rfl⟩)

theorem inOrder_run_iff (headers : Headers) (state : Connection File)
    (actions : List (Action File)) :
    InOrder (receptions (run (step headers) state actions).2)
        (state.queue.map Message.origin ++
          sents (run (step headers) state actions).2) ↔
      Along (step headers) Fits state actions := by
  induction actions generalizing state with
  | nil => exact ⟨fun _ => trivial, fun _ => inOrder_nil _⟩
  | cons action rest induction =>
      rw [along_cons, ← induction, run_cons]
      obtain ⟨message, taken, fits⟩ |
        ⟨receiver, message, queue, queued, taken, fits⟩ |
        ⟨reply, taken, unsent, unreceived, fits⟩ :=
          step_cases headers state action
      · rw [taken]
        simp [sents, receptions, fits]
      · rw [taken, queued, fits, ← receive_delivers_iff headers state.files]
        exact inOrder_cons _ _ _ _
      · rw [taken]
        simp only [unsent, unreceived, fits, true_and]

/-- From an empty socket on, the receives deliver the sends in order, along
exactly the runs in which every receive that exposes bytes finds a message that
fits the buffer. -/
theorem messages_delivered_iff (headers : Headers) (files : Slots File)
    (actions : List (Action File)) :
    let start : Connection File := ⟨[], files⟩
    let replies := (run (step headers) start actions).2
    InOrder (receptions replies) (sents replies) ↔
      Along (step headers) Fits start actions :=
  inOrder_run_iff headers ⟨[], files⟩ actions

/-- A message one byte longer than the buffer loses its last byte. -/
theorem long_message_truncated :
    let headers : Headers := ⟨1, 1, (· + 16)⟩
    let data : List UInt8 := List.replicate 4097 97
    let actions : List (Action Unit) :=
      [.send (fun _ => none) none data none, .receive .recvmsg none]
    let replies := (run (step headers) ⟨[], []⟩ actions).2
    (receptions replies).map (·.result) =
        [.message (List.replicate 4096 97)] ∧
      ¬InOrder (receptions replies) (sents replies) := by
  intro headers data actions replies
  have received : (receptions replies).map (·.result) =
      [.message (data.take bufferSize)] := rfl
  refine ⟨?_, ?_⟩
  · rw [received, List.take_replicate]
    rfl
  · intro ordered
    obtain ⟨-, fits, -⟩ := (inOrder_run_iff headers ⟨[], []⟩ actions).mp ordered
    have short : data.length ≤ bufferSize := fits rfl
    rw [List.length_replicate] at short
    exact absurd short (by decide)

end ExtUnix.Socket
