import ExtUnix.Runtime.Word

namespace ExtUnix.Transfer

open ExtUnix.Data
open ExtUnix.Runtime

/-! The kernel's side of a transfer. -/

/-- The `errno` values the transfer loops tell apart. -/
inductive Errno where
  | EINTR
  | EAGAIN
  | EWOULDBLOCK
  | other (code : Nat)
  deriving DecidableEq, Repr

/-- One `read`, `write`, `pread` or `pwrite` call as the kernel receives it.
`off` is present for the positional calls, `offered` for the writing ones. -/
structure Request where
  fd : BitVec 32
  off : Option (BitVec 64)
  asked : Nat
  offered : Option (List UInt8)
  deriving DecidableEq

/-- The kernel moves at most the bytes asked for; a writing call can only
accept a prefix of what it was offered. -/
inductive Reply (request : Request) where
  | moved (bytes : List UInt8)
      (bounded : bytes.length ≤ request.asked)
      (accepted : ∀ chunk ∈ request.offered, bytes <+: chunk)
  | failed (errno : Errno)

abbrev Answer := (request : Request) → Reply request

def Answer.interrupt : Answer := fun _ => .failed .EINTR

def Answer.deliver (bytes : List UInt8) : Answer := fun request =>
  match offered : request.offered with
  | none =>
      .moved (bytes.take request.asked) (List.length_take_le _ _)
        (by simp [offered])
  | some _ => .failed (.other 22)

def Answer.accept (count : Nat) : Answer := fun request =>
  match offered : request.offered with
  | none => .failed (.other 22)
  | some chunk =>
      .moved (chunk.take (min count request.asked))
        (by simp only [List.length_take]; omega)
        (by simp [offered, List.take_prefix])

inductive Result where
  | moved (bytes : List UInt8)
  | failed (errno : Errno)
  deriving DecidableEq

def Reply.result : Reply request → Result
  | .moved bytes _ _ => .moved bytes
  | .failed errno => .failed errno

def Result.bytes : Result → List UInt8
  | .moved bytes => bytes
  | .failed _ => []

/-- A system call that returned, with the buffer position it worked at. -/
structure Call where
  request : Request
  pos : BitVec 64
  result : Result
  deriving DecidableEq

/-- How a call into the library ends.  `outOfBounds` is a copy that leaves the
caller's buffer, `waiting` a system call the kernel has not answered yet. -/
inductive Ending where
  | returned (count : CamlInt)
  | unixError (errno : Errno) (name : String)
  | invalidArgument (message : String)
  | outOfBounds
  | waiting
  deriving DecidableEq

structure Run where
  ending : Ending
  buf : Buffer
  calls : List Call
  deriving DecidableEq

def Run.prepend (call : Call) (run : Run) : Run :=
  { run with calls := call :: run.calls }

@[simp] theorem Run.prepend_ending (call : Call) (run : Run) :
    (run.prepend call).ending = run.ending := rfl

@[simp] theorem Run.prepend_buf (call : Call) (run : Run) :
    (run.prepend call).buf = run.buf := rfl

@[simp] theorem Run.prepend_calls (call : Call) (run : Run) :
    (run.prepend call).calls = call :: run.calls := rfl

def bitOnce : BitVec 32 := 1 <<< 0
def bitNoError : BitVec 32 := 1 <<< 1
def bitNoIntr : BitVec 32 := 1 <<< 2

inductive Direction where
  | reading
  | writing
  deriving DecidableEq

/-- What tells the eight copies of the transfer loop apart: the direction, the
bounce buffer of the string variants, the file offset of the positional
variants, and the name given to `caml_uerror`. -/
structure Stub where
  direction : Direction
  iobuf : Option Nat
  positional : Bool
  name : String

/-- `numbytes` in the string variants, `len` itself in the bigarray ones. -/
def Stub.numbytes (stub : Stub) (len : BitVec 64) : Nat :=
  match stub.iobuf with
  | some size => if len.toNat > size then size else len.toNat
  | none => len.toNat

def Stub.offer (stub : Stub) (buf : Buffer) (pos : BitVec 64) (count : Nat) :
    Option (Option (List UInt8)) :=
  match stub.direction with
  | .reading => some none
  | .writing => (load buf pos count).map some

def Stub.accept (stub : Stub) (buf : Buffer) (pos : BitVec 64)
    (bytes : List UInt8) : Option Buffer :=
  match stub.direction with
  | .reading => store buf pos bytes
  | .writing => some buf

structure Registers where
  off : BitVec 64
  ofs : BitVec 64
  len : BitVec 64
  processed : BitVec 64
  deriving DecidableEq

def Registers.advance (registers : Registers) (ret : Nat) : Registers where
  off := registers.off + BitVec.ofNat 64 ret
  ofs := registers.ofs + BitVec.ofNat 64 ret
  len := registers.len - BitVec.ofNat 64 ret
  processed := registers.processed + BitVec.ofNat 64 ret

def Stub.request (stub : Stub) (fd : BitVec 32) (registers : Registers)
    (offered : Option (List UInt8)) : Request where
  fd := fd
  off := if stub.positional then some registers.off else none
  asked := stub.numbytes registers.len
  offered := offered

/-- `while(len > 0) { ... }` followed by `CAMLreturn(Val_long(processed))`.
Each iteration issues one system call and so consumes one answer. -/
def loop (stub : Stub) (fd mode : BitVec 32) (answers : List Answer)
    (registers : Registers) (buf : Buffer) : Run :=
  if registers.len = 0 then
    ⟨.returned (valLong registers.processed), buf, []⟩
  else
    match stub.offer buf registers.ofs (stub.numbytes registers.len) with
    | none => ⟨.outOfBounds, buf, []⟩
    | some offered =>
        match answers with
        | [] => ⟨.waiting, buf, []⟩
        | answer :: rest =>
            let request := stub.request fd registers offered
            let call : Call :=
              ⟨request, registers.ofs, (answer request).result⟩
            match answer request with
            | .failed errno =>
                if errno = .EINTR ∧ mode &&& bitNoIntr ≠ 0 then
                  (loop stub fd mode rest registers buf).prepend call
                else if 0 < registers.processed ∧
                    (errno = .EAGAIN ∨ errno = .EWOULDBLOCK) then
                  ⟨.returned (valLong registers.processed), buf, [call]⟩
                else if 0 < registers.processed ∧
                    mode &&& bitNoError ≠ 0 then
                  ⟨.returned (valLong registers.processed), buf, [call]⟩
                else
                  ⟨.unixError errno stub.name, buf, [call]⟩
            | .moved bytes _ _ =>
                if bytes.length = 0 then
                  ⟨.returned (valLong registers.processed), buf, [call]⟩
                else
                  match stub.accept buf registers.ofs bytes with
                  | none => ⟨.outOfBounds, buf, [call]⟩
                  | some stored =>
                      let advanced := registers.advance bytes.length
                      if mode &&& bitOnce ≠ 0 then
                        ⟨.returned (valLong advanced.processed), stored,
                          [call]⟩
                      else
                        (loop stub fd mode rest advanced stored).prepend call

/-! `unistd.c`: the loops over a string.  `unixBufferSize` is
`UNIX_BUFFER_SIZE`, which the OCaml runtime's headers define. -/

variable (unixBufferSize : Nat)

def preadCommon (vFd : CamlInt) (off : BitVec 64) (vBuf : Buffer)
    (vOfs vLen : CamlInt) (mode : BitVec 32) (answers : List Answer) : Run :=
  loop ⟨.reading, some unixBufferSize, true, "pread"⟩ (intVal vFd) mode answers
    ⟨off, longVal vOfs, longVal vLen, 0⟩ vBuf

def pwriteCommon (vFd : CamlInt) (off : BitVec 64) (vBuf : Buffer)
    (vOfs vLen : CamlInt) (mode : BitVec 32) (answers : List Answer) : Run :=
  loop ⟨.writing, some unixBufferSize, true, "pwrite"⟩ (intVal vFd) mode
    answers ⟨off, longVal vOfs, longVal vLen, 0⟩ vBuf

def readCommon (vFd : CamlInt) (vBuf : Buffer) (vOfs vLen : CamlInt)
    (mode : BitVec 32) (answers : List Answer) : Run :=
  loop ⟨.reading, some unixBufferSize, false, "read"⟩ (intVal vFd) mode answers
    ⟨0, longVal vOfs, longVal vLen, 0⟩ vBuf

def writeCommon (vFd : CamlInt) (vBuf : Buffer) (vOfs vLen : CamlInt)
    (mode : BitVec 32) (answers : List Answer) : Run :=
  loop ⟨.writing, some unixBufferSize, false, "write"⟩ (intVal vFd) mode
    answers ⟨0, longVal vOfs, longVal vLen, 0⟩ vBuf

/-! `pread_pwrite_ba.c`: the loops over a bigarray, whose data pointer the
kernel gets directly. -/

namespace BA

def preadCommon (vFd : CamlInt) (off : BitVec 64) (vBuf : Buffer)
    (mode : BitVec 32) (answers : List Answer) : Run :=
  loop ⟨.reading, none, true, "pread"⟩ (intVal vFd) mode answers
    ⟨off, 0, BitVec.ofNat 64 vBuf.data.length, 0⟩ vBuf

def pwriteCommon (vFd : CamlInt) (off : BitVec 64) (vBuf : Buffer)
    (mode : BitVec 32) (answers : List Answer) : Run :=
  loop ⟨.writing, none, true, "pwrite"⟩ (intVal vFd) mode answers
    ⟨off, 0, BitVec.ofNat 64 vBuf.data.length, 0⟩ vBuf

def readCommon (vFd : CamlInt) (vBuf : Buffer) (mode : BitVec 32)
    (answers : List Answer) : Run :=
  loop ⟨.reading, none, false, "read"⟩ (intVal vFd) mode answers
    ⟨0, 0, BitVec.ofNat 64 vBuf.data.length, 0⟩ vBuf

def writeCommon (vFd : CamlInt) (vBuf : Buffer) (mode : BitVec 32)
    (answers : List Answer) : Run :=
  loop ⟨.writing, none, false, "write"⟩ (intVal vFd) mode answers
    ⟨0, 0, BitVec.ofNat 64 vBuf.data.length, 0⟩ vBuf

end BA

end ExtUnix.Transfer
