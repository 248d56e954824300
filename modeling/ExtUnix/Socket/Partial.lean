import ExtUnix.Socket.Sendmsg

namespace ExtUnix.Socket

open ExtUnix.Data
open ExtUnix.Runtime

/-! How much of a message a socket takes.  `sendmsg(2)` answers with an error or
with the number of bytes it accepted, and a stream may accept any prefix. -/

variable {File : Type}

/-- What a socket has accepted: one sequence of bytes, or one message after
another. -/
inductive Accepted where
  | stream (bytes : List UInt8)
  | datagrams (messages : List (List UInt8))
  deriving DecidableEq

def Accepted.push : Accepted → List UInt8 → Accepted
  | .stream bytes, more => .stream (bytes ++ more)
  | .datagrams messages, message => .datagrams (messages ++ [message])

theorem Accepted.push_inj {socket : Accepted} {first second : List UInt8} :
    socket.push first = socket.push second ↔ first = second := by
  cases socket <;> simp [Accepted.push]

structure Send where
  sendfd : Option Descriptor
  data : List UInt8
  answer : Except Errno (Fin (data.length + 1))

def Send.kernel (call : Send) (files : Descriptor → Option File)
    (msg : Msghdr) : Except Errno (Message File) :=
  call.answer.map fun count =>
    ⟨msg.iov.take count.val, msg.control.bind fun cmsg => files cmsg.data⟩

/-- `sendmsg` returns `()` whatever the count is. -/
def send (headers : Headers) (files : Descriptor → Option File)
    (socket : Accepted) (call : Send) : Accepted × Except UnixError Unit :=
  match sendmsg headers (call.kernel files) call.sendfd call.data with
  | .ok message => (socket.push message.bytes, .ok ())
  | .error error => (socket, .error error)

def LosesNothing (headers : Headers) (files : Descriptor → Option File)
    (socket : Accepted) (call : Send) : Prop :=
  (send headers files socket call).2 = .ok () →
    (send headers files socket call).1 = socket.push call.data

def Send.Whole (call : Send) : Prop :=
  ∀ count, call.answer = .ok count → count.val = call.data.length

section Send

variable (headers : Headers) (files : Descriptor → Option File)

theorem send_eq (socket : Accepted) (call : Send) :
    send headers files socket call =
      match call.answer with
      | .ok count => (socket.push (call.data.take count.val), .ok ())
      | .error errno => (socket, .error ⟨errno, "sendmsg", []⟩) := by
  rw [send, sendmsg, Send.kernel]
  cases call.answer <;> rfl

/-- A call loses part of its message exactly when the count is a short one. -/
theorem losesNothing_iff_whole (socket : Accepted) (call : Send) :
    LosesNothing headers files socket call ↔ call.Whole := by
  rw [LosesNothing, send_eq, Send.Whole]
  cases call.answer with
  | error errno =>
      refine iff_of_true ?_ ?_
      · intro returned
        exact nomatch returned
      · intro count answered
        exact nomatch answered
  | ok count =>
      simp only [Except.ok.injEq, forall_eq', true_imp_iff]
      rw [Accepted.push_inj, List.take_eq_self_iff]
      have bound := count.isLt
      omega

/-- A stream takes one byte of two, and the call returns. -/
theorem short_count_returns :
    let call : Send := ⟨none, [97, 98], .ok 1⟩
    let headers : Headers := ⟨1, 1, (· + 16)⟩
    let files : Descriptor → Option Unit := fun _ => none
    send headers files (.stream []) call = (.stream [97], .ok ()) ∧
      ¬LosesNothing headers files (.stream []) call := by
  intro call headers files
  have taken : send headers files (.stream []) call = (.stream [97], .ok ()) :=
    rfl
  refine ⟨taken, ?_⟩
  rw [LosesNothing, taken]
  intro whole
  exact absurd (whole rfl) (by decide)

/-- Without a short count, the socket accepts the messages of the calls that
return. -/
theorem accepted_run (socket : Accepted) (calls : List Send)
    (whole : ∀ call ∈ calls, call.Whole) :
    (run (send headers files) socket calls).1 =
      (calls.filter fun call => call.answer.isOk).foldl
        (fun socket call => socket.push call.data) socket := by
  induction calls generalizing socket with
  | nil => rfl
  | cons call rest induction =>
      rw [run_cons, List.filter_cons]
      rw [induction _ fun later member => whole later (.tail call member)]
      have complete := whole call (.head rest)
      rw [send_eq]
      cases answered : call.answer with
      | error errno => rfl
      | ok count =>
          dsimp only
          rw [complete count answered, List.take_length]
          rfl

end Send

end ExtUnix.Socket
