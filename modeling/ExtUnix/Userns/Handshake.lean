import ExtUnix.Data.Steps

namespace ExtUnix.Userns

open ExtUnix.Data

/-! `go_in_userns`: the processes around `unshare`.  The parent forks a helper
that stays outside the new namespace and writes its user map, then the child
that goes on inside; one pipe carries the child's pid to the helper, another the
byte the child waits for. -/

inductive Idmap where
  | keepUser
  | idMap (id rangeid : Int)
  deriving DecidableEq

/-- A range of a user map: the first id inside, the first id outside, and the
number of ids. -/
structure Extent where
  inside : Int
  outside : Int
  count : Int
  deriving DecidableEq

def Idmap.extents (idmap : Idmap) (current : Int) : List Extent :=
  match idmap with
  | .keepUser => [⟨0, current, 1⟩]
  | .idMap id rangeid => [⟨0, current, 1⟩, ⟨1, id, rangeid⟩]

/-- `Unix.process_status`, without the stopped processes `waitpid` is not asked
for. -/
inductive Status where
  | exited (code : Nat)
  | signaled (signal : Nat)
  deriving DecidableEq

def sigkill : Nat := 9
def sigpipe : Nat := 13

/-- Where the parent is: in `exec_in_child`, at `unshare`, or in
`goto_child`. -/
inductive Parent where
  | spawning
  | unsharing
  | forking
  | sending
  | awaitingHelper
  | releasing
  | closing
  | awaitingChild
  | ended (status : Status)
  deriving DecidableEq

/-- Where the helper is: before or in `set_usermap`, or in its `error`. -/
inductive Helper where
  | absent
  | starting
  | receiving
  | mappingUid (pid : Nat)
  | mappingGid (pid : Nat)
  | killing (pid : Nat)
  | exiting
  | ended (status : Status)
  deriving DecidableEq

/-- Where the child is: in `goto_child`, or `inside`, past it. -/
inductive Child where
  | absent
  | starting
  | waiting
  | closing
  | inside
  | ended (status : Status)
  deriving DecidableEq

structure State where
  parent : Parent
  helper : Helper
  child : Child
  message : Option Nat
  token : Bool
  uidMap : Option (List Extent)
  gidMap : Option (List Extent)
  deriving DecidableEq

structure Setup where
  idmap : Idmap
  uid : Int
  gid : Int
  pid : Nat

def initial : State where
  parent := .spawning
  helper := .absent
  child := .absent
  message := none
  token := false
  uidMap := none
  gidMap := none

def Parent.holdsMessage : Parent → Bool
  | .unsharing | .forking | .sending => true
  | _ => false

def Parent.holdsToken : Parent → Bool
  | .sending | .awaitingHelper | .releasing | .closing => true
  | _ => false

def Child.running : Child → Bool
  | .absent | .ended _ => false
  | _ => true

/-- The child has the parent's end of the first pipe from the `fork`, and keeps
it. -/
def State.messageEnds (state : State) : Bool :=
  !state.parent.holdsMessage && !state.child.running

def State.tokenEnds (state : State) : Bool := !state.parent.holdsToken

/-! The three programs.  `ok` is whether the system call at that place
succeeds. -/

def Parent.afterHelper (ok : Bool) : Status → Parent
  | .exited 0 => .releasing
  | .exited code => .ended (.exited code)
  | .signaled signal => .ended (if ok then .signaled signal else .exited 2)

def Parent.afterChild (ok : Bool) : Status → Parent
  | .exited code => .ended (.exited code)
  | .signaled signal => .ended (if ok then .signaled signal else .exited 2)

def parentStep (setup : Setup) (ok : Bool) (state : State) : Option State :=
  match state.parent with
  | .spawning =>
      if ok then some { state with parent := .unsharing, helper := .starting }
      else some { state with parent := .ended (.exited 2) }
  | .unsharing =>
      if ok then some { state with parent := .forking }
      else some { state with parent := .ended (.exited 2) }
  | .forking =>
      if ok then some { state with parent := .sending, child := .starting }
      else some { state with parent := .ended (.exited 2) }
  | .sending =>
      match state.helper with
      | .ended _ => some { state with parent := .ended (.signaled sigpipe) }
      | _ =>
          some { state with
            parent := .awaitingHelper, message := some setup.pid }
  | .awaitingHelper =>
      match state.helper with
      | .ended status => some { state with parent := .afterHelper ok status }
      | _ => none
  | .releasing =>
      match state.child with
      | .ended _ => some { state with parent := .ended (.signaled sigpipe) }
      | _ => some { state with parent := .closing, token := true }
  | .closing => some { state with parent := .awaitingChild }
  | .awaitingChild =>
      match state.child with
      | .ended status => some { state with parent := .afterChild ok status }
      | _ => none
  | .ended _ => none

/-- `write_in_file` ends the helper; `error` first kills the child. -/
def Setup.failing (setup : Setup) (pid : Nat) : Helper :=
  match setup.idmap with
  | .keepUser => .ended (.exited 1)
  | .idMap _ _ => .killing pid

def Child.killed (child : Child) : Child :=
  if child.running then .ended (.signaled sigkill) else child

def helperStep (setup : Setup) (ok : Bool) (state : State) : Option State :=
  match state.helper with
  | .absent => none
  | .starting => some { state with helper := .receiving }
  | .receiving =>
      match state.message with
      | some pid =>
          some { state with helper := .mappingUid pid, message := none }
      | none =>
          if state.messageEnds then
            some { state with helper := .ended (.exited 2) }
          else none
  | .mappingUid pid =>
      if ok then
        some { state with
          helper := .mappingGid pid,
          uidMap := some (setup.idmap.extents setup.uid) }
      else some { state with helper := setup.failing pid }
  | .mappingGid pid =>
      if ok then
        some { state with
          helper := .exiting,
          gidMap := some (setup.idmap.extents setup.gid) }
      else some { state with helper := setup.failing pid }
  | .killing pid =>
      some { state with
        helper := .ended (.exited 1),
        child := if pid = setup.pid then state.child.killed else state.child }
  | .exiting => some { state with helper := .ended (.exited 0) }
  | .ended _ => none

/-- The result of `Unix.read` is ignored, so the end of the pipe releases the
child as well.  `code` is what the rest of the program exits with. -/
def childStep (code : Nat) (state : State) : Option State :=
  match state.child with
  | .absent => none
  | .starting => some { state with child := .waiting }
  | .waiting =>
      if state.token then some { state with child := .closing, token := false }
      else if state.tokenEnds then some { state with child := .closing }
      else none
  | .closing => some { state with child := .inside }
  | .inside => some { state with child := .ended (.exited code) }
  | .ended _ => none

/-- What ends the helper in the middle of `set_usermap`: an exception, after
which it exits with 2, or an error message to a pipe that nobody reads. -/
inductive Loss where
  | exception
  | output
  deriving DecidableEq

def Loss.status : Loss → Status
  | .exception => .exited 2
  | .output => .signaled sigpipe

/-- `Marshal.from_channel`, `Sys.command`, `eprintf` and `kill` may raise; there
is a message only where a map could not be written. -/
def Helper.mayLose : Helper → Loss → Bool
  | .starting, .exception | .receiving, .exception => true
  | .mappingUid _, _ | .mappingGid _, _ => true
  | .killing _, .exception => true
  | _, _ => false

inductive Action where
  | parent (ok : Bool)
  | helper (ok : Bool)
  | child (code : Nat)
  | raiseParent
  | loseHelper (loss : Loss)
  | raiseChild
  | signalParent (signal : Nat)
  | signalHelper (signal : Nat)
  | signalChild (signal : Nat)
  deriving DecidableEq

def Action.isOwn : Action → Bool
  | .signalParent _ | .signalHelper _ | .signalChild _ => false
  | _ => true

def Action.isLoss : Action → Bool
  | .raiseParent | .loseHelper _ | .raiseChild => true
  | _ => false

def State.endParent (state : State) (status : Status) : Option State :=
  match state.parent with
  | .ended _ => none
  | _ => some { state with parent := .ended status }

def State.endHelper (state : State) (status : Status) : Option State :=
  match state.helper with
  | .absent | .ended _ => none
  | _ => some { state with helper := .ended status }

def State.endChild (state : State) (status : Status) : Option State :=
  match state.child with
  | .absent | .ended _ => none
  | _ => some { state with child := .ended status }

/-- Parent and child may raise wherever they are: in `close`, `read`, `write`,
`waitpid` or `kill`. -/
def step (setup : Setup) (state : State) : Action → Option State
  | .parent ok => parentStep setup ok state
  | .helper ok => helperStep setup ok state
  | .child code => childStep code state
  | .raiseParent => state.endParent (.exited 2)
  | .loseHelper loss =>
      if state.helper.mayLose loss then state.endHelper loss.status else none
  | .raiseChild => state.endChild (.exited 2)
  | .signalParent signal => state.endParent (.signaled signal)
  | .signalHelper signal => state.endHelper (.signaled signal)
  | .signalChild signal => state.endChild (.signaled signal)

end ExtUnix.Userns
