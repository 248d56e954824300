import ExtUnix.Data.Interleave
import ExtUnix.Transfer.File
import Mathlib.Data.List.Dedup

namespace ExtUnix.Transfer

open ExtUnix.Data
open ExtUnix.Runtime

/-! Transfers of several threads.  The stubs leave the runtime during every
system call, so the calls of one transfer and those of the others take effect
in any order. -/

structure Job where
  kind : Kind
  direction : Direction
  off : CamlInt
  fd : CamlInt
  target : Target
  answers : List Answer

namespace Job

def run (unixBufferSize : Nat) (job : Job) : Run :=
  transfer unixBufferSize job.kind (job.direction.positional job.off) job.fd
    job.target job.answers

def Accepted (job : Job) : Prop :=
  job.target.Accepts (job.direction.positional job.off)

def Answered (unixBufferSize : Nat) (job : Job) : Prop :=
  Consumes (transfer unixBufferSize job.kind (job.direction.positional job.off)
    job.fd job.target) job.answers

theorem answered (unixBufferSize : Nat) {job : Job} (accepted : job.Accepted) :
    job.Answered unixBufferSize :=
  transfer_consumes unixBufferSize job.kind job.fd job.answers accepted

def first (job : Job) : Nat := job.off.toInt.toNat

def Disjoint (job other : Job) : Prop :=
  job.first + job.target.size ≤ other.first ∨
    other.first + other.target.size ≤ job.first

end Job

def Call.position (call : Call) : Nat :=
  (call.request.off.map BitVec.toNat).getD 0

def fileStep (contents : List UInt8) (call : Call) : List UInt8 :=
  match call.request.offered with
  | none => contents
  | some _ => overlay 0 contents call.position call.result.bytes

theorem fileStep_reading (contents : List UInt8) {call : Call}
    (reading : call.request.offered = none) :
    fileStep contents call = contents := by
  simp [fileStep, reading]

theorem fileStep_writing (contents : List UInt8) {call : Call}
    (writing : call.request.offered ≠ none) :
    fileStep contents call =
      overlay 0 contents call.position call.result.bytes := by
  obtain ⟨chunk, offered⟩ := Option.ne_none_iff_exists'.mp writing
  simp [fileStep, offered]

@[simp] theorem stub_direction (direction : Direction) (off : CamlInt)
    (iobuf : Option Nat) :
    ((direction.positional off).stub iobuf).direction = direction := by
  cases direction <;> rfl

section Calls

variable {unixBufferSize : Nat} {job : Job}

theorem Job.intact (unixBufferSize : Nat) {job : Job}
    (accepted : job.Accepted) :
    Intact ((job.direction.positional job.off).stub
        (job.target.iobuf unixBufferSize))
      (intVal job.fd)
      (job.target.registers (job.direction.positional job.off))
      job.target.buf (job.run unixBufferSize) :=
  transfer_intact rfl accepted

theorem Job.transferred_length (unixBufferSize : Nat) {job : Job}
    (accepted : job.Accepted) :
    (transferred (job.run unixBufferSize).calls).length ≤ job.target.size := by
  have bounded := (Job.intact unixBufferSize accepted).bounded
  rwa [Target.toNat_registers_len accepted] at bounded

/-- A call moves its bytes inside the range of its job. -/
theorem Job.call_within (accepted : job.Accepted) {call : Call}
    (member : call ∈ (job.run unixBufferSize).calls) :
    job.first ≤ call.position ∧
      call.position + call.result.bytes.length ≤
        job.first + job.target.size := by
  obtain ⟨index, found⟩ := List.mem_iff_getElem?.mp member
  obtain ⟨word, positioned, place⟩ := call_off rfl accepted found
  have total := Job.transferred_length unixBufferSize accepted
  have cut : (job.run unixBufferSize).calls =
      (job.run unixBufferSize).calls.take index ++
        call :: (job.run unixBufferSize).calls.drop (index + 1) := by
    obtain ⟨bound, equal⟩ := List.getElem?_eq_some_iff.mp found
    rw [← equal, List.getElem_cons_drop, List.take_append_drop]
  rw [cut, transferred_append, transferred_cons] at total
  simp only [List.length_append] at total
  have position : call.position = word.toNat := by
    simp [Call.position, positioned]
  rw [position, place]
  change job.first ≤ job.first + _ ∧ job.first + _ + _ ≤ _
  have same : transfer unixBufferSize job.kind
      (job.direction.positional job.off) job.fd job.target job.answers =
      job.run unixBufferSize := rfl
  rw [same]
  omega

theorem Job.call_direction (roomy : 0 < unixBufferSize)
    (accepted : job.Accepted) {call : Call}
    (member : call ∈ (job.run unixBufferSize).calls) :
    call.request.offered = none ↔ job.direction = .reading := by
  have requested : Requested (job.direction.positional job.off).direction
      call.request :=
    call_requested roomy job.kind job.fd job.answers accepted call member
  cases direction : job.direction with
  | reading =>
      rw [direction] at requested
      simp [requested.reading rfl]
  | writing =>
      rw [direction] at requested
      obtain ⟨chunk, offered, -⟩ := requested.writing rfl
      simp [offered]

theorem Job.calls_commute {other : Job} (accepted : job.Accepted)
    (otherAccepted : other.Accepted)
    (apart : job.direction = .writing → other.direction = .writing →
      job.Disjoint other) (roomy : 0 < unixBufferSize) {call : Call}
    (member : call ∈ (job.run unixBufferSize).calls) :
    CommutesWith fileStep call (other.run unixBufferSize).calls := by
  intro next among contents
  by_cases reads : call.request.offered = none
  · rw [fileStep_reading _ reads, fileStep_reading _ reads]
  by_cases nextReads : next.request.offered = none
  · rw [fileStep_reading _ nextReads, fileStep_reading _ nextReads]
  have writing : job.direction = .writing := by
    have := mt (Job.call_direction roomy accepted member).mpr reads
    cases direction : job.direction <;> simp_all
  have otherWriting : other.direction = .writing := by
    have := mt (Job.call_direction roomy otherAccepted among).mpr nextReads
    cases direction : other.direction <;> simp_all
  have within := Job.call_within accepted member
  have otherWithin := Job.call_within otherAccepted among
  rw [fileStep_writing _ reads, fileStep_writing _ nextReads,
    fileStep_writing _ reads, fileStep_writing _ nextReads]
  apply overlay_comm
  rcases apart writing otherWriting with before | after
  · exact .inl (by omega)
  · exact .inr (by omega)

theorem Job.foldl_fileStep (roomy : 0 < unixBufferSize)
    (accepted : job.Accepted) (writes : job.direction = .writing)
    (contents : List UInt8) :
    (job.run unixBufferSize).calls.foldl fileStep contents =
      overlay 0 contents job.first
        (transferred (job.run unixBufferSize).calls) := by
  have offered : ∀ call ∈ (job.run unixBufferSize).calls,
      call.request.offered ≠ none := by
    intro call member reads
    have := (Job.call_direction roomy accepted member).mp reads
    simp [writes] at this
  have same : (job.run unixBufferSize).calls.foldl fileStep contents =
      written contents (job.run unixBufferSize).calls := by
    apply List.foldl_ext
    intro before call member
    exact fileStep_writing before (offered call member)
  rw [same]
  have ran : transfer unixBufferSize job.kind
      (Direction.writing.positional job.off) job.fd job.target job.answers =
      job.run unixBufferSize := by rw [Job.run, writes]
  exact pwrite_written ran (by rw [← writes]; exact accepted) contents

end Calls

section Threads

variable {τ : Type} {unixBufferSize : Nat} {jobs : τ → Job}
  {history : List (τ × Call)}

theorem perform_outside (roomy : 0 < unixBufferSize)
    (accepted : ∀ thread, (jobs thread).Accepted)
    (calls : ∀ event ∈ history,
      event.2 ∈ ((jobs event.1).run unixBufferSize).calls)
    {file : List UInt8} {index : Nat} (inside : index < file.length)
    (outside : ∀ thread, (jobs thread).direction = .writing →
      index < (jobs thread).first ∨
        (jobs thread).first + (jobs thread).target.size ≤ index) :
    (perform fileStep file history)[index]? = file[index]? := by
  refine perform_keeps (fun contents => contents[index]? = file[index]?)
    (fun event member contents kept => ?_) rfl
  by_cases reads : event.2.request.offered = none
  · rwa [fileStep_reading _ reads]
  have among := calls event member
  have within := Job.call_within (accepted event.1) among
  have writing : (jobs event.1).direction = .writing := by
    have := mt (Job.call_direction roomy (accepted event.1) among).mpr reads
    cases direction : (jobs event.1).direction <;> simp_all
  have bound : index < contents.length := by
    by_contra beyond
    rw [List.getElem?_eq_none (Nat.not_lt.mp beyond)] at kept
    rw [List.getElem?_eq_getElem inside] at kept
    cases kept
  rw [fileStep_writing _ reads, getElem?_overlay_outside _ _ bound, kept]
  rcases outside event.1 writing with before | after
  · exact .inl (by omega)
  · exact .inr (by omega)

variable [DecidableEq τ]

abbrev Interleaved (unixBufferSize : Nat) (jobs : τ → Job)
    (history : List (τ × Call)) : Prop :=
  Interleaves (fun thread => ((jobs thread).run unixBufferSize).calls) history

def WritersDisjoint (jobs : τ → Job) : Prop :=
  ∀ first second, first ≠ second → (jobs first).direction = .writing →
    (jobs second).direction = .writing → (jobs first).Disjoint (jobs second)

theorem independent_jobs (roomy : 0 < unixBufferSize)
    (accepted : ∀ thread, (jobs thread).Accepted)
    (disjoint : WritersDisjoint jobs)
    (interleaved : Interleaved unixBufferSize jobs history) :
    Independent fileStep (actions · history) := by
  intro first second distinct call member
  simp only [interleaved first] at member
  simp only [interleaved second]
  exact Job.calls_commute (accepted first) (accepted second)
    (disjoint first second distinct) roomy member

theorem call_of_event (interleaved : Interleaved unixBufferSize jobs history)
    {event : τ × Call} (member : event ∈ history) :
    event.2 ∈ ((jobs event.1).run unixBufferSize).calls := by
  have own : actions event.1 history =
      ((jobs event.1).run unixBufferSize).calls := interleaved event.1
  rw [← own]
  exact mem_actions.mpr member

theorem slice_perform (roomy : 0 < unixBufferSize)
    (accepted : ∀ thread, (jobs thread).Accepted)
    (disjoint : WritersDisjoint jobs)
    (interleaved : Interleaved unixBufferSize jobs history) {thread : τ}
    (writes : (jobs thread).direction = .writing) (file : List UInt8) :
    let sent := transferred ((jobs thread).run unixBufferSize).calls
    slice (perform fileStep file history) (jobs thread).first sent.length =
      sent := by
  intro sent
  -- The order in which this thread comes last shows its bytes.
  let others := (history.map Prod.fst).dedup.erase thread
  have nodup : (others ++ [thread]).Nodup := by
    have once := (List.nodup_dedup (history.map Prod.fst)).erase thread
    refine List.nodup_append.mpr ⟨once, by simp, ?_⟩
    rintro first member second among rfl
    rw [List.mem_singleton] at among
    subst among
    exact (List.nodup_dedup _).not_mem_erase member
  have complete : ∀ event ∈ history, event.1 ∈ others ++ [thread] := by
    intro event member
    by_cases same : event.1 = thread
    · simp [same]
    · rw [List.mem_append, List.mem_erase_of_ne same, List.mem_dedup]
      exact .inl (List.mem_map_of_mem member)
  rw [perform_serial (independent_jobs roomy accepted disjoint interleaved)
    nodup complete, serial, List.foldl_append, List.foldl_cons, List.foldl_nil,
    interleaved thread, Job.foldl_fileStep roomy (accepted thread) writes]
  exact slice_overlay 0 _ _ _

/-- What the system call of a reading job returns is in the file at that
moment. -/
def ReadsCurrent (file : List UInt8) (history : List (τ × Call)) : Prop :=
  Throughout fileStep (fun contents call => call.request.offered = none →
    call.result.bytes =
      slice contents call.position call.result.bytes.length) file history

theorem transferred_isolated (roomy : 0 < unixBufferSize)
    (accepted : ∀ thread, (jobs thread).Accepted)
    (interleaved : Interleaved unixBufferSize jobs history)
    {file : List UInt8} (current : ReadsCurrent file history) {thread : τ}
    (reads : (jobs thread).direction = .reading)
    (inside : (jobs thread).first + (jobs thread).target.size ≤ file.length)
    (apart : ∀ other, (jobs other).direction = .writing →
      (jobs thread).Disjoint (jobs other)) :
    let received := transferred ((jobs thread).run unixBufferSize).calls
    received = slice file (jobs thread).first received.length := by
  intro received
  have whole : received = (((jobs thread).run unixBufferSize).calls.map
      fun call => call.result.bytes).flatten := List.flatMap_def
  rw [whole]
  apply flatten_eq_slice
  intro index piece found
  rw [List.getElem?_map, Option.map_eq_some_iff] at found
  obtain ⟨call, at_, rfl⟩ := found
  have member := List.mem_of_getElem? at_
  have within := Job.call_within (accepted thread) member
  obtain ⟨word, positioned, place⟩ := call_off rfl (accepted thread) at_
  have position : call.position = (jobs thread).first +
      (transferred (((jobs thread).run unixBufferSize).calls.take
        index)).length := by
    rw [Call.position, positioned]
    exact place
  have taken : ((((jobs thread).run unixBufferSize).calls.map
      fun call => call.result.bytes).take index).flatten =
        transferred (((jobs thread).run unixBufferSize).calls.take index) := by
    rw [← List.map_take, ← List.flatMap_def]
    rfl
  rw [taken, ← position]
  have own : actions thread history =
      ((jobs thread).run unixBufferSize).calls := interleaved thread
  have event : (thread, call) ∈ history := by
    rw [← mem_actions, own]
    exact member
  obtain ⟨before, after, split⟩ := List.append_of_mem event
  rw [split] at current
  have delivered : call.result.bytes =
      slice (perform fileStep file before) call.position
        call.result.bytes.length := current.of_append
    ((Job.call_direction roomy (accepted thread) member).mpr reads)
  refine delivered.trans (slice_congr fun offset lower upper => ?_)
  refine perform_outside roomy accepted ?_ (by omega) ?_
  · intro earlier among
    exact call_of_event interleaved (by simp [split, among])
  · intro other writes
    rcases apart other writes with below | above
    · exact .inl (by omega)
    · exact .inr (by omega)

/-- Threads that write to disjoint ranges of a file leave what they leave when
they run one after the other, in any order; a writer that returns a count finds
that many of its bytes in the file, and what is in no writer's range stays.  Each
thread's calls have the kernel's answers to it in turn. -/
theorem pwrites_serializable (roomy : 0 < unixBufferSize)
    (accepted : ∀ thread, (jobs thread).Accepted)
    (disjoint : WritersDisjoint jobs)
    (interleaved : Interleaved unixBufferSize jobs history)
    (file : List UInt8) :
    let contents := perform fileStep file history
    (∀ thread, (jobs thread).Answered unixBufferSize) ∧
    (∀ order : List τ, order.Nodup → (∀ event ∈ history, event.1 ∈ order) →
      contents = serial fileStep
        (fun thread => ((jobs thread).run unixBufferSize).calls) file order) ∧
    (∀ thread count, (jobs thread).direction = .writing →
      ((jobs thread).run unixBufferSize).ending = .returned count →
      slice contents (jobs thread).first count.toInt.toNat =
        slice (jobs thread).target.buf.data (jobs thread).target.start
          count.toInt.toNat) ∧
    ∀ index, index < file.length →
      (∀ thread, (jobs thread).direction = .writing →
        index < (jobs thread).first ∨
          (jobs thread).first + (jobs thread).target.size ≤ index) →
      contents[index]? = file[index]? := by
  refine ⟨fun thread => Job.answered unixBufferSize (accepted thread),
    fun order nodup complete => ?_, fun thread count writes returned => ?_,
    fun index inside outside => ?_⟩
  · rw [perform_serial (independent_jobs roomy accepted disjoint interleaved)
      nodup complete]
    exact serial_congr (fun thread _ => interleaved thread) file
  · have intact := Job.intact unixBufferSize (accepted thread)
    have total := intact.counted count returned
    have sent := intact.sent ((stub_direction ..).trans writes)
    rw [Target.toNat_registers_ofs (accepted thread)] at sent
    have moved : count.toInt.toNat =
        (transferred ((jobs thread).run unixBufferSize).calls).length := by
      simp only [Target.registers_processed] at total
      simp [total]
    rw [moved, slice_perform roomy accepted disjoint interleaved writes file]
    exact sent
  · exact perform_outside roomy accepted
      (fun event member => call_of_event interleaved member) inside outside

/-- Two threads fill the halves of a file; the second writes between the two
calls of the first. -/
theorem pwrites_serializable_pair :
    let jobs : Bool → Job := fun thread =>
      if thread then ⟨.all, .writing, 0, 3, .bigarray ⟨[1, 2], by decide⟩,
        [.accept 1, .accept 1]⟩
      else ⟨.all, .writing, 2, 3, .bigarray ⟨[3, 4], by decide⟩,
        [.interrupt, .accept 2]⟩
    let calls := fun thread => ((jobs thread).run 65536).calls
    let history := (calls true).take 1 |>.map (true, ·)
      |> (· ++ (calls false).map (false, ·))
      |> (· ++ ((calls true).drop 1).map (true, ·))
    perform fileStep [9] history = [1, 2, 3, 4] := by
  intro jobs calls history
  have accepted : ∀ thread, (jobs thread).Accepted := by
    intro thread
    cases thread
    all_goals
      rintro off ⟨⟩
      decide
  have disjoint : WritersDisjoint jobs := by
    intro first second distinct
    cases first <;> cases second
    · exact absurd rfl distinct
    · exact fun _ _ => .inr (by decide)
    · exact fun _ _ => .inl (by decide)
    · exact absurd rfl distinct
  have interleaved : Interleaved 65536 jobs history := by
    intro thread
    cases thread <;> decide
  have serializable :=
    pwrites_serializable (by decide) accepted disjoint interleaved [9]
  rw [serializable.2.1 [true, false] (by decide) (by simp)]
  decide

/-- A reader whose range lies in the file, and meets no writer's range, ends
with the bytes the file had there before any of the threads started. -/
theorem pread_isolated (roomy : 0 < unixBufferSize)
    (accepted : ∀ thread, (jobs thread).Accepted)
    (interleaved : Interleaved unixBufferSize jobs history)
    {file : List UInt8} (current : ReadsCurrent file history) {thread : τ}
    (reads : (jobs thread).direction = .reading)
    (inside : (jobs thread).first + (jobs thread).target.size ≤ file.length)
    (apart : ∀ other, (jobs other).direction = .writing →
      (jobs thread).Disjoint (jobs other)) :
    let run := (jobs thread).run unixBufferSize
    let moved := (transferred run.calls).length
    (jobs thread).Answered unixBufferSize ∧
      run.buf.data = splice (jobs thread).target.buf.data
        (jobs thread).target.start (slice file (jobs thread).first moved) ∧
      moved ≤ (jobs thread).target.size ∧
      ∀ count, run.ending = .returned count → count.toInt = moved := by
  intro run moved
  have intact := Job.intact unixBufferSize (accepted thread)
  have received := transferred_isolated roomy accepted interleaved current reads
    inside apart
  refine ⟨Job.answered unixBufferSize (accepted thread), ?_,
    Job.transferred_length _ (accepted thread), fun count returned => ?_⟩
  · have stored := intact.stored
    rw [Target.toNat_registers_ofs (accepted thread), stub_direction] at stored
    simp only [reads] at stored
    rw [← received]
    exact stored
  · have total := intact.counted count returned
    simpa using total

/-- A read of two bytes, with a write behind it after the first. -/
theorem pread_isolated_pair :
    let jobs : Bool → Job := fun thread =>
      if thread then ⟨.all, .writing, 2, 3, .bigarray ⟨[8], by decide⟩,
        [.accept 1]⟩
      else ⟨.all, .reading, 0, 3, .bigarray ⟨[0, 0], by decide⟩,
        [.deliver [5], .deliver [6]]⟩
    ((jobs false).run 65536).buf.data = [5, 6] := by
  intro jobs
  let calls := fun thread => ((jobs thread).run 65536).calls
  let history := (calls false).take 1 |>.map (false, ·)
    |> (· ++ (calls true).map (true, ·))
    |> (· ++ ((calls false).drop 1).map (false, ·))
  have accepted : ∀ thread, (jobs thread).Accepted := by
    intro thread
    cases thread
    all_goals
      rintro off ⟨⟩
      decide
  have interleaved : Interleaved 65536 jobs history := by
    intro thread
    cases thread <;> decide
  have current : ReadsCurrent [5, 6, 7] history := by
    unfold ReadsCurrent
    decide
  have reads : (jobs false).direction = .reading := rfl
  have isolated := pread_isolated (by decide) accepted interleaved current
    reads (by decide) (by
      intro other writes
      cases other
      · exact absurd writes (by decide)
      · exact .inl (by decide))
  rw [isolated.2.1]
  decide

end Threads

end ExtUnix.Transfer
