import ExtUnix.Runtime.Stub

namespace ExtUnix.Process.Time

open ExtUnix.Runtime

/-! `strftime`, `asctime` and `timegm` of `time.c`.  `Extra` stands for the fields
that a platform's `struct tm` has beyond the standard ones. -/

structure UnixTm where
  tmSec : CamlInt
  tmMin : CamlInt
  tmHour : CamlInt
  tmMday : CamlInt
  tmMon : CamlInt
  tmYear : CamlInt
  tmWday : CamlInt
  tmYday : CamlInt
  tmIsdst : Bool

structure Tm (Extra : Type) where
  tmSec : BitVec 32
  tmMin : BitVec 32
  tmHour : BitVec 32
  tmMday : BitVec 32
  tmMon : BitVec 32
  tmYear : BitVec 32
  tmWday : BitVec 32
  tmYday : BitVec 32
  tmIsdst : BitVec 32
  extra : Extra

variable {Extra : Type}

def fillTm (tm : Tm Extra) (t : UnixTm) : Tm Extra :=
  { tm with
    tmSec := intVal t.tmSec
    tmMin := intVal t.tmMin
    tmHour := intVal t.tmHour
    tmMday := intVal t.tmMday
    tmMon := intVal t.tmMon
    tmYear := intVal t.tmYear
    tmWday := intVal t.tmWday
    tmYday := intVal t.tmYday
    tmIsdst := if t.tmIsdst then 1 else 0 }

/-- A C library whose results are computed from the fields of the struct.
`strftime` is given the size of the buffer and writes nothing when it returns
`0`. -/
structure Library (Extra : Type) where
  asctimeR : Tm Extra → Except Errno (List UInt8)
  strftime : Nat → List UInt8 → Tm Extra → List UInt8
  timegm : Tm Extra → BitVec 64

def EINVAL : Errno := 22

section Stubs

-- `tm` is the variable on the stack, as the stub finds it.
variable (library : Library Extra) (tm : Tm Extra)

def asctime (vT : UnixTm) : Outcome (List UInt8) :=
  match library.asctimeR (fillTm tm vT) with
  | .error errno => .unixError errno "asctime" []
  | .ok buf => .returned (statStrdup buf)

def strftime (vFmt : List UInt8) (vT : UnixTm) : Outcome (List UInt8) :=
  match library.strftime 256 (statStrdup vFmt) (fillTm tm vT) with
  | [] => .unixError EINVAL "strftime" vFmt
  | buf => .returned (statStrdup buf)

/-- The `time_t` that is returned as a float. -/
def timegm (vT : UnixTm) : Outcome (BitVec 64) :=
  .returned (library.timegm (fillTm tm vT))

end Stubs

inductive Request where
  | asctime (t : UnixTm)
  | strftime (fmt : List UInt8) (t : UnixTm)
  | timegm (t : UnixTm)

def Request.time : Request → UnixTm
  | .asctime t => t
  | .strftime _ t => t
  | .timegm t => t

def Request.handed (request : Request) (tm : Tm Extra) : Tm Extra :=
  fillTm tm request.time

def Request.run (request : Request) (library : Library Extra) (tm : Tm Extra) :
    Outcome (List UInt8) ⊕ Outcome (BitVec 64) :=
  match request with
  | .asctime t => .inl (Time.asctime library tm t)
  | .strftime fmt t => .inl (Time.strftime library tm fmt t)
  | .timegm t => .inr (Time.timegm library tm t)

theorem Request.run_congr (request : Request) (library : Library Extra)
    {first second : Tm Extra}
    (same : request.handed first = request.handed second) :
    request.run library first = request.run library second := by
  cases request with
  | asctime t =>
      have filled : fillTm first t = fillTm second t := same
      rw [run, run, Time.asctime, Time.asctime, filled]
  | strftime fmt t =>
      have filled : fillTm first t = fillTm second t := same
      rw [run, run, Time.strftime, Time.strftime, filled]
  | timegm t =>
      have filled : fillTm first t = fillTm second t := same
      rw [run, run, Time.timegm, Time.timegm, filled]

/-- Two runs of a request that find different contents on the stack hand over
the same struct, and so have the same result with every C library. -/
def Determined (request : Request) (first second : Tm Extra) : Prop :=
  request.handed first = request.handed second ∧
    ∀ library : Library Extra,
      request.run library first = request.run library second

theorem fillTm_eq_iff (first second : Tm Extra) (t : UnixTm) :
    fillTm first t = fillTm second t ↔ first.extra = second.extra := by
  simp [fillTm]

/-- The result depends on nothing but the arguments exactly when the fields that
`fill_tm` leaves alone were the same. -/
theorem tm_determined_iff (request : Request) (first second : Tm Extra) :
    Determined request first second ↔ first.extra = second.extra := by
  rw [← fillTm_eq_iff first second request.time]
  constructor
  · intro determined
    exact determined.1
  · intro same
    exact ⟨same, fun library => request.run_congr library same⟩

structure Zone where
  tmGmtoff : BitVec 64
  tmZone : List UInt8
  deriving DecidableEq

/-- `%Z` prints the time zone that the stack happens to hold. -/
theorem strftime_prints_stack :
    let epoch : UnixTm := ⟨0, 0, 0, 1, 0, 70, 4, 0, false⟩
    let stack (zone : List UInt8) : Tm Zone :=
      ⟨0, 0, 0, 0, 0, 0, 0, 0, 0, ⟨0, zone⟩⟩
    let library : Library Zone := ⟨fun _ => .ok [], fun _ fmt tm =>
      if fmt = [37, 90] then tm.extra.tmZone else fmt, fun _ => 0⟩
    strftime library (stack [67, 69, 84]) [37, 90] epoch =
        .returned [67, 69, 84] ∧
      strftime library (stack [85, 84, 67]) [37, 90] epoch =
        .returned [85, 84, 67] ∧
      ¬Determined (.strftime [37, 90] epoch) (stack [67, 69, 84])
        (stack [85, 84, 67]) := by
  refine ⟨by decide, by decide, ?_⟩
  rintro ⟨handed, -⟩
  have zones := congrArg (fun tm => tm.extra.tmZone) handed
  exact absurd zones (by decide)

end ExtUnix.Process.Time
