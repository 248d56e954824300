import ExtUnix.Runtime.Stub

namespace ExtUnix.Files.Fallocate

open ExtUnix.Runtime

/-! `fallocate.c` on Windows, over the files of Win32. -/

abbrev Dword := BitVec 32

def NO_ERROR : Dword := 0
def ERROR_NEGATIVE_SEEK : Dword := 131
def INVALID_SET_FILE_POINTER : Dword := 0xffffffff

structure File where
  size : Nat
  pointer : Nat
  size_lt : size < 2 ^ 63
  pointer_lt : pointer < 2 ^ 63

structure Win32 where
  file : File
  lastError : Dword

structure Failure where
  error : Dword
  isError : error ≠ NO_ERROR

/-- Which calls fail.  The seek that restores the file pointer has no failure of
its own. -/
structure Faults where
  getFileSizeEx : Option Failure
  seekCurrent : Option Failure
  seekOff : Option Failure
  seekLen : Option Failure
  setEndOfFile : Option Failure

inductive MoveMethod where
  | FILE_BEGIN
  | FILE_CURRENT

def MoveMethod.base (file : File) : MoveMethod → Nat
  | .FILE_BEGIN => 0
  | .FILE_CURRENT => file.pointer

/-- Positions are non-negative `__int64`s, also beyond the end of the file. -/
def File.seek (file : File) (position : Int) : Option File :=
  if inside : 0 ≤ position ∧ position < 2 ^ 63 then
    some { file with pointer := position.toNat, pointer_lt := by omega }
  else none

structure LargeInteger where
  lowPart : Dword
  highPart : Dword

def LargeInteger.quadPart (large : LargeInteger) : BitVec 64 :=
  large.highPart ++ large.lowPart

def LargeInteger.ofQuadPart (word : BitVec 64) : LargeInteger :=
  ⟨word.setWidth 32, (word >>> 32).setWidth 32⟩

/-- `SetFilePointer`: the low part of the new position is returned, the high
part stored.  A position whose low part looks like a failure is told from one by
the last error. -/
def setFilePointer (failure : Option Failure) (state : Win32)
    (distance : LargeInteger) (method : MoveMethod) : Win32 × LargeInteger :=
  match failure with
  | some failure =>
      (⟨state.file, failure.error⟩,
        ⟨INVALID_SET_FILE_POINTER, distance.highPart⟩)
  | none =>
      let position := method.base state.file + distance.quadPart.toInt
      match state.file.seek position with
      | some file =>
          let moved := LargeInteger.ofQuadPart (BitVec.ofInt 64 position)
          if moved.lowPart = INVALID_SET_FILE_POINTER then
            (⟨file, NO_ERROR⟩, moved)
          else (⟨file, state.lastError⟩, moved)
      | none =>
          (⟨state.file, ERROR_NEGATIVE_SEEK⟩,
            ⟨INVALID_SET_FILE_POINTER, distance.highPart⟩)

def getFileSizeEx (failure : Option Failure) (state : Win32) :
    Win32 × Option (BitVec 64) :=
  match failure with
  | some failure => (⟨state.file, failure.error⟩, none)
  | none => (state, some (BitVec.ofNat 64 state.file.size))

def setEndOfFile (failure : Option Failure) (state : Win32) : Win32 × Bool :=
  match failure with
  | some failure => (⟨state.file, failure.error⟩, false)
  | none =>
      (⟨{ state.file with
          size := state.file.pointer, size_lt := state.file.pointer_lt },
        state.lastError⟩, true)

/-- How a call ends.  The argument of `Unix_error` is `Val_unit`, which is not a
string. -/
inductive Ending where
  | returned
  | unixError (errno : Errno) (function : String)
  deriving DecidableEq

section Stubs

variable (maperr : Dword → Errno)

def fallocateError (state : Win32) : Ending :=
  .unixError (maperr state.lastError) "fallocate"

/-- `caml_fallocate_lseek`; without a result it raises. -/
def lseek (failure : Option Failure) (state : Win32) (pos : BitVec 64)
    (method : MoveMethod) : Win32 × Option (BitVec 64) :=
  let (next, res) := setFilePointer failure state (.ofQuadPart pos) method
  if res.lowPart = INVALID_SET_FILE_POINTER ∧ next.lastError ≠ NO_ERROR then
    (next, none)
  else (next, some res.quadPart)

/-- `caml_fallocate_do` from the relative seek on. -/
def extendFile (faults : Faults) (state : Win32) (len cur : BitVec 64) :
    Win32 × Ending :=
  match lseek faults.seekLen state len .FILE_CURRENT with
  | (next, none) => (next, fallocateError maperr next)
  | (state, some _) =>
      match setEndOfFile faults.setEndOfFile state with
      | (next, false) => (next, fallocateError maperr next)
      | (state, true) =>
          match lseek none state cur .FILE_BEGIN with
          | (next, none) => (next, fallocateError maperr next)
          | (state, some _) => (state, .returned)

def fallocateDo (faults : Faults) (state : Win32) (off len : BitVec 64) :
    Win32 × Ending :=
  match getFileSizeEx faults.getFileSizeEx state with
  | (next, none) => (next, fallocateError maperr next)
  | (state, some fileSize) =>
      if (off + len).sle fileSize then (state, .returned)
      else
        match lseek faults.seekCurrent state 0 .FILE_CURRENT with
        | (next, none) => (next, fallocateError maperr next)
        | (state, some cur) =>
            match lseek faults.seekOff state off .FILE_BEGIN with
            | (next, none) => (next, fallocateError maperr next)
            | (state, some _) => extendFile maperr faults state len cur

def fallocate64 (faults : Faults) (state : Win32) (voff vlen : BitVec 64) :
    Win32 × Ending :=
  fallocateDo maperr faults state voff vlen

def fallocate (faults : Faults) (state : Win32) (voff vlen : CamlInt) :
    Win32 × Ending :=
  fallocateDo maperr faults state (longVal voff) (longVal vlen)

end Stubs

theorem LargeInteger.quadPart_ofQuadPart (word : BitVec 64) :
    (LargeInteger.ofQuadPart word).quadPart = word := by
  apply BitVec.eq_of_getLsbD_eq
  intro index bound
  simp only [quadPart, ofQuadPart, BitVec.getLsbD_append, BitVec.getLsbD_setWidth,
    BitVec.getLsbD_ushiftRight]
  split_ifs with low
  · simp [low]
  · rw [show 32 + (index - 32) = index by omega]
    simp [show index - 32 < 32 by omega]

theorem lseek_failed (failure : Failure) (state : Win32) (pos : BitVec 64)
    (method : MoveMethod) :
    lseek (some failure) state pos method =
      (⟨state.file, failure.error⟩, none) := by
  simp [lseek, setFilePointer, failure.isError]

theorem lseek_outside {state : Win32} {pos : BitVec 64} {method : MoveMethod}
    (outside : method.base state.file + pos.toInt < 0) :
    lseek none state pos method =
      (⟨state.file, ERROR_NEGATIVE_SEEK⟩, none) := by
  have stays : state.file.seek (method.base state.file + pos.toInt) = none :=
    dif_neg (by omega)
  simp [lseek, setFilePointer, LargeInteger.quadPart_ofQuadPart, stays,
    ERROR_NEGATIVE_SEEK, NO_ERROR]

theorem lseek_inside (state : Win32) (pos : BitVec 64) (method : MoveMethod)
    {position : Int} (reached : method.base state.file + pos.toInt = position)
    (lower : 0 ≤ position) (upper : position < 2 ^ 63) :
    ∃ next, lseek none state pos method =
        (next, some (BitVec.ofInt 64 position)) ∧
      next.file.size = state.file.size ∧ next.file.pointer = position := by
  let moved := LargeInteger.ofQuadPart (BitVec.ofInt 64 position)
  let file : File := { state.file with
    pointer := position.toNat, pointer_lt := by omega }
  have sought : state.file.seek position = some file :=
    dif_pos ⟨lower, upper⟩
  have pointer : (file.pointer : Int) = position := Int.toNat_of_nonneg lower
  by_cases looksFailed : moved.lowPart = INVALID_SET_FILE_POINTER
  · refine ⟨⟨file, NO_ERROR⟩, ?_, rfl, pointer⟩
    simp [lseek, setFilePointer, LargeInteger.quadPart_ofQuadPart, reached,
      sought, looksFailed, moved]
  · refine ⟨⟨file, state.lastError⟩, ?_, rfl, pointer⟩
    simp [lseek, setFilePointer, LargeInteger.quadPart_ofQuadPart, reached,
      sought, looksFailed, moved]

structure Reaches (faults : Faults) (file : File) (off len : BitVec 64) :
    Prop where
  sized : faults.getFileSizeEx = none
  beyond : (off + len).sle (BitVec.ofNat 64 file.size) = false
  current : faults.seekCurrent = none
  begun : faults.seekOff = none
  nonneg : 0 ≤ off.toInt

/-- The file size, the file pointer and whether the call returned, for each
way through `caml_fallocate_do`. -/
inductive Course (faults : Faults) (file : File) (off len : BitVec 64) :
    Int → Int → Bool → Prop
  | unsized (failed : faults.getFileSizeEx ≠ none) :
      Course faults file off len file.size file.pointer false
  | skipped (sized : faults.getFileSizeEx = none)
      (within : (off + len).sle (BitVec.ofNat 64 file.size) = true) :
      Course faults file off len file.size file.pointer true
  | unmoved (beyond : (off + len).sle (BitVec.ofNat 64 file.size) = false)
      (stopped : ¬Reaches faults file off len) :
      Course faults file off len file.size file.pointer false
  | atOff (reaches : Reaches faults file off len)
      (failed : faults.seekLen ≠ none) :
      Course faults file off len file.size off.toInt false
  | atEnd (reaches : Reaches faults file off len)
      (sought : faults.seekLen = none)
      (failed : faults.setEndOfFile ≠ none) :
      Course faults file off len file.size (off.toInt + len.toInt) false
  | extended (reaches : Reaches faults file off len)
      (sought : faults.seekLen = none)
      (ended : faults.setEndOfFile = none) :
      Course faults file off len (off.toInt + len.toInt) file.pointer true

theorem toInt_size (file : File) :
    (BitVec.ofNat 64 file.size).toInt = file.size := by
  have bound := file.size_lt
  rw [BitVec.toInt_ofNat']
  exact Int.bmod_eq_of_le (by omega) (by omega)

theorem sum_bounds (off len : BitVec 64) :
    off.toInt < 2 ^ 63 ∧ -2 ^ 63 ≤ len.toInt ∧ len.toInt < 2 ^ 63 :=
  ⟨by simpa using off.toInt_lt, by simpa using len.le_toInt,
    by simpa using len.toInt_lt⟩

/-- The check for the end of the file, as a relation of integers: a sum too
large for an `__int64` passes as a negative one. -/
theorem within_iff (file : File) (off len : BitVec 64) :
    (off + len).sle (BitVec.ofNat 64 file.size) = true ↔
      (off.toInt + len.toInt).bmod (2 ^ 64) ≤ file.size := by
  rw [BitVec.sle_iff_toInt_le, toInt_size, BitVec.toInt_add]

theorem sum_lt_of_beyond {file : File} {off len : BitVec 64}
    (beyond : (off + len).sle (BitVec.ofNat 64 file.size) = false) :
    off.toInt + len.toInt < 2 ^ 63 ∧
      (0 ≤ off.toInt → file.size < off.toInt + len.toInt) := by
  have above : ¬(off.toInt + len.toInt).bmod (2 ^ 64) ≤ file.size := by
    rw [← within_iff, beyond]
    exact Bool.false_ne_true
  have bounds := sum_bounds off len
  rw [Int.bmod_def] at above
  split_ifs at above <;> omega

theorem Reaches.sum {faults : Faults} {file : File} {off len : BitVec 64}
    (reaches : Reaches faults file off len) :
    file.size < off.toInt + len.toInt ∧ off.toInt + len.toInt < 2 ^ 63 := by
  obtain ⟨upper, lower⟩ := sum_lt_of_beyond reaches.beyond
  exact ⟨lower reaches.nonneg, upper⟩

theorem Reaches.course {faults : Faults} {file : File} {off len : BitVec 64}
    (reaches : Reaches faults file off len) (maperr : Dword → Errno)
    {state : Win32} (size : state.file.size = file.size)
    (pointer : state.file.pointer = off.toInt) :
    let ended := extendFile maperr faults state len
      (BitVec.ofInt 64 file.pointer)
    Course faults file off len ended.1.file.size ended.1.file.pointer
      (ended.2 == .returned) := by
  rw [extendFile]
  cases sought : faults.seekLen with
  | some failure =>
      rw [lseek_failed]
      simp only [size, pointer]
      exact .atOff reaches (by simp [sought])
  | none =>
      obtain ⟨lower, upper⟩ := reaches.sum
      obtain ⟨there, moved, sameSize, atEnd⟩ :=
        lseek_inside state len .FILE_CURRENT (congrArg (· + len.toInt) pointer)
          (by omega) upper
      rw [moved]
      dsimp only
      cases ended : faults.setEndOfFile with
      | some failure =>
          simp only [setEndOfFile, sameSize, size, atEnd]
          exact .atEnd reaches sought (by simp [ended])
      | none =>
          have restored := file.pointer_lt
          have target : MoveMethod.FILE_BEGIN.base there.file +
              (BitVec.ofInt 64 file.pointer).toInt = file.pointer := by
            rw [BitVec.toInt_ofInt, Int.bmod_eq_of_le (by omega) (by omega)]
            exact zero_add _
          obtain ⟨back, returned, newSize, samePointer⟩ :=
            lseek_inside (setEndOfFile none there).1
              (BitVec.ofInt 64 file.pointer) .FILE_BEGIN target (by omega)
              (by omega)
          dsimp only [setEndOfFile] at returned newSize ⊢
          rw [returned]
          simp only [newSize, samePointer, atEnd]
          exact .extended reaches sought ended

theorem fallocateDo_course (maperr : Dword → Errno) (faults : Faults)
    (state : Win32) (off len : BitVec 64) :
    let ended := fallocateDo maperr faults state off len
    Course faults state.file off len ended.1.file.size ended.1.file.pointer
      (ended.2 == .returned) := by
  rw [fallocateDo]
  cases sized : faults.getFileSizeEx with
  | some failure => exact .unsized (by simp [sized])
  | none =>
      dsimp only [getFileSizeEx]
      split_ifs with within
      · exact .skipped sized within
      have beyond : (off + len).sle (BitVec.ofNat 64 state.file.size) =
          false := by
        simpa using within
      cases current : faults.seekCurrent with
      | some failure =>
          rw [lseek_failed]
          exact .unmoved beyond fun reaches => by simp [reaches.current] at current
      | none =>
          have here := state.file.pointer_lt
          have stays : MoveMethod.FILE_CURRENT.base state.file +
              (0 : BitVec 64).toInt = state.file.pointer := by
            simp [MoveMethod.base]
          obtain ⟨asked, told, size, pointer⟩ :=
            lseek_inside state 0 .FILE_CURRENT stays (by omega) (by omega)
          rw [told]
          dsimp only
          cases begun : faults.seekOff with
          | some failure =>
              rw [lseek_failed]
              simp only [size, pointer]
              exact .unmoved beyond fun reaches => by simp [reaches.begun] at begun
          | none =>
              by_cases nonneg : 0 ≤ off.toInt
              · have reaches : Reaches faults state.file off len :=
                  ⟨sized, beyond, current, begun, nonneg⟩
                obtain ⟨there, moved, sameSize, atOff⟩ :=
                  lseek_inside asked off .FILE_BEGIN (zero_add _) nonneg
                    (sum_bounds off len).1
                rw [moved]
                exact reaches.course maperr (sameSize.trans size) atOff
              · rw [lseek_outside (by simpa [MoveMethod.base] using nonneg)]
                simp only [size, pointer]
                exact .unmoved beyond fun reaches => nonneg reaches.nonneg

/-- The file pointer is where it was, and a call that raises left the file
size. -/
def LeavesPointer (state : Win32) (ended : Win32 × Ending) : Prop :=
  ended.1.file.pointer = state.file.pointer ∧
    (ended.2 ≠ .returned → ended.1.file.size = state.file.size)

/-- Past the seek to `off`, a call that fails finds the file pointer where it
was before. -/
def Restored (faults : Faults) (file : File) (off len : BitVec 64) : Prop :=
  Reaches faults file off len →
    (faults.seekLen ≠ none → off.toInt = file.pointer) ∧
    (faults.seekLen = none → faults.setEndOfFile ≠ none →
      off.toInt + len.toInt = file.pointer)

section Course

variable {faults : Faults} {file : File} {off len : BitVec 64}
  {size pointer : Int} {returned : Bool}

theorem Course.restored_iff
    (course : Course faults file off len size pointer returned) :
    pointer = file.pointer ∧ (returned = false → size = file.size) ↔
      Restored faults file off len := by
  cases course with
  | unsized failed =>
      exact ⟨fun _ reaches => absurd reaches.sized failed,
        fun _ => ⟨rfl, fun _ => rfl⟩⟩
  | skipped sized within =>
      refine ⟨fun _ reaches => ?_, fun _ => ⟨rfl, fun _ => rfl⟩⟩
      have beyond := reaches.beyond
      rw [within] at beyond
      cases beyond
  | unmoved beyond stopped =>
      exact ⟨fun _ reaches => absurd reaches stopped,
        fun _ => ⟨rfl, fun _ => rfl⟩⟩
  | atOff reaches failed =>
      constructor
      · rintro ⟨same, -⟩ -
        exact ⟨fun _ => same, fun sought => absurd sought failed⟩
      · intro restored
        exact ⟨(restored reaches).1 failed, fun _ => rfl⟩
  | atEnd reaches sought failed =>
      constructor
      · rintro ⟨same, -⟩ -
        exact ⟨fun failed => absurd sought failed, fun _ _ => same⟩
      · intro restored
        exact ⟨(restored reaches).2 sought failed, fun _ => rfl⟩
  | extended reaches sought ended =>
      constructor
      · intro _ _
        exact ⟨fun failed => absurd sought failed,
          fun _ failed => absurd ended failed⟩
      · intro _
        exact ⟨rfl, fun raised => by cases raised⟩

theorem Course.delivers_iff
    (course : Course faults file off len size pointer returned) :
    (returned = true → size = max (file.size : Int) (off.toInt + len.toInt)) ∧
        file.size ≤ size ↔
      off.toInt + len.toInt < 2 ^ 63 ∨ faults.getFileSizeEx ≠ none := by
  have small := file.size_lt
  cases course with
  | unsized failed => simp [failed]
  | skipped sized within =>
      rw [within_iff, Int.bmod_def] at within
      have bounds := sum_bounds off len
      simp only [sized, ne_eq, not_true_eq_false, or_false, forall_const]
      split_ifs at within <;> omega
  | unmoved beyond stopped =>
      simpa using Or.inl (sum_lt_of_beyond beyond).1
  | atOff reaches failed => simpa using Or.inl reaches.sum.2
  | atEnd reaches sought failed => simpa using Or.inl reaches.sum.2
  | extended reaches sought ended =>
      obtain ⟨lower, upper⟩ := reaches.sum
      simp only [upper, true_or, iff_true, forall_const]
      omega

end Course

inductive Request where
  | fallocate (off len : CamlInt)
  | largeFile (off len : BitVec 64)

def Request.off : Request → BitVec 64
  | .fallocate off _ => longVal off
  | .largeFile off _ => off

def Request.len : Request → BitVec 64
  | .fallocate _ len => longVal len
  | .largeFile _ len => len

def Request.run (maperr : Dword → Errno) (faults : Faults) (state : Win32) :
    Request → Win32 × Ending
  | .fallocate off len => Fallocate.fallocate maperr faults state off len
  | .largeFile off len => fallocate64 maperr faults state off len

theorem Request.run_eq (maperr : Dword → Errno) (faults : Faults)
    (state : Win32) (request : Request) :
    request.run maperr faults state =
      fallocateDo maperr faults state request.off request.len := by
  cases request <;> rfl

/-- Both functions leave the file pointer alone exactly when no call fails
between moving and restoring it, or it fails with the pointer back in place. -/
theorem fallocate_pointer_iff (maperr : Dword → Errno) (faults : Faults)
    (state : Win32) (request : Request) :
    LeavesPointer state (request.run maperr faults state) ↔
      Restored faults state.file request.off request.len := by
  rw [request.run_eq, ← (fallocateDo_course maperr faults state request.off
    request.len).restored_iff, LeavesPointer]
  simp

def DISK_FULL : Failure := ⟨112, by decide⟩

/-- When there is no room for the new end, the file pointer stays there. -/
theorem disk_full_moves_pointer :
    let state : Win32 := ⟨⟨0, 0, by decide, by decide⟩, NO_ERROR⟩
    let ended := Request.run (fun _ => 28)
      ⟨none, none, none, none, some DISK_FULL⟩ state (.fallocate 0 10)
    ended.1.file.pointer = 10 ∧ ended.2 = .unixError 28 "fallocate" ∧
      ¬LeavesPointer state ended := by
  refine ⟨by decide, by decide, ?_⟩
  rintro ⟨same, -⟩
  exact absurd same (by decide)

/-- A call that returns left a file of `max (old size) (off + len)` bytes, and
no call shrinks the file. -/
def Delivers (state : Win32) (off len : BitVec 64) (ended : Win32 × Ending) :
    Prop :=
  (ended.2 = .returned → (ended.1.file.size : Int) =
    max (state.file.size : Int) (off.toInt + len.toInt)) ∧
  state.file.size ≤ ended.1.file.size

/-- A call delivers what it was asked for exactly when the end of the range fits an
`__int64`, or it fails before it looks. -/
theorem fallocate_delivers_iff (maperr : Dword → Errno) (faults : Faults)
    (state : Win32) (off len : BitVec 64) :
    Delivers state off len (fallocate64 maperr faults state off len) ↔
      off.toInt + len.toInt < 2 ^ 63 ∨ faults.getFileSizeEx ≠ none := by
  rw [fallocate64, ← (fallocateDo_course maperr faults state off
    len).delivers_iff, Delivers]
  simp

/-- A sum that wraps around passes for a file that is large enough. -/
theorem wrapped_sum_allocates_nothing :
    let state : Win32 := ⟨⟨0, 0, by decide, by decide⟩, NO_ERROR⟩
    let off : BitVec 64 := 0x4000000000000000
    let ended := fallocate64 (fun _ => 28) ⟨none, none, none, none, none⟩ state
      off off
    ended.2 = .returned ∧ ended.1.file.size = 0 ∧
      ¬Delivers state off off ended := by
  refine ⟨by decide, by decide, ?_⟩
  rintro ⟨grown, -⟩
  exact absurd (grown (by decide)) (by decide)

end ExtUnix.Files.Fallocate
