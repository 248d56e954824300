import ExtUnix.Data.Machine
import ExtUnix.Data.Splice
import ExtUnix.Files.Open
import ExtUnix.Files.Paths

namespace ExtUnix.Files.Tempnames

open ExtUnix.Data
open ExtUnix.Runtime

/-! `mktemp.c` and its functions in `extUnix.pp.ml`, over the names that are
taken in the file system. -/

structure Letters where
  bytes : List UInt8
  six : bytes.length = 6
  nonzero : 0 ∉ bytes
  deriving DecidableEq

/-- The letters the C library tries in turn, the `errno` with which the kernel
refuses the first free name, if it does, and the descriptor it opens. -/
structure Attempt where
  tries : List Letters
  refusal : Option Errno
  number : BitVec 32
  deriving DecidableEq

def EINVAL : Errno := 22
def EEXIST : Errno := 17

def sixXs : List UInt8 := List.replicate 6 88

def hasXs (template : List UInt8) (suffixlen : BitVec 32) : Bool :=
  0 ≤ suffixlen.toInt ∧ suffixlen.toNat + 6 ≤ template.length ∧
    slice template (template.length - suffixlen.toNat - 6) 6 = sixXs

def fillIn (template : List UInt8) (suffixlen : BitVec 32)
    (letters : Letters) : List UInt8 :=
  splice template (template.length - suffixlen.toNat - 6) letters.bytes

def genTempname (names : List (List UInt8)) (attempt : Attempt)
    (template : List UInt8) (suffixlen : BitVec 32) :
    Except Errno (List UInt8) :=
  if hasXs template suffixlen then
    match attempt.tries.find? fun letters =>
        fillIn template suffixlen letters ∉ names with
    | none => .error EEXIST
    | some letters =>
        match attempt.refusal with
        | some errno => .error errno
        | none => .ok (fillIn template suffixlen letters)
  else .error EINVAL

/-- The string afterwards: the last name that was tried stays in it, also where
the call fails. -/
def leftIn (names : List (List UInt8)) (attempt : Attempt)
    (template : List UInt8) (suffixlen : BitVec 32) : List UInt8 :=
  if hasXs template suffixlen then
    let free := attempt.tries.find? fun letters =>
      fillIn template suffixlen letters ∉ names
    match free.or attempt.tries.getLast? with
    | none => template
    | some letters => fillIn template suffixlen letters
  else template

section Kernels

variable (names : List (List UInt8)) (attempt : Attempt)

def openKernel : OpenKernel where
  descriptor
    | .mkostemps template suffixlen _ =>
        (genTempname names attempt template suffixlen).map fun _ =>
          attempt.number
    | _ => .ok attempt.number
  filled
    | .mkostemps template suffixlen _ =>
        leftIn names attempt template suffixlen
    | call => call.strings.flatten

def pathKernel : PathKernel where
  unit := fun _ => .ok ()
  string
    | .mkdtemp template => genTempname names attempt template 0
    | _ => .error EINVAL
  statvfs := fun _ => .error EINVAL

end Kernels

/-- `caml_extunix_internal_mkstemps`, with the bytes as it leaves them;
`mkstemps(3)` is `mkostemps(3)` without flags. -/
def internalMkstemps (kernel : OpenKernel) (vTemplate : List UInt8)
    (vSuffixlen : CamlInt) : Trace OpenCall (CamlInt × List UInt8) :=
  let template := stringVal vTemplate
  let call := OpenCall.mkostemps template (intVal vSuffixlen) 0
  let after := kernel.filled call ++ vTemplate.drop template.length
  copying [] call []
    ((uerror "mkstemps" after (kernel.descriptor call)).map
      fun ret => (valInt ret, after))

def mkstemp (kernel : OpenKernel) (suffix : Option (List UInt8))
    (start : List UInt8) : Trace OpenCall (CamlInt × List UInt8) :=
  let suffix := suffix.getD []
  let s := start ++ sixXs ++ suffix
  internalMkstemps kernel s (BitVec.ofNat 63 suffix.length)

inductive Call where
  | mkstemp (suffix : Option (List UInt8)) (start : List UInt8)
      (attempt : Attempt)
  | mkostemp (suffix : Option (List UInt8)) (flags : Option (List OpenFlag))
      (start : List UInt8) (attempt : Attempt)
  | mkdtemp (template : List UInt8) (attempt : Attempt)
  | appear (name : List UInt8)
  | remove (name : List UInt8)
  deriving DecidableEq

def enter (names : List (List UInt8)) :
    Except Errno (List UInt8) → List (List UInt8)
  | .ok name => name :: names
  | .error _ => names

def enterOpen (names : List (List UInt8)) (attempt : Attempt) :
    OpenCall → List (List UInt8)
  | .mkostemps template suffixlen _ =>
      enter names (genTempname names attempt template suffixlen)
  | _ => names

def enterPath (names : List (List UInt8)) (attempt : Attempt) :
    PathCall → List (List UInt8)
  | .mkdtemp template => enter names (genTempname names attempt template 0)
  | _ => names

def step (constants : OpenConstants) (names : List (List UInt8)) :
    Call → List (List UInt8) × Option (Outcome (List UInt8))
  | .mkstemp suffix start attempt =>
      let (events, outcome) := mkstemp (openKernel names attempt) suffix start
      ((calls events).foldl (enterOpen · attempt) names,
        some (outcome.map Prod.snd))
  | .mkostemp suffix flags start attempt =>
      let (events, outcome) :=
        mkostemp constants (openKernel names attempt) suffix flags start
      ((calls events).foldl (enterOpen · attempt) names,
        some (outcome.map Prod.snd))
  | .mkdtemp template attempt =>
      let (events, outcome) := mkdtemp (pathKernel names attempt) template
      ((calls events).foldl (enterPath · attempt) names, some outcome)
  | .appear name => (name :: names, none)
  | .remove name => (names.filter (· ≠ name), none)

def Call.parts : Call → List UInt8 × List UInt8
  | .mkstemp suffix start _ | .mkostemp suffix _ start _ =>
      (start, suffix.getD [])
  | .mkdtemp template _ => (template.take (template.length - 6), [])
  | .appear _ | .remove _ => ([], [])

def Call.Plain (call : Call) : Prop :=
  (match call with
    | .mkdtemp template _ => 0 ∉ template
    | _ => 0 ∉ call.parts.1 ++ call.parts.2) ∧
    call.parts.2.length < 2 ^ 31

section Templates

variable {names : List (List UInt8)} {attempt : Attempt}
  {template name : List UInt8} {suffixlen : BitVec 32}

theorem genTempname_ok
    (created : genTempname names attempt template suffixlen = .ok name) :
    hasXs template suffixlen = true ∧ name ∉ names ∧
      ∃ letters, name = fillIn template suffixlen letters := by
  unfold genTempname at created
  split_ifs at created with wellFormed
  split at created
  · cases created
  · rename_i letters found
    have free := List.find?_some found
    split at created
    · cases created
    · cases created
      exact ⟨wellFormed, of_decide_eq_true free, letters, rfl⟩

theorem leftIn_eq
    (created : genTempname names attempt template suffixlen = .ok name) :
    leftIn names attempt template suffixlen = name := by
  unfold genTempname at created
  unfold leftIn
  split_ifs at created ⊢
  split at created
  · cases created
  · rename_i letters found
    split at created
    · cases created
    · cases created
      simp only [found, Option.some_or]

theorem genTempname_nonzero (nonzero : 0 ∉ template)
    (created : genTempname names attempt template suffixlen = .ok name) :
    0 ∉ name := by
  obtain ⟨-, -, letters, rfl⟩ := genTempname_ok created
  rw [fillIn, splice, List.mem_append, List.mem_append, not_or, not_or]
  exact ⟨⟨fun zero => nonzero (List.mem_of_mem_take zero), letters.nonzero⟩,
    fun zero => nonzero (List.mem_of_mem_drop zero)⟩

theorem stringVal_nonzero (str : List UInt8) : 0 ∉ stringVal str := by
  intro zero
  simpa using List.mem_takeWhile_imp zero

theorem stringVal_drop (str : List UInt8) :
    stringVal (str.drop (stringVal str).length) = [] := by
  induction str with
  | nil => rfl
  | cons byte rest induction =>
      by_cases null : byte = 0
      · simp [stringVal, null]
      · simpa [stringVal, null] using induction

theorem stringVal_append_drop (nonzero : 0 ∉ name) (str : List UInt8) :
    stringVal (name ++ str.drop (stringVal str).length) = name := by
  have tail := stringVal_drop str
  rw [stringVal, List.takeWhile_append_of_pos, ← stringVal, tail,
    List.append_nil]
  intro byte member
  exact decide_eq_true fun zero => nonzero (zero ▸ member)

theorem fillIn_eq (wellFormed : hasXs template suffixlen = true)
    (letters : Letters) :
    fillIn template suffixlen letters =
      template.take (template.length - suffixlen.toNat - 6) ++ letters.bytes ++
        template.drop (template.length - suffixlen.toNat) := by
  simp only [hasXs, decide_eq_true_eq] at wellFormed
  rw [fillIn, splice, letters.six]
  congr 2
  omega

end Templates

theorem toNat_intVal_ofNat {length : Nat} (short : length < 2 ^ 31) :
    (intVal (BitVec.ofNat 63 length)).toNat = length := by
  have value : (intVal (BitVec.ofNat 63 length)).toInt = length := by
    rw [toInt_intVal, toInt_ofNat_of_lt (by omega)]
    exact Int.bmod_eq_of_le (by omega) (by omega)
  have nonneg : 0 ≤ (intVal (BitVec.ofNat 63 length)).toInt := by omega
  have same := toNat_eq_of_toInt_nonneg nonneg
  omega

theorem sixXs_nonzero : 0 ∉ sixXs := by decide

section Names

variable {names : List (List UInt8)} {attempt : Attempt}

theorem file_name {start suffix created : List UInt8}
    (made : genTempname names attempt
      (stringVal (start ++ sixXs ++ suffix))
      (intVal (BitVec.ofNat 63 suffix.length)) = .ok created) :
    let template := start ++ sixXs ++ suffix
    let name := created ++ template.drop (stringVal template).length
    stringVal name = created ∧
      (0 ∉ start ++ suffix → suffix.length < 2 ^ 31 →
        ∃ letters : Letters, name = start ++ letters.bytes ++ suffix) := by
  intro template name
  refine ⟨stringVal_append_drop
    (genTempname_nonzero (stringVal_nonzero _) made) template, ?_⟩
  intro nonzero short
  rw [List.mem_append, not_or] at nonzero
  have whole : stringVal template = template := by
    rw [stringVal, ← statStrdup, statStrdup_eq_self_iff]
    simp [template, nonzero, sixXs_nonzero]
  obtain ⟨wellFormed, -, letters, rfl⟩ := genTempname_ok made
  refine ⟨letters, ?_⟩
  simp only [name]
  change fillIn (stringVal template) _ letters ++ _ = _
  change hasXs (stringVal template) _ = true at wellFormed
  rw [whole] at wellFormed ⊢
  have before : template.length - suffix.length - 6 = start.length := by
    simp only [template, sixXs, List.length_append, List.length_replicate]
    omega
  have behind : template.length - suffix.length = (start ++ sixXs).length := by
    simp only [template, List.length_append]
    omega
  rw [fillIn_eq wellFormed, toNat_intVal_ofNat short, before, behind,
    List.drop_length, List.append_nil]
  simp only [template]
  rw [List.drop_left, List.append_assoc start, List.take_left]

theorem directory_name {template created : List UInt8}
    (made : genTempname names attempt (statStrdup template) 0 = .ok created) :
    stringVal created = created ∧
      (0 ∉ template → ∃ letters : Letters,
        created = template.take (template.length - 6) ++ letters.bytes) := by
  have nonzero := genTempname_nonzero (stringVal_nonzero template) made
  refine ⟨(statStrdup_eq_self_iff created).mpr nonzero, fun plain => ?_⟩
  rw [(statStrdup_eq_self_iff template).mpr plain] at made
  obtain ⟨wellFormed, -, letters, rfl⟩ := genTempname_ok made
  refine ⟨letters, ?_⟩
  rw [fillIn_eq wellFormed]
  simp

end Names

section Steps

variable {constants : OpenConstants} {names : List (List UInt8)}

/-- A call returned a name: the file of that name, as C reads it, is new, and
nothing else changed. -/
structure Made (names : List (List UInt8)) (call : Call)
    (name : List UInt8) (next : List (List UInt8)) : Prop where
  entered : next = stringVal name :: names
  free : stringVal name ∉ names
  shaped : call.Plain → ∃ letters : Letters,
    name = call.parts.1 ++ letters.bytes ++ call.parts.2

theorem step_mkdtemp (template : List UInt8) (attempt : Attempt) :
    step constants names (.mkdtemp template attempt) =
      let made := genTempname names attempt (statStrdup template) 0
      (enter names made, some (uerror "mkdtemp" template made)) := rfl

theorem opened_eq (function : String) (attempt : Attempt)
    (template : List UInt8) (suffixlen flags : BitVec 32) :
    let kernel := openKernel names attempt
    let call := OpenCall.mkostemps (stringVal template) suffixlen flags
    let rest := template.drop (stringVal template).length
    let after := kernel.filled call ++ rest
    ((uerror function after (kernel.descriptor call)).map fun ret =>
        (valInt ret, after)).map Prod.snd =
      (uerror function after
        (genTempname names attempt (stringVal template) suffixlen)).map
          (· ++ rest) := by
  intro kernel call rest after
  have filled : after =
      leftIn names attempt (stringVal template) suffixlen ++ rest := rfl
  rw [filled]
  simp only [kernel, call, openKernel]
  cases made : genTempname names attempt (stringVal template) suffixlen with
  | error errno => rfl
  | ok name =>
      rw [leftIn_eq made]
      rfl

theorem step_mkstemp (suffix : Option (List UInt8)) (start : List UInt8)
    (attempt : Attempt) :
    step constants names (.mkstemp suffix start attempt) =
      let template := start ++ sixXs ++ suffix.getD []
      let suffixlen := intVal (BitVec.ofNat 63 (suffix.getD []).length)
      let made := genTempname names attempt (stringVal template) suffixlen
      let rest := template.drop (stringVal template).length
      let left := leftIn names attempt (stringVal template) suffixlen
      (enter names made,
        some ((uerror "mkstemps" (left ++ rest) made).map (· ++ rest))) := by
  rw [step]
  exact congrArg (Prod.mk _ <| some ·) (opened_eq "mkstemps" attempt _ _ _)

theorem step_mkostemp (suffix : Option (List UInt8))
    (flags : Option (List OpenFlag)) (start : List UInt8) (attempt : Attempt) :
    step constants names (.mkostemp suffix flags start attempt) =
      let template := start ++ sixXs ++ suffix.getD []
      let suffixlen := intVal (BitVec.ofNat 63 (suffix.getD []).length)
      let made := genTempname names attempt (stringVal template) suffixlen
      let rest := template.drop (stringVal template).length
      let left := leftIn names attempt (stringVal template) suffixlen
      (enter names made,
        some ((uerror "mkostemps" (left ++ rest) made).map (· ++ rest))) := by
  rw [step]
  exact congrArg (Prod.mk _ <| some ·) (opened_eq "mkostemps" attempt _ _ _)

theorem file_made {call : Call} {function : String}
    {start suffix name left : List UInt8} {attempt : Attempt}
    (parts : call.parts = (start, suffix))
    (plain : call.Plain → 0 ∉ start ++ suffix ∧ suffix.length < 2 ^ 31) :
    let template := start ++ sixXs ++ suffix
    let made := genTempname names attempt (stringVal template)
      (intVal (BitVec.ofNat 63 suffix.length))
    (uerror function left made).map
        (· ++ template.drop (stringVal template).length) = .returned name →
      Made names call name (enter names made) := by
  intro template made returned
  cases created : made with
  | error errno =>
      rw [created] at returned
      cases returned
  | ok file =>
      rw [created] at returned
      cases returned
      obtain ⟨same, shaped⟩ := file_name created
      obtain ⟨-, free, -⟩ := genTempname_ok created
      refine ⟨congrArg (· :: names) same.symm,
        (congrArg (· ∉ names) same).mpr free, fun isPlain => ?_⟩
      rw [parts]
      exact shaped (plain isPlain).1 (plain isPlain).2

theorem step_returned {call : Call} {name : List UInt8}
    (returned : (step constants names call).2 = some (.returned name)) :
    Made names call name (step constants names call).1 := by
  cases call with
  | appear name => cases returned
  | remove name => cases returned
  | mkdtemp template attempt =>
      rw [step_mkdtemp] at returned ⊢
      cases made : genTempname names attempt (statStrdup template) 0 with
      | error errno =>
          rw [made] at returned
          cases returned
      | ok created =>
          rw [made] at returned
          cases returned
          obtain ⟨same, shaped⟩ := directory_name made
          obtain ⟨-, free, -⟩ := genTempname_ok made
          refine ⟨congrArg (· :: names) same.symm,
            (congrArg (· ∉ names) same).mpr free, fun plain => ?_⟩
          obtain ⟨letters, equal⟩ := shaped plain.1
          exact ⟨letters, equal.trans (List.append_nil _).symm⟩
  | mkstemp suffix start attempt =>
      rw [step_mkstemp] at returned ⊢
      exact file_made rfl id (Option.some.inj returned)
  | mkostemp suffix flags start attempt =>
      rw [step_mkostemp] at returned ⊢
      exact file_made rfl id (Option.some.inj returned)

theorem mem_enter {name : List UInt8} (taken : name ∈ names)
    (made : Except Errno (List UInt8)) : name ∈ enter names made := by
  cases made with
  | error errno => exact taken
  | ok created => exact List.mem_cons_of_mem _ taken

theorem step_keeps {call : Call} {name : List UInt8} (taken : name ∈ names)
    (stays : call ≠ .remove name) : name ∈ (step constants names call).1 := by
  cases call with
  | appear other => exact List.mem_cons_of_mem _ taken
  | remove other =>
      refine List.mem_filter.mpr ⟨taken, decide_eq_true ?_⟩
      rintro rfl
      exact stays rfl
  | mkdtemp template attempt => exact mem_enter taken _
  | mkstemp suffix start attempt =>
      rw [step_mkstemp]
      exact mem_enter taken _
  | mkostemp suffix flags start attempt =>
      rw [step_mkostemp]
      exact mem_enter taken _

end Steps

/-- Whatever processes create and remove in the meantime, and whichever letters
the C library tries: a name that `mkstemp`, `mkostemp` or `mkdtemp` returns is of
a file that was not there, has the parts asked for around six letters when these
have no null byte and the suffix less than `2 ^ 31` bytes, and is not returned
again before the file is removed. -/
theorem tempnames_unique (constants : OpenConstants) (names : List (List UInt8))
    (calls : List Call) :
    let history := account (step constants) names calls
    ∀ first call name, history[first]? = some (call, some (.returned name)) →
      (stringVal name ∉ (run (step constants) names (calls.take first)).1 ∧
        stringVal name ∈
          (run (step constants) names (calls.take (first + 1))).1 ∧
        (call.Plain → ∃ letters : Letters,
          name = call.parts.1 ++ letters.bytes ++ call.parts.2)) ∧
      ∀ second call' name', first < second →
        history[second]? = some (call', some (.returned name')) →
        stringVal name' = stringVal name →
        ∃ between, first < between ∧ between < second ∧
          calls[between]? = some (.remove (stringVal name)) := by
  intro history first call name answered
  obtain ⟨called, returned⟩ := account_eq_some.mp answered
  obtain ⟨entered, free, shaped⟩ := step_returned returned
  have taken : stringVal name ∈
      (run (step constants) names (calls.take (first + 1))).1 := by
    rw [run_take_succ _ _ called, entered]
    exact List.mem_cons_self
  refine ⟨⟨free, taken, shaped⟩, ?_⟩
  intro second call' name' order answered' same
  obtain ⟨-, returned'⟩ := account_eq_some.mp answered'
  have gone := (step_returned returned').free
  rw [same] at gone
  obtain ⟨between, input, after, before, found, removes⟩ :=
    exists_lost (step constants) (stringVal name ∈ ·)
      (· = .remove (stringVal name))
      (fun _ _ stays taken => step_keeps taken stays) order taken gone
  exact ⟨between, after, before, found.trans (congrArg some removes)⟩

/-- The C library tries the same letters again, and gets them once the first
file is removed. -/
theorem tempnames_unique_removed (constants : OpenConstants) :
    let letters : Letters := ⟨List.replicate 6 97, by decide, by decide⟩
    let attempt : Attempt := ⟨[letters], none, 3⟩
    let calls : List Call := [.mkstemp none [120] attempt,
      .remove (120 :: letters.bytes),
      .mkdtemp (120 :: sixXs) attempt]
    ∃ between, 0 < between ∧ between < 2 ∧
      calls[between]? = some (.remove (120 :: letters.bytes)) := by
  intro letters attempt calls
  exact (tempnames_unique constants [] calls 0 _ (120 :: letters.bytes) rfl).2 2
    _ (120 :: letters.bytes) (by decide) rfl rfl

end ExtUnix.Files.Tempnames
