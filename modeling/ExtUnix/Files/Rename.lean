import ExtUnix.Linkage.Expanded
import ExtUnix.Runtime.Stub

namespace ExtUnix.Files

open ExtUnix.Data
open ExtUnix.Discover
open ExtUnix.Linkage.Bindings
open ExtUnix.Ppx
open ExtUnix.Runtime

/-! `rename.c`. -/

inductive RenameFlag where
  | RENAME_EXCHANGE
  | RENAME_NOREPLACE
  | RENAME_WHITEOUT
  deriving DecidableEq

abbrev RenameConstants := RenameFlag → BitVec 32

def renameFlagsTable (constants : RenameConstants) : List (BitVec 32) := [
  constants .RENAME_NOREPLACE,
  constants .RENAME_EXCHANGE,
  constants .RENAME_WHITEOUT]

def RENAME_WHITEOUT_INDEX : Nat := 2

structure RenameCall where
  oldfd : BitVec 32
  oldname : List UInt8
  newfd : BitVec 32
  newname : List UInt8
  flags : BitVec 32
  deriving DecidableEq

def RenameCall.strings (call : RenameCall) : List (List UInt8) :=
  [call.oldname, call.newname]

section Stub

/- `haveWhiteout` is `defined(EXTUNIX_HAVE_RENAME_WHITEOUT)`. -/
variable (haveWhiteout : Bool) (constants : RenameConstants)
  (kernel : RenameCall → Except Errno Unit)

def checkFlagList : List Nat → Outcome Unit
  | [] => .returned ()
  | tag :: rest =>
      if !haveWhiteout && RENAME_WHITEOUT_INDEX == tag then
        .notAvailable "RENAME_WHITEOUT"
      else checkFlagList rest

def renameat2 (vOldfd : CamlInt) (vOldname : List UInt8) (vNewfd : CamlInt)
    (vNewname : List UInt8) (vFlags : List Nat) :
    List (Event RenameCall) × Outcome Unit :=
  match checkFlagList haveWhiteout vFlags with
  | .returned () =>
      let oldname := statStrdup vOldname
      let newname := statStrdup vNewname
      match convertFlagList (renameFlagsTable constants) vFlags with
      | none => ([.strdup oldname, .strdup newname], .crashed)
      | some flags =>
          let call : RenameCall :=
            ⟨intVal vOldfd, oldname, intVal vNewfd, newname, flags⟩
          ([.strdup oldname, .strdup newname, .call call, .free oldname,
              .free newname],
            uerror "renameat2" vOldname (kernel call))
  | raised => ([], raised)

end Stub

theorem checkFlagList_eq (haveWhiteout : Bool) (list : List Nat) :
    checkFlagList haveWhiteout list =
      if haveWhiteout = false ∧ RENAME_WHITEOUT_INDEX ∈ list then
        .notAvailable "RENAME_WHITEOUT"
      else .returned () := by
  induction list with
  | nil => simp [checkFlagList]
  | cons tag rest induction =>
      rw [checkFlagList, induction]
      cases haveWhiteout with
      | true => simp
      | false =>
          by_cases whiteout : RENAME_WHITEOUT_INDEX = tag
          · simp [whiteout]
          · simp [whiteout]

/-- What a constructor can be told by in an expansion: its name, or for a
constructor marked `[@have]` the mark. -/
def RenameFlag.shown : RenameFlag → String
  | .RENAME_EXCHANGE => "RENAME_EXCHANGE"
  | .RENAME_NOREPLACE => "RENAME_NOREPLACE"
  | .RENAME_WHITEOUT => ""

def RenameFlag.tag (declaration : TypeDeclaration) (flag : RenameFlag) : Nat :=
  declaration.forget.constructors.findIdx (·.name == flag.shown)

def RenameFlag.tabulated : RenameFlag → RenameFlag
  | .RENAME_EXCHANGE => .RENAME_NOREPLACE
  | .RENAME_NOREPLACE => .RENAME_EXCHANGE
  | .RENAME_WHITEOUT => .RENAME_WHITEOUT

/-- The kernel is given the constants of the listed flags, except that
`RENAME_WHITEOUT` is refused at once where it is not available. -/
def RenamesAsAsked (haveWhiteout : Bool) (constants : RenameConstants)
    (flags : List RenameFlag)
    (run : List (Event RenameCall) × Outcome Unit) : Prop :=
  if haveWhiteout = false ∧ .RENAME_WHITEOUT ∈ flags then
    ∃ name, run = ([], .notAvailable name)
  else
    ∃ call, calls run.1 = [call] ∧ call.flags = union (flags.map constants)

set_option maxRecDepth 4000 in
theorem declaring_files : declaring files =
    [⟨[], [.eval (atom "RENAMEAT2")], renameFlag⟩] := rfl

set_option maxRecDepth 4000 in
theorem declaring_system : declaring system = [] := rfl

set_option maxRecDepth 4000 in
theorem declaring_rest : declaring
    ([bigEndian, littleEndian, hostEndian] ++ channels ++ ba :: wait) = [] :=
  rfl

theorem declaring_body : declaring body =
    [⟨[], [.eval (atom "RENAMEAT2")], renameFlag⟩] := by
  rw [body, List.append_assoc, List.append_assoc, List.append_assoc,
    declaring_append, declaring_append, declaring_files, declaring_system,
    List.nil_append, ← List.append_assoc, declaring_rest, List.append_nil]

theorem holds_atom (feature : String → Option Bool) (name : String) :
    (Cond.eval (atom name)).holds feature = (feature name == some true) := by
  change ([[name]].any fun conjunction =>
    conjunction.all fun name => feature name == some true) = _
  simp

theorem rename_declaration {feature : String → Option Bool}
    (registered : ∀ name ∈ features.map Prod.fst,
      (feature name).isSome = true)
    (available : feature "RENAMEAT2" = some true) (all : Bool) :
    ∃ output funcs declaration,
      expand feature all extUnix [] = .ok (output, funcs) ∧
      declareds output = [declaration] ∧ declaration.name = "rename_flag" ∧
      declaration.forget.constructors.map Constructor.name =
        ["RENAME_EXCHANGE", "RENAME_NOREPLACE", ""] := by
  obtain ⟨output, funcs, expanded, same⟩ :=
    Linkage.extUnix_declareds registered all
  have kept : (Cond.eval (atom "RENAMEAT2")).holds feature = true := by
    rw [holds_atom, available]
    rfl
  rw [flatMap_declared_filter, declaring_body, List.filter_cons_of_pos
    (by simp [Placed.available, kept])] at same
  obtain ⟨declaration, single, forgotten⟩ := List.map_eq_singleton_iff.mp same
  refine ⟨output, funcs, declaration, expanded, single, ?_, ?_⟩
  · exact congrArg TypeDeclaration.name forgotten
  · rw [forgotten]
    rfl

section Tags

variable {declaration : TypeDeclaration}
  (names : declaration.forget.constructors.map Constructor.name =
    ["RENAME_EXCHANGE", "RENAME_NOREPLACE", ""])

include names

theorem tag_eq_findIdx (flag : RenameFlag) : flag.tag declaration =
    ["RENAME_EXCHANGE", "RENAME_NOREPLACE", ""].findIdx (· == flag.shown) := by
  rw [← names, List.findIdx_map]
  rfl

theorem tag_eq_whiteout_iff (flag : RenameFlag) :
    RENAME_WHITEOUT_INDEX = flag.tag declaration ↔
      flag = .RENAME_WHITEOUT := by
  rw [tag_eq_findIdx names]
  cases flag <;> decide

/-- The table has `RENAME_NOREPLACE` and `RENAME_EXCHANGE` the other way
round. -/
theorem table_tag (constants : RenameConstants) (flag : RenameFlag) :
    (renameFlagsTable constants)[flag.tag declaration]? =
      some (constants flag.tabulated) := by
  rw [tag_eq_findIdx names]
  cases flag <;> rfl

theorem checkFlagList_tags (haveWhiteout : Bool) (flags : List RenameFlag) :
    checkFlagList haveWhiteout (flags.map (·.tag declaration)) =
      if haveWhiteout = false ∧ .RENAME_WHITEOUT ∈ flags then
        .notAvailable "RENAME_WHITEOUT"
      else .returned () := by
  have listed : RENAME_WHITEOUT_INDEX ∈ flags.map (·.tag declaration) ↔
      .RENAME_WHITEOUT ∈ flags := by
    rw [List.mem_map]
    constructor
    · rintro ⟨flag, member, tag⟩
      rwa [← (tag_eq_whiteout_iff names flag).mp tag.symm]
    · intro member
      exact ⟨_, member, ((tag_eq_whiteout_iff names _).mpr rfl).symm⟩
  simp only [checkFlagList_eq, listed]

theorem renameat2_refused (constants : RenameConstants)
    (kernel : RenameCall → Except Errno Unit) (oldfd : CamlInt)
    (oldname : List UInt8) (newfd : CamlInt) (newname : List UInt8)
    {flags : List RenameFlag} (listed : .RENAME_WHITEOUT ∈ flags) :
    renameat2 false constants kernel oldfd oldname newfd newname
        (flags.map (·.tag declaration)) =
      ([], .notAvailable "RENAME_WHITEOUT") := by
  rw [renameat2, checkFlagList_tags names, if_pos ⟨rfl, listed⟩]

theorem renameat2_calls {haveWhiteout : Bool} (constants : RenameConstants)
    (kernel : RenameCall → Except Errno Unit) (oldfd : CamlInt)
    (oldname : List UInt8) (newfd : CamlInt) (newname : List UInt8)
    {flags : List RenameFlag}
    (accepted : ¬(haveWhiteout = false ∧ .RENAME_WHITEOUT ∈ flags)) :
    ∃ call, calls (renameat2 haveWhiteout constants kernel oldfd oldname newfd
        newname (flags.map (·.tag declaration))).1 = [call] ∧
      call.flags = union (flags.map fun flag => constants flag.tabulated) := by
  rw [renameat2, checkFlagList_tags names, if_neg accepted]
  simp only [convertFlagList_map (table_tag names constants)]
  exact ⟨_, rfl, rfl⟩

end Tags

def whiteoutBits (constants : RenameConstants) (flags : List RenameFlag) :
    BitVec 32 :=
  if .RENAME_WHITEOUT ∈ flags then constants .RENAME_WHITEOUT else 0

theorem union_rename (value : RenameFlag → BitVec 32)
    (flags : List RenameFlag) :
    union (flags.map value) =
      (if .RENAME_EXCHANGE ∈ flags then value .RENAME_EXCHANGE else 0) |||
      ((if .RENAME_NOREPLACE ∈ flags then value .RENAME_NOREPLACE else 0) |||
      (if .RENAME_WHITEOUT ∈ flags then value .RENAME_WHITEOUT else 0)) := by
  have complete : ∀ flag : RenameFlag, flag ∈
      [.RENAME_EXCHANGE, .RENAME_NOREPLACE, .RENAME_WHITEOUT] := by
    intro flag
    cases flag <;> simp
  rw [union_map value flags complete]
  simp

theorem union_tabulated_iff (constants : RenameConstants)
    (flags : List RenameFlag) :
    union (flags.map fun flag => constants flag.tabulated) =
        union (flags.map constants) ↔
      (.RENAME_EXCHANGE ∈ flags ↔ .RENAME_NOREPLACE ∈ flags) ∨
        constants .RENAME_EXCHANGE ||| whiteoutBits constants flags =
          constants .RENAME_NOREPLACE ||| whiteoutBits constants flags := by
  rw [union_rename, union_rename constants, whiteoutBits]
  simp only [RenameFlag.tabulated]
  by_cases exchange : .RENAME_EXCHANGE ∈ flags
  · by_cases noreplace : .RENAME_NOREPLACE ∈ flags
    · simp only [exchange, noreplace, if_true, iff_self, true_or, iff_true]
      rw [← BitVec.or_assoc, ← BitVec.or_assoc,
        BitVec.or_comm (constants .RENAME_NOREPLACE)]
    · simp [exchange, noreplace, eq_comm]
  · by_cases noreplace : .RENAME_NOREPLACE ∈ flags
    · simp [exchange, noreplace]
    · simp [exchange, noreplace]

/-- In both modules, the kernel is given the flags that were listed exactly
when the swap of `RENAME_EXCHANGE` and `RENAME_NOREPLACE` cannot be seen. -/
theorem renameat2_flags_iff {feature : String → Option Bool}
    (registered : ∀ name ∈ features.map Prod.fst,
      (feature name).isSome = true)
    (available : feature "RENAMEAT2" = some true) (all : Bool) :
    ∃ output funcs declaration,
      expand feature all extUnix [] = .ok (output, funcs) ∧
      declareds output = [declaration] ∧ declaration.name = "rename_flag" ∧
      ∀ (constants : RenameConstants)
        (kernel : RenameCall → Except Errno Unit) (oldfd : CamlInt)
        (oldname : List UInt8) (newfd : CamlInt) (newname : List UInt8)
        (flags : List RenameFlag),
        let haveWhiteout := feature "RENAME_WHITEOUT" == some true
        RenamesAsAsked haveWhiteout constants flags
            (renameat2 haveWhiteout constants kernel oldfd oldname newfd
              newname (flags.map (·.tag declaration))) ↔
          (haveWhiteout = false ∧ .RENAME_WHITEOUT ∈ flags) ∨
          (.RENAME_EXCHANGE ∈ flags ↔ .RENAME_NOREPLACE ∈ flags) ∨
          constants .RENAME_EXCHANGE ||| whiteoutBits constants flags =
            constants .RENAME_NOREPLACE ||| whiteoutBits constants flags := by
  obtain ⟨output, funcs, declaration, expanded, single, named, names⟩ :=
    rename_declaration registered available all
  refine ⟨output, funcs, declaration, expanded, single, named, ?_⟩
  intro constants kernel oldfd oldname newfd newname flags haveWhiteout
  rw [RenamesAsAsked]
  split_ifs with refused
  · refine ⟨fun _ => .inl refused, fun _ => ?_⟩
    rw [refused.1, renameat2_refused names constants kernel oldfd oldname newfd
      newname refused.2]
    exact ⟨_, rfl⟩
  · obtain ⟨call, made, passed⟩ := renameat2_calls names constants kernel oldfd
      oldname newfd newname refused
    rw [← union_tabulated_iff, made, ← passed]
    simp [refused]

def linuxRename : RenameConstants
  | .RENAME_NOREPLACE => 1
  | .RENAME_EXCHANGE => 2
  | .RENAME_WHITEOUT => 4

theorem renameat2_flags_iff_whiteout :
    ∃ output funcs declaration,
      expand (fun _ => some true) false extUnix [] = .ok (output, funcs) ∧
      declareds output = [declaration] ∧
      RenamesAsAsked true linuxRename [.RENAME_WHITEOUT]
        (renameat2 true linuxRename (fun _ => .ok ()) 3 [97] 3 [98]
          ([RenameFlag.RENAME_WHITEOUT].map (·.tag declaration))) := by
  obtain ⟨output, funcs, declaration, expanded, single, -, asked⟩ :=
    @renameat2_flags_iff (fun _ => some true) (by simp) rfl false
  refine ⟨output, funcs, declaration, expanded, single, ?_⟩
  exact (asked linuxRename _ 3 [97] 3 [98] [.RENAME_WHITEOUT]).mpr
    (.inr (.inl (by decide)))

/-- Asked to exchange two files, `renameat2` asks not to replace one. -/
theorem renameat2_exchange_noreplace :
    ∃ output funcs declaration,
      expand (fun _ => some true) false extUnix [] = .ok (output, funcs) ∧
      declareds output = [declaration] ∧
      let run := renameat2 true linuxRename (fun _ => .ok ()) 3 [97] 3 [98]
        ([RenameFlag.RENAME_EXCHANGE].map (·.tag declaration))
      (∃ call, calls run.1 = [call] ∧
        call.flags = linuxRename .RENAME_NOREPLACE) ∧
      ¬RenamesAsAsked true linuxRename [.RENAME_EXCHANGE] run := by
  obtain ⟨output, funcs, declaration, expanded, single, -, names⟩ :=
    @rename_declaration (fun _ => some true) (by simp) rfl false
  obtain ⟨call, made, passed⟩ := renameat2_calls names linuxRename
    (fun _ => .ok ()) 3 [97] 3 [98]
    (show ¬(true = false ∧ _ ∈ [RenameFlag.RENAME_EXCHANGE]) by simp)
  refine ⟨output, funcs, declaration, expanded, single,
    ⟨call, made, passed⟩, ?_⟩
  rw [RenamesAsAsked, if_neg (by simp), made]
  rintro ⟨other, same, asked⟩
  cases same
  exact absurd (passed.symm.trans asked) (by decide)

end ExtUnix.Files
