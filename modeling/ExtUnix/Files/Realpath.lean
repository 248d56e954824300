import ExtUnix.Data.Ledger
import ExtUnix.Runtime.Stub
import Mathlib.Data.List.DropRight

namespace ExtUnix.Files

open ExtUnix.Data
open ExtUnix.Runtime

/-! `realpath` on Windows: the stub of `realpath.c` and the function of the
same name that hides it. -/

abbrev Path := List UInt8

def backslash : UInt8 := 92
def colon : UInt8 := 58
def slash : UInt8 := 47
def question : UInt8 := 63
def dot : UInt8 := 46

namespace Filename

def isDirSep (c : UInt8) : Bool := c = slash || c = backslash || c = colon

def isLetter (c : UInt8) : Bool :=
  (65 ≤ c && c ≤ 90) || (97 ≤ c && c ≤ 122)

def driveAndPath : Path → Path × Path
  | letter :: second :: rest =>
      if isLetter letter && second = colon then ([letter, second], rest)
      else ([], letter :: second :: rest)
  | s => ([], s)

/-- `generic_basename`: what follows the last separator that is not at the
end. -/
def genericBasename (name : Path) : Path :=
  if name = [] then [dot]
  else
    match name.rdropWhile isDirSep with
    | [] => name.take 1
    | trimmed => trimmed.rtakeWhile (!isDirSep ·)

def genericDirname (name : Path) : Path :=
  if name = [] then [dot]
  else
    match name.rdropWhile isDirSep with
    | [] => name.take 1
    | trimmed =>
        match trimmed.rdropWhile (!isDirSep ·) with
        | [] => [dot]
        | parent =>
            match parent.rdropWhile isDirSep with
            | [] => name.take 1
            | dir => dir

def basename (s : Path) : Path :=
  let (_, path) := driveAndPath s
  genericBasename path

def dirname (s : Path) : Path :=
  let (drive, path) := driveAndPath s
  drive ++ genericDirname path

def concat (dirname filename : Path) : Path :=
  match dirname.getLast? with
  | none => dirname ++ filename
  | some last =>
      if isDirSep last then dirname ++ filename
      else dirname ++ backslash :: filename

theorem concat_append (dirname filename : Path) :
    ∃ rest, concat dirname filename = dirname ++ rest := by
  rw [concat]
  split
  · exact ⟨filename, rfl⟩
  · split_ifs
    · exact ⟨filename, rfl⟩
    · exact ⟨backslash :: filename, rfl⟩

end Filename

inductive FinalPath where
  | drive (letter : UInt8) (rest : Path)
  | network (server share rest : Path)
  deriving DecidableEq

def extendedPrefix : Path := [backslash, backslash, question, backslash]

/-- `\\?\D:\rest` or `\\?\UNC\server\share\rest`. -/
def FinalPath.text : FinalPath → Path
  | .drive letter rest =>
      extendedPrefix ++ [letter, colon, backslash] ++ rest
  | .network server share rest =>
      extendedPrefix ++ [85, 78, 67, backslash] ++ server ++ [backslash] ++
        share ++ [backslash] ++ rest

/-- `D:\rest` or `\\server\share\rest`. -/
def FinalPath.absolute : FinalPath → Path
  | .drive letter rest => [letter, colon, backslash] ++ rest
  | .network server share rest =>
      [backslash, backslash] ++ server ++ [backslash] ++ share ++
        [backslash] ++ rest

/-- How `CreateFile` and the two calls of `GetFinalPathNameByHandle`, for the
size and for the path, end; errors as `caml_win32_maperr` maps them. -/
inductive Opened where
  | refused (errno : Errno)
  | opened (size : Except Errno Unit) (path : Except Errno FinalPath)

def EACCES : Errno := 13

inductive RealpathBlock where
  | wp
  | h
  | wr
  deriving DecidableEq

def realpathStub (system : Path → Opened) (p : Path) :
    List (Entry RealpathBlock) × Outcome Path :=
  match system (stringVal p) with
  | .refused errno =>
      ([.acquire .wp, .access .wp, .release .wp],
        .unixError errno "realpath" p)
  | .opened size path =>
      let found : List (Entry RealpathBlock) :=
        [.acquire .wp, .access .wp, .acquire .h, .release .wp, .access .h]
      match size with
      | .error errno =>
          (found ++ [.release .h], .unixError errno "realpath" p)
      | .ok () =>
          match path with
          | .error errno =>
              (found ++ [.acquire .wr, .access .h, .access .wr, .release .h,
                .release .wr], .unixError errno "realpath" p)
          | .ok answer =>
              (found ++ [.acquire .wr, .access .h, .access .wr, .access .wr,
                .release .h, .release .wr], .returned answer.text)

theorem realpathStub_settles (system : Path → Opened) (p : Path) :
    Ledger.Settles (realpathStub system p).1 := by
  rw [realpathStub]
  cases system (stringVal p) with
  | refused errno => exact ⟨_, rfl⟩
  | opened size path =>
      cases size with
      | error errno => exact ⟨_, rfl⟩
      | ok => cases path <;> exact ⟨_, rfl⟩

def cleanup (p : Path) : Path :=
  if p.length ≤ 4 then p
  else if p[0]? = some backslash && p[1]? = some backslash &&
      p[2]? = some question && p[3]? = some backslash then p.drop 4
  else p

/-- The first answer of the system is for the path and the second, if there is
need of one, for its parent. -/
def realpathWindows (first second : Path → Opened) (p : Path) : Outcome Path :=
  let direct := (realpathStub first p).2
  match direct with
  | .returned path => .returned (cleanup path)
  | .unixError errno _ _ =>
      if errno = EACCES then
        match (realpathStub second (Filename.dirname p)).2 with
        | .returned dir =>
            .returned (Filename.concat (cleanup dir) (Filename.basename p))
        | _ => direct
      else direct
  | _ => direct

def Opened.answer : Opened → Except Errno FinalPath
  | .refused errno => .error errno
  | .opened (.error errno) _ => .error errno
  | .opened (.ok ()) path => path

def usedAnswer (first second : Path → Opened) (p : Path) : Option FinalPath :=
  match (first (stringVal p)).answer with
  | .ok answer => some answer
  | .error errno =>
      if errno = EACCES then
        (second (stringVal (Filename.dirname p))).answer.toOption
      else none

/-- The file that the answer names, or the entry of the directory that it
names. -/
def namedPath (first : Path → Opened) (p : Path) (answer : FinalPath) : Path :=
  match (first (stringVal p)).answer with
  | .ok _ => answer.absolute
  | .error _ => Filename.concat answer.absolute (Filename.basename p)

def IsAbsolute (path : Path) : Prop :=
  (∃ letter rest, path = [letter, colon, backslash] ++ rest) ∨
    ∃ server share rest, path = [backslash, backslash] ++ server ++
      [backslash] ++ share ++ [backslash] ++ rest

def FinalPath.IsDrive : FinalPath → Prop
  | .drive _ _ => True
  | .network _ _ _ => False

theorem stub_outcome (system : Path → Opened) (p : Path) :
    (realpathStub system p).2 =
      match (system (stringVal p)).answer with
      | .ok answer => .returned answer.text
      | .error errno => .unixError errno "realpath" p := by
  rw [realpathStub]
  cases system (stringVal p) with
  | refused errno => rfl
  | opened size path =>
      cases size with
      | error errno => rfl
      | ok => cases path <;> rfl

theorem realpathWindows_returned_iff {first second : Path → Opened}
    {p r : Path} :
    realpathWindows first second p = .returned r ↔
      ∃ answer, usedAnswer first second p = some answer ∧
        r = match (first (stringVal p)).answer with
          | .ok _ => cleanup answer.text
          | .error _ =>
              Filename.concat (cleanup answer.text) (Filename.basename p) := by
  rw [realpathWindows, usedAnswer, stub_outcome]
  cases (first (stringVal p)).answer with
  | ok answer => simp [eq_comm]
  | error errno =>
      dsimp only
      split_ifs with denied
      · rw [stub_outcome]
        cases (second (stringVal (Filename.dirname p))).answer with
        | ok answer => simp [Except.toOption, eq_comm]
        | error later => simp [Except.toOption]
      · simp

theorem cleanup_extended {path : Path} (nonempty : path ≠ []) :
    cleanup (extendedPrefix ++ path) = path := by
  obtain ⟨head, rest, rfl⟩ := List.exists_cons_of_ne_nil nonempty
  simp [cleanup, extendedPrefix]

theorem cleanup_drive (letter : UInt8) (rest : Path) :
    cleanup ([letter, colon, backslash] ++ rest) =
      [letter, colon, backslash] ++ rest := by
  rw [cleanup]
  split_ifs with short marked
  · rfl
  · simp [colon, backslash] at marked
  · rfl

theorem realpathWindows_begins {first second : Path → Opened} {p r : Path}
    (returned : realpathWindows first second p = .returned r) :
    ∃ answer rest, usedAnswer first second p = some answer ∧
      r = cleanup answer.text ++ rest := by
  obtain ⟨answer, used, rfl⟩ := realpathWindows_returned_iff.mp returned
  cases (first (stringVal p)).answer with
  | ok direct => exact ⟨answer, [], used, (List.append_nil _).symm⟩
  | error errno =>
      obtain ⟨rest, appended⟩ :=
        Filename.concat_append (cleanup answer.text) (Filename.basename p)
      exact ⟨answer, rest, used, appended⟩

theorem cleanup_text_drive (letter : UInt8) (rest : Path) :
    cleanup (FinalPath.drive letter rest).text =
      (FinalPath.drive letter rest).absolute := by
  rw [FinalPath.text, List.append_assoc]
  exact cleanup_extended (by simp)

theorem cleanup_text_network (server share rest : Path) :
    ∃ left, cleanup (FinalPath.network server share rest).text =
      85 :: 78 :: left := by
  refine ⟨67 :: backslash :: (server ++ [backslash] ++ share ++ [backslash] ++
    rest), ?_⟩
  rw [← cleanup_extended (List.cons_ne_nil 85 _)]
  simp [FinalPath.text]

theorem not_isAbsolute_network (rest : Path) : ¬IsAbsolute (85 :: 78 :: rest) := by
  rintro (⟨letter, rest, same⟩ | ⟨server, share, rest, same⟩)
  · simp [colon] at same
  · simp [backslash] at same

/-- The result is absolute, names what the system named and is left alone by
another `cleanup` unless the file is on a server. -/
theorem realpathWindows_absolute_iff (first second : Path → Opened)
    (p : Path) :
    (∀ r, realpathWindows first second p = .returned r →
      IsAbsolute r ∧
      (∃ answer, usedAnswer first second p = some answer ∧
        r = namedPath first p answer) ∧
      cleanup r = r) ↔
    ∀ answer, usedAnswer first second p = some answer → answer.IsDrive := by
  constructor
  · intro resolves answer used
    cases answer with
    | drive letter rest => trivial
    | network server share rest =>
        obtain ⟨absolute, -⟩ := resolves _
          (realpathWindows_returned_iff.mpr ⟨_, used, rfl⟩)
        obtain ⟨answer, tail, same, begins⟩ := realpathWindows_begins
          (realpathWindows_returned_iff.mpr ⟨_, used, rfl⟩)
        rw [used] at same
        cases same
        obtain ⟨left, cleaned⟩ := cleanup_text_network server share rest
        rw [begins, cleaned] at absolute
        exact absurd absolute (not_isAbsolute_network (left ++ tail))
  · intro drives r returned
    obtain ⟨answer, tail, used, begins⟩ := realpathWindows_begins returned
    have isDrive := drives answer used
    cases answer with
    | network server share rest => exact isDrive.elim
    | drive letter rest =>
        have whole : r = [letter, colon, backslash] ++ (rest ++ tail) := by
          rw [begins, cleanup_text_drive]
          simp [FinalPath.absolute]
        obtain ⟨answer, same, result⟩ := realpathWindows_returned_iff.mp returned
        rw [used] at same
        cases same
        refine ⟨.inl ⟨letter, rest ++ tail, whole⟩, ⟨_, used, ?_⟩, ?_⟩
        · rw [result, namedPath, cleanup_text_drive]
        · rw [whole, cleanup_drive]

/-- `Z:\f`, which is `f` in the share `p` of the server `s`. -/
theorem realpathWindows_server :
    let share : FinalPath := .network [115] [112] [102]
    let system : Path → Opened := fun _ => .opened (.ok ()) (.ok share)
    let p : Path := [90, colon, backslash, 102]
    let r : Path := [85, 78, 67, backslash, 115, backslash, 112, backslash, 102]
    realpathWindows system system p = .returned r ∧ ¬IsAbsolute r ∧
      r ≠ namedPath system p share := by
  intro share system p r
  exact ⟨by decide, not_isAbsolute_network _, by decide⟩

end ExtUnix.Files
