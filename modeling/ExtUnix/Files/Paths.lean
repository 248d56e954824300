import ExtUnix.Runtime.Stub

namespace ExtUnix.Files

open ExtUnix.Data
open ExtUnix.Runtime

/-! Stubs that take paths and no flags: `renameat`, `mkdirat` and `symlinkat` of
`atfile.c`, `chroot` of `unistd.c`, `mkdtemp` of `mktemp.c`, and of `realpath.c`
and `statvfs.c` what is compiled outside Windows. -/

inductive PathCall where
  | renameat (oldfd : BitVec 32) (oldname : List UInt8) (newfd : BitVec 32)
      (newname : List UInt8)
  | mkdirat (dirfd : BitVec 32) (name : List UInt8) (mode : BitVec 32)
  | symlinkat (path : List UInt8) (newdirfd : BitVec 32) (newname : List UInt8)
  | chroot (path : List UInt8)
  | mkdtemp (template : List UInt8)
  | realpath (path : List UInt8)
  | statvfs (path : List UInt8)
  deriving DecidableEq

inductive StFlag where
  | ST_RDONLY
  | ST_NOSUID
  | ST_NODEV
  | ST_NOEXEC
  | ST_SYNCHRONOUS
  | ST_MANDLOCK
  | ST_WRITE
  | ST_APPEND
  | ST_IMMUTABLE
  | ST_NOATIME
  | ST_NODIRATIME
  | ST_RELATIME
  deriving DecidableEq

abbrev StConstants := StFlag → BitVec 32

def stFlagsTable (constants : StConstants) : List (BitVec 32) :=
  [.ST_RDONLY, .ST_NOSUID, .ST_NODEV, .ST_NOEXEC, .ST_SYNCHRONOUS,
    .ST_MANDLOCK, .ST_WRITE, .ST_APPEND, .ST_IMMUTABLE, .ST_NOATIME,
    .ST_NODIRATIME, .ST_RELATIME].map constants

/-- `struct statvfs`, less `f_frsize`. -/
structure StatvfsBuf where
  bsize : BitVec 64
  blocks : BitVec 64
  bfree : BitVec 64
  bavail : BitVec 64
  files : BitVec 64
  ffree : BitVec 64
  favail : BitVec 64
  fsid : BitVec 64
  flag : BitVec 64
  namemax : BitVec 64

/-- The record `statvfs`.  `flags` are positions in `st_flag`. -/
structure Statvfs where
  bsize : CamlInt
  blocks : BitVec 64
  bfree : BitVec 64
  bavail : BitVec 64
  files : BitVec 64
  ffree : BitVec 64
  favail : BitVec 64
  fsid : BitVec 64
  flag : CamlInt
  flags : List Nat
  namemax : CamlInt

/-- The loop over the table, which leaves the last flag first. -/
def convertStFlags (table : List (BitVec 32)) (fFlag : BitVec 64) : List Nat :=
  (List.range table.length).foldl (fun list i =>
    if fFlag &&& widen (table[i]?.getD 0) ≠ 0 then i :: list else list) []

def convert (constants : StConstants) (s : StatvfsBuf) : Statvfs where
  bsize := valLong s.bsize
  blocks := s.blocks
  bfree := s.bfree
  bavail := s.bavail
  files := s.files
  ffree := s.ffree
  favail := s.favail
  fsid := s.fsid
  flag := valLong s.flag
  flags := convertStFlags (stFlagsTable constants) s.flag
  namemax := valLong s.namemax

structure PathKernel where
  unit : PathCall → Except Errno Unit
  string : PathCall → Except Errno (List UInt8)
  statvfs : PathCall → Except Errno StatvfsBuf

section Stubs

variable (kernel : PathKernel)

def renameat (vOldfd : CamlInt) (vOldname : List UInt8) (vNewfd : CamlInt)
    (vNewname : List UInt8) : Trace PathCall Unit :=
  let oldname := statStrdup vOldname
  let newname := statStrdup vNewname
  let call := PathCall.renameat (intVal vOldfd) oldname (intVal vNewfd) newname
  copying [oldname, newname] call [newname, oldname]
    (uerror "renameat" vOldname (kernel.unit call))

def mkdirat (vDirfd : CamlInt) (vName : List UInt8) (vMode : CamlInt) :
    Trace PathCall Unit :=
  let name := statStrdup vName
  let call := PathCall.mkdirat (intVal vDirfd) name (intVal vMode)
  copying [name] call [name] (uerror "mkdirat" vName (kernel.unit call))

def symlinkat (vPath : List UInt8) (vNewdirfd : CamlInt)
    (vNewname : List UInt8) : Trace PathCall Unit :=
  let path := statStrdup vPath
  let newname := statStrdup vNewname
  let call := PathCall.symlinkat path (intVal vNewdirfd) newname
  copying [path, newname] call [newname, path]
    (uerror "symlinkat" vPath (kernel.unit call))

def chroot (vPath : List UInt8) : Trace PathCall Unit :=
  let path := statStrdup vPath
  let call := PathCall.chroot path
  copying [path] call [path] (uerror "chroot" vPath (kernel.unit call))

def mkdtemp (vPath : List UInt8) : Trace PathCall (List UInt8) :=
  let path := statStrdup vPath
  let call := PathCall.mkdtemp path
  copying [path] call [path] (uerror "mkdtemp" vPath (kernel.string call))

def realpath (p : List UInt8) : Trace PathCall (List UInt8) :=
  let call := PathCall.realpath (stringVal p)
  match kernel.string call with
  | .error errno => ([.call call], .unixError errno "realpath" p)
  | .ok r => ([.call call, .free r], .returned r)

def statvfs (constants : StConstants) (vPath : List UInt8) :
    Trace PathCall Statvfs :=
  let call := PathCall.statvfs (stringVal vPath)
  copying [] call []
    ((uerror "statvfs" vPath (kernel.statvfs call)).map (convert constants))

end Stubs

def PathCall.strings : PathCall → List (List UInt8)
  | .renameat _ oldname _ newname => [oldname, newname]
  | .mkdirat _ name _ => [name]
  | .symlinkat path _ newname => [path, newname]
  | .chroot path => [path]
  | .mkdtemp template => [template]
  | .realpath path => [path]
  | .statvfs path => [path]

end ExtUnix.Files
