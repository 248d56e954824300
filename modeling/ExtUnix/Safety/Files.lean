import ExtUnix.Safety.Stub

namespace ExtUnix.Safety.Files

open Command

/-! `atfile.c`. -/

def stat_aux (result : Variable) : Command Variable :=
  block [
    locals ["stat_aux.atime", "stat_aux.mtime", "stat_aux.ctime",
      "stat_aux.offset", "stat_aux.v"],
    create "stat_aux.atime", create "stat_aux.mtime", create "stat_aux.ctime",
    create "stat_aux.v",
    inspect ["stat_aux.v", "stat_aux.offset", "stat_aux.atime",
      "stat_aux.mtime", "stat_aux.ctime"],
    copy result "stat_aux.v",
    drop ["stat_aux.atime", "stat_aux.mtime", "stat_aux.ctime",
      "stat_aux.offset", "stat_aux.v"]]

def fstatat : Stub where
  name := "caml_extunix_fstatat"
  params := ["v_dirfd", "v_name", "v_flags"]
  body := block [
    param ["v_dirfd", "v_name", "v_flags"],
    strdup "p" "v_name", inspect ["v_flags"],
    blocking ["p"], free "p",
    mayRaise ["v_name"], mayRaise ["v_name"],
    stat_aux "result", give ["result"]]

def unlinkat : Stub :=
  copying "caml_extunix_unlinkat" ["v_dirfd", "v_name", "v_flags"]
    [("p", "v_name")] ["v_flags"] ["p"] ["v_name"]

def renameat : Stub :=
  copying "caml_extunix_renameat" ["v_oldfd", "v_oldname", "v_newfd", "v_newname"]
    [("oldname", "v_oldname"), ("newname", "v_newname")] []
    ["newname", "oldname"] ["v_oldname"]

def mkdirat : Stub :=
  copying "caml_extunix_mkdirat" ["v_dirfd", "v_name", "v_mode"]
    [("name", "v_name")] [] ["name"] ["v_name"]

def linkat : Stub :=
  copying "caml_extunix_linkat"
    ["v_olddirfd", "v_oldname", "v_newdirfd", "v_newname", "v_flags"]
    [("oldname", "v_oldname"), ("newname", "v_newname")] ["v_flags"]
    ["newname", "oldname"] ["v_oldname"]

def fchownat : Stub :=
  copying "caml_extunix_fchownat"
    ["v_dirfd", "v_name", "v_owner", "v_group", "v_flags"]
    [("name", "v_name")] ["v_flags"] ["name"] ["v_name"]

def fchmodat : Stub :=
  copying "caml_extunix_fchmodat" ["v_dirfd", "v_name", "v_mode", "v_flags"]
    [("name", "v_name")] ["v_flags"] ["name"] ["v_name"]

def symlinkat : Stub :=
  copying "caml_extunix_symlinkat" ["v_path", "v_newdirfd", "v_newname"]
    [("path", "v_path"), ("newname", "v_newname")] [] ["newname", "path"]
    ["v_path"]

def openat : Stub :=
  copying "caml_extunix_openat" ["v_dirfd", "v_path", "flags", "v_perm"]
    [("path", "v_path")] ["flags"] ["path"] ["v_path"]

/-- `res` is allocated for what follows a success.  The buffer is resized under
one name; a failed `caml_stat_resize_noexc` leaves it as it was. -/
def readlinkat_malloc (filename res : Variable) (failed found : Command Variable) :
    Command Variable :=
  .choose failed (block [
    malloc res, .loop (touch [filename, res]),
    .choose (block [free res, failed])
      (block [
        touch [filename, res],
        .choose (block [free res, failed]) (block [touch [res], found])])])

def readlinkat : Stub where
  name := "caml_extunix_readlinkat"
  params := ["v_dirfd", "v_name"]
  body := block [
    param ["v_dirfd", "v_name"], locals ["v_link"],
    strdup "name" "v_name", enter,
    readlinkat_malloc "name" "res"
      (block [leave, free "name", raise ["v_name"]])
      (block [
        leave, free "name",
        copy_string "v_link" ["res"], free "res", give ["v_link"]])]

/-! `rename.c`. -/

def check_flag_list (list : Variable) : Command Variable :=
  block [
    copy "check_flag_list.list" list,
    .loop (block [
      inspect ["check_flag_list.list"], mayRaise [],
      copy "check_flag_list.list" "check_flag_list.list"])]

def renameat2 : Stub where
  name := "caml_extunix_renameat2"
  params := ["v_oldfd", "v_oldname", "v_newfd", "v_newname", "v_flags"]
  body := block [
    param ["v_oldfd", "v_oldname", "v_newfd", "v_newname", "v_flags"],
    check_flag_list "v_flags",
    strdup "oldname" "v_oldname", strdup "newname" "v_newname",
    inspect ["v_flags"],
    blocking ["oldname", "newname"], free "oldname", free "newname",
    mayRaise ["v_oldname"], give []]

/-! `mktemp.c`. -/

def mkdtemp : Stub where
  name := "caml_extunix_mkdtemp"
  params := ["v_path"]
  body := block [
    param ["v_path"], strdup "path" "v_path",
    blocking ["path"],
    maybe (block [free "path", raise ["v_path"]]),
    copy_string "v_path" ["path"], free "path", give ["v_path"]]

def internal_mkstemps : Stub where
  name := "caml_extunix_internal_mkstemps"
  params := ["v_template", "v_suffixlen"]
  body := block [
    param ["v_template", "v_suffixlen"],
    borrow "template" "v_template", touch ["template"],
    mayRaise ["v_template"], give []]

def internal_mkostemps : Stub where
  name := "caml_extunix_internal_mkostemps"
  params := ["v_template", "v_suffixlen", "v_flags"]
  body := block [
    param ["v_template", "v_suffixlen", "v_flags"],
    borrow "template" "v_template", inspect ["v_flags"], touch ["template"],
    mayRaise ["v_template"], give []]

/-! `realpath.c`, other than on Windows; `r` is from C's `malloc`. -/

def realpath : Stub where
  name := "caml_extunix_realpath"
  params := ["p"]
  body := block [
    param ["p"], borrow "String_val(p)" "p", touch ["String_val(p)"],
    mayRaise ["p"], malloc "r",
    copy_string "rp" ["r"], free "r", give ["rp"]]

/-! `statvfs.c`, other than on Windows. -/

def convert_st_flags (result : Variable) : Command Variable :=
  block [
    locals ["convert_st_flags.list", "convert_st_flags.tmp"],
    .loop (maybe (block [
      create "convert_st_flags.tmp",
      inspect ["convert_st_flags.tmp", "convert_st_flags.list"],
      copy "convert_st_flags.list" "convert_st_flags.tmp"])),
    copy result "convert_st_flags.list",
    drop ["convert_st_flags.list", "convert_st_flags.tmp"]]

def convert (result : Variable) : Command Variable :=
  block [
    locals ["convert.v_s"], create "convert.v_s", inspect ["convert.v_s"],
    block (List.replicate 7 (storeNew "convert.v_s" "convert.field" [])),
    inspect ["convert.v_s"],
    convert_st_flags "convert.field", inspect ["convert.v_s", "convert.field"],
    inspect ["convert.v_s"],
    copy result "convert.v_s", drop ["convert.v_s"]]

def statvfs : Stub where
  name := "caml_extunix_statvfs"
  params := ["v_path"]
  body := block [
    param ["v_path"],
    borrow "String_val(v_path)" "v_path", touch ["String_val(v_path)"],
    mayRaise ["v_path"], convert "result", give ["result"]]

def fstatvfs : Stub where
  name := "caml_extunix_fstatvfs"
  params := ["v_fd"]
  body := block [
    param ["v_fd"], mayRaise [], convert "result", give ["result"]]

/-! `fsync.c`, other than on Windows. -/

def fsync : Stub := waiting "caml_extunix_fsync" ["v_fd"] []

def fdatasync : Stub := waiting "caml_extunix_fdatasync" ["v_fd"] []

def sync : Stub where
  name := "caml_extunix_sync"
  params := ["v_unit"]
  body := block [blocking [], give []]

def syncfs : Stub := waiting "caml_extunix_syncfs" ["v_fd"] []

/-! `mount.c`. -/

def mount : Stub :=
  copying "caml_extunix_mount"
    ["v_source", "v_target", "v_fstype", "v_mountflags", "v_data"]
    [("p_source", "v_source"), ("p_target", "v_target"),
      ("p_fstype", "v_fstype"), ("p_data", "v_data")]
    ["v_mountflags"] ["p_source", "p_target", "p_fstype", "p_data"] ["v_target"]

def umount2 : Stub :=
  copying "caml_extunix_umount2" ["v_target", "v_umountflags"]
    [("p_target", "v_target")] ["v_umountflags"] ["p_target"] ["v_target"]

/-! `fadvise.c`, `fallocate.c` other than on Windows, and `dirfd.c`. -/

def fadvise64 : Stub :=
  direct "caml_extunix_fadvise64" ["vfd", "voff", "vlen", "vadvise"]
    ["voff", "vlen"]

def fadvise : Stub :=
  direct "caml_extunix_fadvise" ["vfd", "voff", "vlen", "vadvise"] []

def fallocate64 : Stub :=
  direct "caml_extunix_fallocate64" ["vfd", "voff", "vlen"] ["voff", "vlen"]

def fallocate : Stub :=
  direct "caml_extunix_fallocate" ["vfd", "voff", "vlen"] []

def dirfd : Stub where
  name := "caml_extunix_dirfd"
  params := ["v_dir"]
  body := block [
    param ["v_dir"], inspect ["v_dir"], mayRaise [], mayRaise [], give []]

def stubs : List Stub := [
  fstatat, unlinkat, renameat, mkdirat, linkat, fchownat, fchmodat, symlinkat,
  openat, readlinkat, renameat2, mkdtemp, internal_mkstemps, internal_mkostemps,
  realpath, statvfs, fstatvfs, fsync, fdatasync, sync, syncfs, mount, umount2,
  fadvise64, fadvise, fallocate64, fallocate, dirfd]

end ExtUnix.Safety.Files
