import ExtUnix.Ppx.Have

namespace ExtUnix.Linkage.Bindings

open ExtUnix.Ppx

/-! `extUnix.pp.ml`, up to the bodies of its functions and its types. -/

def atom (name : String) : CondExpr := .construct (.lident name) false

def have_ (name : String) (items : List Item) : Item :=
  .have_ (.eval (atom name)) items

def haveAny (names : List String) (items : List Item) : Item :=
  .have_ (.eval (.tuple (names.map atom))) items

def labelled (name : String) (arguments : List (Label × String))
    (result : String) (prims : List String) : Item :=
  .primitive {
    name := name
    type := arguments.foldr
      (fun argument rest => .arrow argument.1 (.other argument.2) rest)
      (.other result)
    prims := prims
    attributes := [] }

def external (name : String) (arguments : List String) (result : String)
    (prims : List String) : Item :=
  labelled name (arguments.map fun argument => (.nolabel, argument)) result
    prims

def noalloc : Item → Item
  | .primitive external => .primitive { external with
      attributes := ["noalloc"] }
  | item => item

def let_ (name : String) : Item := .value false [⟨name, .other "", []⟩]

def renameFlag : Item :=
  .types [⟨"rename_flag", [
    ⟨"RENAME_EXCHANGE", "", []⟩,
    ⟨"RENAME_NOREPLACE", "", []⟩,
    ⟨"RENAME_WHITEOUT", "",
      [⟨"have", some [.eval (atom "RENAME_WHITEOUT")]⟩]⟩]⟩]

def transfers (operation stub width : String) (arguments : List String) :
    List Item :=
  ["all_", "single_", "", "intr_"].flatMap fun variant => [
    external ("unsafe_" ++ variant ++ operation) arguments "int"
      [stub ++ variant ++ operation ++ width],
    let_ (variant ++ operation)]

def files : List Item := [
  .other "exception Not_available", let_ "()", .other "type ('a, 'b) carray",
  .other "type 'a carray8", .other "type open_flag",
  have_ "EVENTFD" [
    external "eventfd" ["int"] "Unix.file_descr" ["caml_extunix_eventfd"],
    external "eventfd_read" ["Unix.file_descr"] "int64"
      ["caml_extunix_eventfd_read"],
    external "eventfd_write" ["Unix.file_descr", "int64"] "unit"
      ["caml_extunix_eventfd_write"]],
  have_ "SYSLOG" [
    .module "Syslog" [
      .other "type options", .other "type facility", .other "type level",
      external "setlogmask" ["level list"] "level list"
        ["caml_extunix_setlogmask"],
      labelled "openlog" [(.optional "ident", "string"),
        (.nolabel, "options list"), (.nolabel, "facility")] "unit"
        ["caml_extunix_openlog"],
      external "closelog" ["unit"] "unit" ["caml_extunix_closelog"],
      external "ext_syslog" ["facility option", "level", "string"] "unit"
        ["caml_extunix_syslog"],
      let_ "syslog", let_ "log_upto"]],
  have_ "UNAME" [
    .module "Uname" [.other "type t", let_ "to_string"],
    external "uname" ["unit"] "Uname.t" ["caml_extunix_uname"]],
  have_ "FSYNC" [
    external "fsync" ["Unix.file_descr"] "unit" ["caml_extunix_fsync"]],
  have_ "FDATASYNC" [
    external "fdatasync" ["Unix.file_descr"] "unit" ["caml_extunix_fdatasync"]],
  have_ "SYNC" [external "sync" ["unit"] "unit" ["caml_extunix_sync"]],
  have_ "SYNCFS" [
    external "syncfs" ["Unix.file_descr"] "unit" ["caml_extunix_syncfs"]],
  have_ "DIRFD" [
    external "dirfd" ["Unix.dir_handle"] "Unix.file_descr"
      ["caml_extunix_dirfd"]],
  haveAny ["STATVFS", "FSTATVFS"] [
    .other "type st_flag", .other "type statvfs"],
  have_ "STATVFS" [
    external "statvfs" ["string"] "statvfs" ["caml_extunix_statvfs"]],
  have_ "FSTATVFS" [
    external "fstatvfs" ["Unix.file_descr"] "statvfs"
      ["caml_extunix_fstatvfs"]],
  have_ "ATFILE" [
    .other "type at_flag",
    external "openat" ["Unix.file_descr", "string", "open_flag list",
      "Unix.file_perm"] "Unix.file_descr" ["caml_extunix_openat"],
    external "fstatat" ["Unix.file_descr", "string", "at_flag list"]
      "Unix.stats" ["caml_extunix_fstatat"],
    external "unlinkat" ["Unix.file_descr", "string", "at_flag list"] "unit"
      ["caml_extunix_unlinkat"],
    external "renameat" ["Unix.file_descr", "string", "Unix.file_descr",
      "string"] "unit" ["caml_extunix_renameat"],
    external "mkdirat" ["Unix.file_descr", "string", "int"] "unit"
      ["caml_extunix_mkdirat"],
    external "linkat" ["Unix.file_descr", "string", "Unix.file_descr", "string",
      "at_flag list"] "unit" ["caml_extunix_linkat"],
    external "symlinkat" ["string", "Unix.file_descr", "string"] "unit"
      ["caml_extunix_symlinkat"],
    external "readlinkat" ["Unix.file_descr", "string"] "string"
      ["caml_extunix_readlinkat"],
    external "fchownat" ["Unix.file_descr", "string", "int", "int",
      "at_flag list"] "unit" ["caml_extunix_fchownat"],
    external "fchmodat" ["Unix.file_descr", "string", "int", "at_flag list"]
      "unit" ["caml_extunix_fchmodat"]],
  have_ "RENAMEAT2" [
    renameFlag,
    external "renameat2" ["Unix.file_descr", "string", "Unix.file_descr",
      "string", "rename_flag list"] "unit" ["caml_extunix_renameat2"]],
  let_ "int_of_file_descr", let_ "file_descr_of_int",
  have_ "FCNTL" [
    external "is_open_descr" ["Unix.file_descr"] "bool"
      ["caml_extunix_is_open_descr"]],
  have_ "REALPATH" [
    external "realpath" ["string"] "string" ["caml_extunix_realpath"],
    let_ "realpath"],
  have_ "FADVISE" [
    .other "type advice",
    external "fadvise" ["Unix.file_descr", "int", "int", "advice"] "unit"
      ["caml_extunix_fadvise"]],
  have_ "FALLOCATE" [
    external "fallocate" ["Unix.file_descr", "int", "int"] "unit"
      ["caml_extunix_fallocate"]],
  have_ "PREAD" (transfers "pread" "caml_extunix_" ""
    ["Unix.file_descr", "int", "Bytes.t", "int", "int"]),
  have_ "PWRITE" (transfers "pwrite" "caml_extunix_" ""
    ["Unix.file_descr", "int", "string", "int", "int"]),
  have_ "READ" (transfers "read" "caml_extunix_" ""
    ["Unix.file_descr", "Bytes.t", "int", "int"]),
  have_ "WRITE" (transfers "write" "caml_extunix_" ""
    ["Unix.file_descr", "string", "int", "int"]),
  .module "LargeFile" [
    have_ "FADVISE" [
      external "fadvise" ["Unix.file_descr", "int64", "int64", "advice"] "unit"
        ["caml_extunix_fadvise64"]],
    have_ "FALLOCATE" [
      external "fallocate" ["Unix.file_descr", "int64", "int64"] "unit"
        ["caml_extunix_fallocate64"]],
    have_ "PREAD" (transfers "pread" "caml_extunix_" "64"
      ["Unix.file_descr", "int64", "Bytes.t", "int", "int"]),
    have_ "PWRITE" (transfers "pwrite" "caml_extunix_" "64"
      ["Unix.file_descr", "int64", "string", "int", "int"]),
    .module "BA" [
      have_ "PREAD" (transfers "pread" "caml_extunixba_" "64"
        ["Unix.file_descr", "int64", "('a, 'b) carray"]),
      have_ "PWRITE" (transfers "pwrite" "caml_extunixba_" "64"
        ["Unix.file_descr", "int64", "('a, 'b) carray"])]]]

end ExtUnix.Linkage.Bindings
