import ExtUnix.Linkage.System

namespace ExtUnix.Linkage.Bindings

open ExtUnix.Ppx

def conversions (order : String) : List Item := [
  noalloc (external "uint16_from_host" ["int"] "int"
    ["caml_extunix_hto" ++ order ++ "16"]),
  noalloc (external "int16_from_host" ["int"] "int"
    ["caml_extunix_hto" ++ order ++ "16_signed"]),
  noalloc (external "uint16_to_host" ["int"] "int"
    ["caml_extunix_" ++ order ++ "16toh"]),
  noalloc (external "int16_to_host" ["int"] "int"
    ["caml_extunix_" ++ order ++ "16toh_signed"]),
  noalloc (external "uint31_from_host" ["int"] "int"
    ["caml_extunix_hto" ++ order ++ "31"]),
  noalloc (external "int31_from_host" ["int"] "int"
    ["caml_extunix_hto" ++ order ++ "31_signed"]),
  noalloc (external "uint31_to_host" ["int"] "int"
    ["caml_extunix_" ++ order ++ "31toh"]),
  noalloc (external "int31_to_host" ["int"] "int"
    ["caml_extunix_" ++ order ++ "31toh_signed"]),
  external "int32_from_host" ["int32"] "int32"
    ["caml_extunix_hto" ++ order ++ "32"],
  external "int32_to_host" ["int32"] "int32"
    ["caml_extunix_" ++ order ++ "32toh"],
  external "int64_from_host" ["int64"] "int64"
    ["caml_extunix_hto" ++ order ++ "64"],
  external "int64_to_host" ["int64"] "int64"
    ["caml_extunix_" ++ order ++ "64toh"]]

def getters (stub order buffer : String) : List Item := [
  noalloc (external "unsafe_get_uint8" [buffer, "int"] "int"
    [stub ++ "get_u8"]),
  noalloc (external "unsafe_get_int8" [buffer, "int"] "int"
    [stub ++ "get_s8"]),
  noalloc (external "unsafe_get_uint16" [buffer, "int"] "int"
    [stub ++ "get_" ++ order ++ "u16"]),
  noalloc (external "unsafe_get_int16" [buffer, "int"] "int"
    [stub ++ "get_" ++ order ++ "s16"]),
  noalloc (external "unsafe_get_uint31" [buffer, "int"] "int"
    [stub ++ "get_" ++ order ++ "u31"]),
  noalloc (external "unsafe_get_int31" [buffer, "int"] "int"
    [stub ++ "get_" ++ order ++ "s31"]),
  external "unsafe_get_int32" [buffer, "int"] "int32"
    [stub ++ "get_" ++ order ++ "s32"],
  noalloc (external "unsafe_get_uint63" [buffer, "int"] "int"
    [stub ++ "get_" ++ order ++ "u63"]),
  noalloc (external "unsafe_get_int63" [buffer, "int"] "int"
    [stub ++ "get_" ++ order ++ "s63"]),
  external "unsafe_get_int64" [buffer, "int"] "int64"
    [stub ++ "get_" ++ order ++ "s64"]]

def setter (stub name buffer type prim : String) : Item :=
  noalloc (external ("unsafe_set_" ++ name) [buffer, "int", type] "unit"
    [stub ++ "set_" ++ prim])

def setters (stub order buffer : String) : List Item := [
  setter stub "uint8" buffer "int" "8",
  setter stub "int8" buffer "int" "8",
  setter stub "uint16" buffer "int" (order ++ "16"),
  setter stub "int16" buffer "int" (order ++ "16"),
  setter stub "uint31" buffer "int" (order ++ "31"),
  setter stub "int31" buffer "int" (order ++ "31"),
  setter stub "int32" buffer "int32" (order ++ "32"),
  setter stub "uint63" buffer "int" (order ++ "63"),
  setter stub "int63" buffer "int" (order ++ "63"),
  setter stub "int64" buffer "int64" (order ++ "64")]

def numbers : List String := [
  "uint8", "int8", "uint16", "int16", "uint31", "int31", "int32", "uint63",
  "int63", "int64"]

def accessors (stub order reads writes : String) : List Item :=
  getters stub order reads ++ numbers.map (fun name => let_ ("get_" ++ name)) ++
    setters stub order writes ++ numbers.map fun name => let_ ("set_" ++ name)

def bigEndian : Item :=
  .module "BigEndian" [have_ "ENDIAN"
    (conversions "be" ++ accessors "caml_extunix_" "b" "string" "Bytes.t")]

def littleEndian : Item :=
  .module "LittleEndian" [have_ "ENDIAN"
    (conversions "le" ++ accessors "caml_extunix_" "l" "string" "Bytes.t")]

def hostEndian : Item :=
  .module "HostEndian" (accessors "caml_extunix_" "h" "string" "Bytes.t")

def Ba.bigEndian : Item :=
  .module "BigEndian" [have_ "ENDIAN"
    (accessors "caml_extunixba_" "b" "'a carray8" "'a carray8")]

def Ba.littleEndian : Item :=
  .module "LittleEndian" [have_ "ENDIAN"
    (accessors "caml_extunixba_" "l" "'a carray8" "'a carray8")]

def Ba.hostEndian : Item :=
  .module "HostEndian"
    (accessors "caml_extunixba_" "h" "'a carray8" "'a carray8")

def channels : List Item := [
  have_ "READ_CREDENTIALS" [
    external "read_credentials" ["Unix.file_descr"] "int * int * int"
      ["caml_extunix_read_credentials"]],
  have_ "FEXECVE" [
    external "fexecve" ["Unix.file_descr", "string array", "string array"] "'a"
      ["caml_extunix_fexecve"]],
  have_ "SENDMSG" [
    labelled "sendmsg" [(.nolabel, "Unix.file_descr"),
      (.optional "sendfd", "Unix.file_descr"), (.nolabel, "string")] "unit"
      ["caml_extunix_sendmsg"],
    external "recvmsg_fd" ["Unix.file_descr"] "Unix.file_descr option * string"
      ["caml_extunix_recvmsg"],
    let_ "sendfd", let_ "recvfd", .other "exception Recvfd", let_ "recvmsg",
    let_ "recvmsg_nofd"],
  have_ "SYSCONF" [
    .other "type sysconf_name",
    external "sysconf" ["sysconf_name"] "int64" ["caml_extunix_sysconf"],
    let_ "sysconf"],
  haveAny ["SPLICE", "TEE", "VMSPLICE"] [.other "type splice_flag"],
  have_ "SPLICE" [
    external "splice" ["Unix.file_descr", "int option", "Unix.file_descr",
      "int option", "int", "splice_flag list"] "int"
      ["caml_extunix_splice_bytecode", "caml_extunix_splice"]],
  have_ "TEE" [
    external "tee" ["Unix.file_descr", "Unix.file_descr", "int",
      "splice_flag list"] "int" ["caml_extunix_tee"]]]

def ba : Item := .module "BA" [
  have_ "PREAD" (transfers "pread" "caml_extunixba_" ""
    ["Unix.file_descr", "int", "('a, 'b) carray"]),
  have_ "PWRITE" (transfers "pwrite" "caml_extunixba_" ""
    ["Unix.file_descr", "int", "('a, 'b) carray"]),
  have_ "READ" [
    external "all_read" ["Unix.file_descr", "('a, 'b) carray"] "int"
      ["caml_extunixba_all_read"],
    external "single_read" ["Unix.file_descr", "('a, 'b) carray"] "int"
      ["caml_extunixba_single_read"],
    external "read" ["Unix.file_descr", "('a, 'b) carray"] "int"
      ["caml_extunixba_read"],
    external "intr_read" ["Unix.file_descr", "('a, 'b) carray"] "int"
      ["caml_extunixba_intr_read"]],
  have_ "WRITE" [
    external "all_write" ["Unix.file_descr", "('a, 'b) carray"] "int"
      ["caml_extunixba_all_write"],
    external "single_write" ["Unix.file_descr", "('a, 'b) carray"] "int"
      ["caml_extunixba_single_write"],
    external "write" ["Unix.file_descr", "('a, 'b) carray"] "int"
      ["caml_extunixba_write"],
    external "intr_write" ["Unix.file_descr", "('a, 'b) carray"] "int"
      ["caml_extunixba_intr_write"]],
  Ba.bigEndian,
  Ba.littleEndian,
  Ba.hostEndian,
  external "unsafe_get_substr" ["'a carray8", "int", "int"] "string"
    ["caml_extunixba_get_substr"],
  let_ "get_substr",
  external "unsafe_set_substr" ["'a carray8", "int", "string"] "unit"
    ["caml_extunixba_set_substr"],
  let_ "set_substr",
  have_ "VMSPLICE" [
    .other "type 'a iov",
    external "vmsplice" ["Unix.file_descr", "'a iov array", "splice_flag list"]
      "int" ["caml_extunixba_vmsplice"]]]

def wait : List Item := [
  have_ "WAIT4" [
    .other "type rusage",
    external "wait4" ["Unix.wait_flag list", "int"]
      "int * Unix.process_status * rusage" ["caml_extunix_wait4"]]]

def body : List Item :=
  files ++ system ++ [bigEndian, littleEndian, hostEndian] ++ channels ++
    ba :: wait

def haveDoc : String :=
  "\n[have name]\n" ++
  "  @return indication whether function [name] is available\n" ++
  "  - [Some true] if available\n" ++
  "  - [Some false] if not available\n" ++
  "  - [None] if not known\n\n" ++
  "  e.g. [have \"eventfd\"]"

def extUnix : List Item := body ++ [.showMeTheMoney haveDoc]

end ExtUnix.Linkage.Bindings
