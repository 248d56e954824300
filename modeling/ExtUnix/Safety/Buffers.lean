import ExtUnix.Safety.Stub

namespace ExtUnix.Safety.Buffers

open Command

/-! The macros of `endian.c` and `endianba.c`; `boxed` where the OCaml type is
`int32` or `int64`. -/

def conversion (boxed : Bool) (name : String) : Stub where
  name := "caml_extunix_" ++ name
  params := ["v_x"]
  body := block [if boxed then inspect ["v_x"] else .skip, number boxed]

/-- `GET`, of a string or of a bigarray that nothing keeps from the collector. -/
def getter (stub : String) (buffer pointer : Variable) (boxed : Bool)
    (name : String) : Stub where
  name := stub ++ "get_" ++ name
  params := [buffer, "v_off"]
  body := block [borrow pointer buffer, touch [pointer], number boxed]

def setter (stub : String) (buffer pointer : Variable) (boxed : Bool)
    (name : String) : Stub where
  name := stub ++ "set_" ++ name
  params := [buffer, "v_off", "v_x"]
  body := block [
    borrow pointer buffer, if boxed then inspect ["v_x"] else .skip,
    touch [pointer], give []]

def conversions (order : String) : List Stub :=
  ["hto" ++ order ++ "16", "hto" ++ order ++ "16_signed", order ++ "16toh",
    order ++ "16toh_signed", "hto" ++ order ++ "31",
    "hto" ++ order ++ "31_signed", order ++ "31toh",
    order ++ "31toh_signed"].map (conversion false) ++
  ["hto" ++ order ++ "32", order ++ "32toh", "hto" ++ order ++ "64",
    order ++ "64toh"].map (conversion true)

def ordered (stub : String) (buffer pointer : Variable) (order : String) :
    List Stub :=
  ["u16", "s16", "u31", "s31", "u63", "s63"].map
    (fun width => getter stub buffer pointer false (order ++ width)) ++
  ["s32", "s64"].map
    (fun width => getter stub buffer pointer true (order ++ width)) ++
  ["16", "31", "63"].map
    (fun width => setter stub buffer pointer false (order ++ width)) ++
  ["32", "64"].map
    (fun width => setter stub buffer pointer true (order ++ width))

def accessors (stub : String) (buffer pointer : Variable) : List Stub :=
  ["u8", "s8"].map (getter stub buffer pointer false) ++
  setter stub buffer pointer false "8" ::
    ["b", "l", "h"].flatMap (ordered stub buffer pointer)

def endian : List Stub :=
  ["be", "le"].flatMap conversions ++ accessors "caml_extunix_" "v_str" "str"

def endianba : List Stub := accessors "caml_extunixba_" "v_buf" "buf"

/-! `bigarray.c`. -/

def get_substr : Stub where
  name := "caml_extunixba_get_substr"
  params := ["v_buf", "v_off", "v_len"]
  body := block [
    param ["v_buf", "v_off", "v_len"], locals ["v_str"], pin "buf" "v_buf",
    create "v_str", touch ["buf"], give ["v_str"]]

def set_substr : Stub where
  name := "caml_extunixba_set_substr"
  params := ["v_buf", "v_off", "v_str"]
  body := block [
    param ["v_buf", "v_off", "v_str"], pin "buf" "v_buf",
    inspect ["v_str"], borrow "str" "v_str", touch ["buf", "str"], give []]

/-! The transfers of `unistd.c`, through `iobuf`; `wide` where the offset is an
`int64`. -/

def offset (wide : Bool) : Command Variable :=
  if wide then inspect ["v_off"] else .skip

/-- `caml_extunix_pread_common` and `caml_extunix_read_common`. -/
def read_common : Command Variable :=
  block [
    param ["v_fd", "v_buf", "v_ofs", "v_len"],
    .loop (block [blocking [], mayRaise [], maybe (inspect ["v_buf"])]),
    give []]

/-- `caml_extunix_pwrite_common` and `caml_extunix_write_common`. -/
def write_common : Command Variable :=
  block [
    param ["v_fd", "v_buf", "v_ofs", "v_len"],
    .loop (block [inspect ["v_buf"], blocking [], mayRaise []]),
    give []]

def variants (stub operation : String) (params : List Variable)
    (body : Command Variable) : List Stub :=
  ["all_", "single_", "", "intr_"].map fun variant => {
    name := stub ++ variant ++ operation
    params := params
    body := body }

def positioned (operation : String) (common : Command Variable) : List Stub :=
  [("", false), ("64", true)].flatMap fun width =>
    variants "caml_extunix_" (operation ++ width.1)
      ["v_fd", "v_off", "v_buf", "v_ofs", "v_len"]
      (block [offset width.2, common])

def transfers : List Stub :=
  positioned "pread" read_common ++ positioned "pwrite" write_common ++
  variants "caml_extunix_" "read" ["v_fd", "v_buf", "v_ofs", "v_len"]
    read_common ++
  variants "caml_extunix_" "write" ["v_fd", "v_buf", "v_ofs", "v_len"]
    write_common

/-! `pread_pwrite_ba.c`: the data of the bigarray itself is handed to the system
call. -/

def ba_common : Command Variable :=
  block [
    param ["v_fd", "v_buf"], inspect ["v_buf"], pin "buf" "v_buf",
    .loop (block [blocking ["buf"], mayRaise []]), give []]

def positionedBa (operation : String) : List Stub :=
  [("", false), ("64", true)].flatMap fun width =>
    variants "caml_extunixba_" (operation ++ width.1)
      ["v_fd", "v_off", "v_buf"] (block [offset width.2, ba_common])

def transfersBa : List Stub :=
  positionedBa "pread" ++ positionedBa "pwrite" ++
  variants "caml_extunixba_" "read" ["v_fd", "v_buf"] ba_common ++
  variants "caml_extunixba_" "write" ["v_fd", "v_buf"] ba_common

/-! `memalign.c`. -/

/-- The bigarray frees `memptr`. -/
def memalign : Stub where
  name := "caml_extunix_memalign"
  params := ["valignment", "vsize"]
  body := block [
    param ["valignment", "vsize"], mayRaise [], malloc "memptr",
    create "result", free "memptr", give ["result"]]

def stubs : List Stub :=
  endian ++ endianba ++ [get_substr, set_substr, memalign] ++ transfers ++
    transfersBa

end ExtUnix.Safety.Buffers
