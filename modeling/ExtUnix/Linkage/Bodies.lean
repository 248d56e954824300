import ExtUnix.Linkage.Expanded
import ExtUnix.Linkage.Scope

namespace ExtUnix.Linkage.Bodies

open ExtUnix.Cpp (textCode)
open ExtUnix.Ppx

/-! The bodies of the definitions of `extUnix.pp.ml`, in its order. -/

/-- `if … then invalid_arg …; unsafe_name …`. -/
def checked (name : String) : String × Body :=
  (name, .seq .pure (.apply ("unsafe_" ++ name)))

def pure (name : String) : String × Body := (name, .pure)

def transfers (operation : String) : List (String × Body) :=
  ["all_", "single_", "", "intr_"].map fun variant =>
    checked (variant ++ operation)

def accessors : List (String × Body) :=
  Bindings.numbers.map (fun name => checked ("get_" ++ name)) ++
    Bindings.numbers.map fun name => checked ("set_" ++ name)

def realpath : Body :=
  .either (.apply "realpath")
    (.handle (.seq (.apply "realpath") .pure) .accessDenied
      (.handle (.seq (.seq .pure (.apply "realpath")) .pure) .any
        (.raise .accessDenied)))

/-- `try name … with Not_found -> raise (Not_available (text ^ …))`. -/
def optional (name text : String) : Body :=
  .handle (.apply name) .notFound
    (.seq (.apply "string_of_socket_int_option_")
      (.raise (.notAvailable text)))

def converted (make name : String) : Body := .seq (.apply make) (.apply name)

def files : List (String × Body) := [
  pure "()",
  ("syslog", .apply "ext_syslog"),
  pure "log_upto",
  pure "to_string",
  ("int_of_file_descr",
    .either (.raise (.notAvailable "int_of_file_descr")) .pure),
  ("file_descr_of_int",
    .either (.raise (.notAvailable "file_descr_of_int")) .pure),
  ("realpath", realpath)] ++
  ["pread", "pwrite", "read", "write", "pread", "pwrite", "pread",
    "pwrite"].flatMap transfers

def sockets : List (String × Body) := [
  pure "string_of_socket_int_option_",
  ("setsockopt_int", optional "setsockopt_int" "setsockopt "),
  ("getsockopt_int", optional "getsockopt_int" "getsockopt "),
  pure "make_socket_int_option",
  pure "make_socket_bool_option",
  pure "make_socket_unit_option",
  ("have_sockopt_unit", converted "make_socket_unit_option" "have_sockopt_int"),
  ("have_sockopt_bool", converted "make_socket_bool_option" "have_sockopt_int"),
  ("have_sockopt_int", converted "make_socket_int_option" "have_sockopt_int"),
  ("have_sockopt", .apply "have_sockopt_int"),
  ("setsockopt_unit", converted "make_socket_unit_option" "setsockopt_int"),
  ("setsockopt", converted "make_socket_bool_option" "setsockopt_int"),
  ("getsockopt",
    .seq (converted "make_socket_bool_option" "getsockopt_int") .pure),
  ("setsockopt_int", converted "make_socket_int_option" "setsockopt_int"),
  ("getsockopt_int", converted "make_socket_int_option" "getsockopt_int")]

def poll : List (String × Body) := [
  ("(pollin,pollpri,pollout,pollerr,pollhup,pollnval,pollrdhup)",
    .handle (.apply "poll_constants") .notAvailable .pure),
  pure "none",
  pure "is_set",
  pure "inter",
  pure "is_inter",
  pure "union",
  ("(+)", .apply "union"),
  pure "join",
  ("poll", .seq .pure (.apply "poll"))]

def rlimit : List (String × Body) := [
  pure "string_of_resource",
  pure "string_of_bytes",
  ("to_string", .either .pure (.apply "string_of_bytes")),
  pure "compare"] ++
  ["eq", "gt", "ge", "lt", "le"].map fun name =>
    (name, .seq (.apply "compare") .pure)

def temporary : List (String × Body) := [
  ("mkstemp", .seq .pure (.seq (.apply "internal_mkstemps") .pure)),
  ("mkostemp", .seq .pure (.seq (.apply "internal_mkostemps") .pure))]

def channels : List (String × Body) := [
  ("sendfd", .apply "sendmsg"),
  ("recvfd", .seq (.apply "recvmsg_fd") .pure),
  ("recvmsg", .seq (.apply "recvmsg_fd") .pure),
  ("recvmsg_nofd", .seq (.apply "recvmsg_fd") .pure),
  ("sysconf",
    .handle (.apply "sysconf") .notFound (.raise (.notAvailable "sysconf")))]

def ba : List (String × Body) :=
  ["pread", "pwrite"].flatMap transfers ++
    accessors ++ accessors ++ accessors ++
    [checked "get_substr", checked "set_substr"]

def definitions : List (String × Body) :=
  files ++ sockets ++ poll ++ rlimit ++ temporary ++ accessors ++ accessors ++
    accessors ++ channels ++ ba

theorem definitions_named :
    definitions.map (fun entry => textCode entry.1) =
      ((placeds Bindings.body).filter isLet).map fun placed =>
        textCode (valueName placed) := by
  decide +kernel

def bodies : List Body := definitions.map Prod.snd

end ExtUnix.Linkage.Bodies
