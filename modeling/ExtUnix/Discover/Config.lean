import ExtUnix.Cpp.Preprocessor

namespace ExtUnix.Discover

open ExtUnix.Cpp

/-! `discover.ml`: which features the C compiler accepts, and the files that
say so. -/

inductive Arg where
  | I (header : String)
  | T (type : String)
  | DEFINE (text : String)
  | Z (symbol : String)
  | IF (condition symbol value : String)
  | S (symbol : String)
  | V (value : String)
  | D (symbol : String)
  | ND (symbol : String)
  | F (type field : String)
  | Ldlib (ccompType flag : String)
  deriving DecidableEq

inductive Test where
  | L (args : List Arg)
  | ANY (alternatives : List (List Arg))
  deriving DecidableEq

inductive Result where
  | YES (name : String) (args : List Arg) (ldlibs : List String)
  | NO (name : String)
  deriving DecidableEq

def getDefines : List Arg → List String :=
  List.filterMap fun
    | .DEFINE text => some text
    | _ => none

def getZdefines : List Arg → List String :=
  List.filterMap fun
    | .Z symbol => some symbol
    | _ => none

def getIfdefines : List Arg → List (String × String × String) :=
  List.filterMap fun
    | .IF condition symbol value => some (condition, symbol, value)
    | _ => none

def getIncludes : List Arg → List String :=
  List.filterMap fun
    | .I header => some header
    | _ => none

def getLdlibs (ccompType : String) : List Arg → List String :=
  List.filterMap fun
    | .Ldlib type flag => if type = ccompType then some flag else none
    | _ => none

def printZdefine (symbol : String) : List Directive :=
  [.ifndef symbol, .define (symbol ++ " 0"), .endif]

def printIfdefine : String × String × String → List Directive
  | (condition, symbol, value) =>
      [.if_ (.raw condition), .define (symbol ++ " (" ++ value ++ ")"), .endif]

def configDefines : List String := [
  "_POSIX_C_SOURCE 200809L",
  "_XOPEN_SOURCE 700",
  "_BSD_SOURCE",
  "_DEFAULT_SOURCE",
  "_DARWIN_C_SOURCE",
  "_LARGEFILE64_SOURCE",
  "WIN32_LEAN_AND_MEAN",
  "_WIN32_WINNT 0x0602",
  "CAML_NAME_SPACE",
  "_GNU_SOURCE",
  "UNICODE",
  "_UNICODE"]

def configIncludes : List String := [
  "string.h",
  "errno.h",
  "assert.h",
  "caml/memory.h",
  "caml/fail.h",
  "caml/unixsupport.h",
  "caml/signals.h",
  "caml/alloc.h",
  "caml/callback.h",
  "caml/custom.h",
  "caml/bigarray.h",
  "caml/version.h"]

/-- The checks of a test program; `fresh` is the number of variables so far. -/
def buildChecks (fresh : Nat) : List Arg → List Directive
  | [] => []
  | .T type :: rest =>
      .line (type ++ " var_" ++ toString (fresh + 1) ++ ";") ::
        buildChecks (fresh + 1) rest
  | .D symbol :: rest =>
      .ifndef symbol :: .line ("#error " ++ symbol ++ " not defined") ::
        .endif :: buildChecks fresh rest
  | .ND symbol :: rest =>
      .ifdef symbol :: .line ("#error " ++ symbol ++ " defined") ::
        .endif :: buildChecks fresh rest
  | .S symbol :: rest =>
      .line ("size_t var_" ++ toString (fresh + 1) ++ " = (size_t)&" ++ symbol ++
        ";") :: buildChecks (fresh + 1) rest
  | .V value :: rest =>
      .line ("int var_" ++ toString (fresh + 1) ++ " = (0 == " ++ value ++
        ");") :: buildChecks (fresh + 1) rest
  | .F type field :: rest =>
      .line ("size_t var_" ++ toString (fresh + 1) ++ " = (size_t)&((struct " ++
        type ++ "*)0)->" ++ field ++ ";") :: buildChecks (fresh + 1) rest
  | .I _ :: rest | .Ldlib _ _ :: rest | .DEFINE _ :: rest | .Z _ :: rest
  | .IF _ _ _ :: rest => buildChecks fresh rest

def buildLines (args : List Arg) : List Directive :=
  configDefines.map .define ++ (getDefines args).map .define ++
    configIncludes.map .includeSystem ++ (getIncludes args).map .includeSystem ++
    buildChecks 0 args ++ [.line "int main(void) \x7b return 0; \x7d"]

def buildCode (args : List Arg) : String :=
  String.join ((buildLines args).map fun directive => directive.render ++ "\n")

/-! Discovery.  `cTest` is `C.c_test`, from link flags and a program to whether
it compiles. -/

section Discovery

variable (ccompType : String) (cTest : List String → String → Bool)
  (disabled : List String)

def accepts (args : List Arg) : Bool :=
  cTest (getLdlibs ccompType args) (buildCode args)

def discoverLoop (name : String) (args : List Arg) :
    List (List Arg) → Result
  | [] =>
      if accepts ccompType cTest args then
        .YES name args (getLdlibs ccompType args)
      else .NO name
  | next :: others =>
      if accepts ccompType cTest args then
        .YES name args (getLdlibs ccompType args)
      else discoverLoop name next others

def discover (feature : String × Test) : Except String Result :=
  let (name, test) := feature
  -- The dots after the name are made by `String.make (20 - length name)`.
  if 20 < name.utf8ByteSize then .error "String.make"
  else if name ∈ disabled then .ok (.NO name)
  else
    match test with
    | .L args => .ok (discoverLoop ccompType cTest name args [])
    | .ANY (args :: others) =>
        .ok (discoverLoop ccompType cTest name args others)
    | .ANY [] => .error "assert false"

def discoverAll (config : List (String × Test)) : Except String (List Result) :=
  config.mapM (discover ccompType cTest disabled)

end Discovery

def haveSymbol (name : String) : String := "EXTUNIX_HAVE_" ++ name

def wantSymbol (name : String) : String := "EXTUNIX_WANT_" ++ name

def showDefines : Result → List Directive
  | .NO _ => []
  | .YES name args _ =>
      match getDefines args with
      | [] => []
      | defines =>
          .blank :: .if_ (.defined (wantSymbol name)) :: defines.map .define ++
            [.endif]

def uerrorAliases : List String := [
  "caml_uerror uerror",
  "caml_unix_error unix_error",
  "win32_maperr caml_win32_maperr"]

def showUerror : List Directive :=
  .if_ (.raw "OCAML_VERSION < 50100") :: uerrorAliases.map .define ++
    [.endif]

def wantedLines (args : List Arg) : List Directive :=
  (getIncludes args).map .includeSystem ++ (getZdefines args).flatMap printZdefine ++
    (getIfdefines args).flatMap printIfdefine

def showWanted (name : String) (args : List Arg) : List Directive :=
  match getIncludes args, getZdefines args, getIfdefines args with
  | [], [], [] => []
  | _, _, _ =>
      .if_ (.defined (wantSymbol name)) :: wantedLines args ++ [.endif]

def showHave : Result → List Directive
  | .NO name => [.blank, .undef (haveSymbol name)]
  | .YES name args _ =>
      .blank :: .define (haveSymbol name) :: showWanted name args

def showC (result : List Result) : List Directive :=
  .blank :: configDefines.map .define ++ result.flatMap showDefines ++
    .blank :: configIncludes.map .includeSystem ++ showUerror ++
    .blank :: .includeLocal "common.h" :: result.flatMap showHave ++ [.blank]

/-- `Config.feature`: the first case that matches. -/
def showMl : List Result → String → Option Bool
  | [], _ => none
  | .YES name _ _ :: rest, wanted =>
      if wanted = name then some true else showMl rest wanted
  | .NO name :: rest, wanted =>
      if wanted = name then some false else showMl rest wanted

end ExtUnix.Discover
