import ExtUnix.Data.Atoms
import ExtUnix.Discover.Coherence
import Mathlib.Data.List.Nodup

namespace ExtUnix.Discover

open ExtUnix.Data

/-! `link_flags.sexp`, which the build includes in the flags of the library. -/

def Arg.flag : Arg → Option String
  | .Ldlib _ flag => some flag
  | _ => none

section Discovery

variable {ccompType : String} {cTest : List String → String → Bool}
  {disabled : List String} {features : List (String × Test)}

end Discovery

end ExtUnix.Discover
