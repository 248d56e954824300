import ExtUnix.Cpp.Facts
import ExtUnix.Safety.Language

namespace ExtUnix.Safety

/-! The C functions of the library, down to what they do with the memory of the
runtime and of C, in the order of their statements.  Numbers are not values here,
and what is on the C stack is not named. -/

/-- A variable has the name the source gives it, and one of a function that a
primitive calls the name of that function before its own. -/
structure Variable where
  name : String

instance : Coe String Variable := ⟨Variable.mk⟩

theorem Variable.same_iff {first second : Variable} :
    Cpp.sameText first.name second.name = true ↔ first = second := by
  rw [Cpp.sameText_iff]
  cases first
  cases second
  simp

instance : DecidableEq Variable := fun _ _ =>
  decidable_of_iff _ Variable.same_iff

structure Stub where
  name : String
  params : List Variable
  body : Command Variable

namespace Command

variable {ν : Type}

def param (values : List ν) : Command ν := .act (.param values)

def locals (values : List ν) : Command ν := .act (.locals values)

def drop (values : List ν) : Command ν := .act (.drop values)

def inspect (values : List ν) : Command ν := .act (.inspect values)

def copy (target source : ν) : Command ν := .act (.copy target source)

def create (target : ν) : Command ν := .act (.create target)

def borrow (pointer value : ν) : Command ν := .act (.borrow pointer value)

def pin (pointer value : ν) : Command ν := .act (.pin pointer value)

def malloc (name : ν) : Command ν := .act (.malloc name)

def reserve (name : ν) : Command ν := .act (.reserve name)

def free (name : ν) : Command ν := .act (.free name)

def touch (pointers : List ν) : Command ν := .act (.touch pointers)

def enter : Command ν := .act .enter

def leave : Command ν := .act .leave

def give (values : List ν) : Command ν := .stop false values

/-- An exception; `caml_uerror` carries the value it is given. -/
def raise (values : List ν) : Command ν := .stop true values

def maybe (body : Command ν) : Command ν := .choose body .skip

def mayRaise (values : List ν) : Command ν := maybe (raise values)

/-- `caml_stat_strdup(String_val(value))`. -/
def strdup (copied value : ν) : Command ν :=
  block [inspect [value], reserve copied]

/-- `caml_copy_string`, which reads the C string again after its allocation. -/
def copy_string (target : ν) (pointers : List ν) : Command ν :=
  block [touch pointers, create target, touch pointers]

/-- `Store_field(target, n, e)` for an `e` that allocates. -/
def storeNew (target temporary : ν) (pointers : List ν) : Command ν :=
  block [copy_string temporary pointers, inspect [target, temporary]]

def blocking (pointers : List ν) : Command ν :=
  block [enter, touch pointers, leave]

end Command

open Command

/-- Some parameters are copied, the system call is made without the lock, the
copies are freed in the order `freed`, and a failure carries `raised`. -/
def copying (name : String) (params : List Variable)
    (copies : List (Variable × Variable))
    (flags freed raised : List Variable) : Stub where
  name := name
  params := params
  body := block [
    param params, block (copies.map fun entry => strdup entry.1 entry.2),
    inspect flags, blocking (copies.map Prod.fst), block (freed.map free),
    mayRaise raised, give []]

/-- A system call without the lock, on numbers read from `inspected`. -/
def waiting (name : String) (params inspected : List Variable) : Stub where
  name := name
  params := params
  body := block [
    param params, inspect inspected, blocking [], mayRaise [], give []]

/-- A system call with the lock, on numbers read from `inspected`. -/
def direct (name : String) (params inspected : List Variable) : Stub where
  name := name
  params := params
  body := block [param params, inspect inspected, mayRaise [], give []]

def bare (name : String) (params : List Variable) : Stub where
  name := name
  params := params
  body := block [mayRaise [], give []]

def quiet (name : String) (params : List Variable) : Stub where
  name := name
  params := params
  body := give []

def number (boxed : Bool) : Command Variable :=
  if boxed then block [create "result", give ["result"]] else give []

end ExtUnix.Safety
