import ExtUnix.Linkage.Bodies

namespace ExtUnix.Linkage

open ExtUnix.Cpp (sameText sameText_iff)
open ExtUnix.Ppx
open Bindings (body)
open Bodies (bodies)

/-! How the definitions of `extUnix.pp.ml` and the names of its externals fit
together. -/

def entries : List (Placed × Body) := (attach (placeds body) bodies).reverse

/-- The conditions around the first external of a name that is in a section. -/
def externalConds (name : String) : Option (List Cond) :=
  ((sectioned body).find? fun entry => sameText entry.2.name name).map Prod.fst

def wrappers : List String := [
  "realpath", "setsockopt_int", "getsockopt_int", "have_sockopt_int", "poll",
  "sysconf"]

/-- Functions that call an external of another name, and have the name of an
external of `BA`. -/
def namesakes : List String :=
  ["all_", "single_", "", "intr_"].flatMap fun variant =>
    [variant ++ "read", variant ++ "write"]

def givesName (name : String) (ends : List End) : Bool :=
  ends.all fun e => !e.reached ||
    match e.ended with
    | .raised (.notAvailable other) => sameText other name
    | _ => false

def isWrapper (placed : Placed) : Bool :=
  placed.path.isEmpty && wrappers.any (sameText · (valueName placed))

def isNamesake (placed : Placed) : Bool :=
  placed.path.isEmpty && namesakes.any (sameText · (valueName placed))

theorem givesName_iff (name : String) (ends : List End) :
    givesName name ends = true ↔ ∀ e ∈ ends, e.reached = true →
      e.ended = .raised (.notAvailable name) := by
  rw [givesName, List.all_eq_true]
  refine forall₂_congr fun e _ => ?_
  rw [Bool.or_eq_true, Bool.not_eq_true']
  cases e.reached with
  | false => simp
  | true =>
      simp only [Bool.true_eq_false, false_or, forall_const]
      split
      · rename_i other ended
        rw [ended, sameText_iff]
        simp
      · rename_i differs
        simpa using fun raised => differs name raised

theorem isWrapper_iff (placed : Placed) :
    isWrapper placed = true ↔
      placed.path = [] ∧ valueName placed ∈ wrappers := by
  simp [isWrapper, sameText_iff]

theorem isNamesake_iff (placed : Placed) :
    isNamesake placed = true ↔
      placed.path = [] ∧ valueName placed ∈ namesakes := by
  simp [isNamesake, sameText_iff]

def audited (earlier : List (Placed × Body)) (entry : Placed × Body) : Bool :=
  entry.1.conds.isEmpty || !isLet entry.1 ||
    match externalConds (valueName entry.1) with
    | none => !isWrapper entry.1 && !isNamesake entry.1
    | some conds =>
        codes conds == codes entry.1.conds &&
          if givesName (valueName entry.1)
              ((bindUnder (fun _ => false) entry).ends
                (earlier.map (bindUnder fun _ => false))) then
            isWrapper entry.1
          else isNamesake entry.1 && !isWrapper entry.1

theorem entries_kept : everywhere keepsSection entries = true := by
  decide +kernel

theorem entries_audited : everywhere audited entries = true := by
  decide +kernel

theorem entries_unnamed :
    (entries.all fun entry => !sameText (valueName entry.1) "have") = true := by
  decide +kernel

theorem sectioned_agree :
    ((sectioned body).all fun entry =>
      match externalConds entry.2.name with
      | some conds => codes conds == codes entry.1
      | none => false) = true := by
  decide +kernel

end ExtUnix.Linkage
