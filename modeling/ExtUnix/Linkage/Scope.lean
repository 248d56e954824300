import ExtUnix.Cpp.Facts
import ExtUnix.Ppx.Placed
import ExtUnix.Ppx.Table

namespace ExtUnix.Linkage

open ExtUnix.Cpp (sameText sameText_iff textCode textCode_inj)
open ExtUnix.Ppx

/-! How applications of the values of a structure end, as far as the primitives
they reach decide it. -/

inductive Exception where
  | notAvailable (name : String)
  | notFound
  | accessDenied
  | other
  deriving DecidableEq

inductive Pattern where
  | notAvailable
  | notFound
  | accessDenied
  | any

def Pattern.catches : Pattern → Exception → Bool
  | .notAvailable, .notAvailable _ => true
  | .notFound, .notFound => true
  | .accessDenied, .accessDenied => true
  | .any, _ => true
  | _, _ => false

inductive Ended where
  | returned
  | raised (exception : Exception)
  deriving DecidableEq

structure End where
  reached : Bool
  ended : Ended
  deriving DecidableEq

def End.after (start : End) (rest : End) : End :=
  ⟨start.reached || rest.reached, rest.ended⟩

/-- The body of a function, up to what it does without the values of the
structure. -/
inductive Body where
  | pure
  | apply (name : String)
  | raise (exception : Exception)
  | seq (first second : Body)
  | either (first second : Body)
  | handle (body : Body) (pattern : Pattern) (handler : Body)

namespace Body

def ends (call : String → List End) : Body → List End
  | .pure => [⟨false, .returned⟩, ⟨false, .raised .other⟩]
  | .apply name => call name
  | .raise exception => [⟨false, .raised exception⟩]
  | .seq first second =>
      (first.ends call).flatMap fun start =>
        match start.ended with
        | .returned => (second.ends call).map start.after
        | .raised _ => [start]
  | .either first second => first.ends call ++ second.ends call
  | .handle body pattern handler =>
      (body.ends call).flatMap fun start =>
        match start.ended with
        | .returned => [start]
        | .raised exception =>
            if pattern.catches exception then
              (handler.ends call).map start.after
            else [start]

def names : Body → List String
  | .pure | .raise _ => []
  | .apply name => [name]
  | .seq first second | .either first second => first.names ++ second.names
  | .handle body _ handler => body.names ++ handler.names

theorem ends_congr {call call' : String → List End} (body : Body)
    (same : ∀ name ∈ body.names, call name = call' name) :
    body.ends call = body.ends call' := by
  induction body with
  | pure | raise => rfl
  | apply name => exact same name (by simp [names])
  | seq first second firstSame secondSame
  | either first second firstSame secondSame
  | handle first pattern second firstSame secondSame =>
      have inFirst := firstSame fun name member =>
        same name (List.mem_append_left _ member)
      have inSecond := secondSame fun name member =>
        same name (List.mem_append_right _ member)
      simp only [ends, inFirst, inSecond]

end Body

inductive Meaning where
  | primitive
  | missing (name : String)
  | body (body : Body)
  | table (funcs : Funcs)
  | nothing

structure Bound where
  path : List String
  name : String
  meaning : Meaning

def valueName (placed : Placed) : String :=
  match placed.item with
  | .primitive external => external.name
  | .value _ [binding] => binding.name
  | _ => ""

/-- The item is a definition of the source, not one made by the preprocessor. -/
def isLet (placed : Placed) : Bool :=
  match placed.item with
  | .value _ [⟨_, .other _, _⟩] => true
  | _ => false

def meaning (placed : Placed) (body : Body) : Meaning :=
  match placed.item with
  | .primitive _ => .primitive
  | .value _ [⟨_, .other _, _⟩] => .body body
  | .value _ [⟨_, .cases funcs, _⟩] => .table funcs
  | .value _ [⟨_, expr, _⟩] =>
      match expr.apply expr.labels with
      | .raised name => .missing name
      | _ => .nothing
  | _ => .nothing

def attach : List Placed → List Body → List (Placed × Body)
  | [], _ => []
  | placed :: rest, bodies =>
      if isLet placed then
        (placed, bodies.headD .pure) :: attach rest bodies.tail
      else (placed, .pure) :: attach rest bodies

theorem attach_append (first second : List Placed) (bodies : List Body) :
    ∃ rest, attach (first ++ second) bodies =
      attach first bodies ++ attach second rest := by
  induction first generalizing bodies with
  | nil => exact ⟨bodies, rfl⟩
  | cons placed others induction =>
      rw [List.cons_append, attach, attach]
      split_ifs
      · obtain ⟨rest, equal⟩ := induction bodies.tail
        exact ⟨rest, by rw [equal, List.cons_append]⟩
      · obtain ⟨rest, equal⟩ := induction bodies
        exact ⟨rest, by rw [equal, List.cons_append]⟩

theorem attach_cons (placed : Placed) (rest : List Placed)
    (bodies : List Body) :
    ∃ body remaining, attach (placed :: rest) bodies =
      (placed, body) :: attach rest remaining := by
  rw [attach]
  split_ifs
  · exact ⟨_, _, rfl⟩
  · exact ⟨_, _, rfl⟩

theorem mem_attach {layout : List Placed} {bodies : List Body}
    {entry : Placed × Body} (attached : entry ∈ attach layout bodies) :
    entry.1 ∈ layout := by
  induction layout generalizing bodies with
  | nil => cases attached
  | cons placed rest induction =>
      obtain ⟨body, remaining, equal⟩ := attach_cons placed rest bodies
      rw [equal] at attached
      obtain rfl | attached := List.mem_cons.mp attached
      · exact List.mem_cons_self
      · exact List.mem_cons_of_mem _ (induction attached)

def bind (entry : Placed × Body) : Bound :=
  ⟨entry.1.path, valueName entry.1, meaning entry.1 entry.2⟩

def scope (items : List Item) (bodies : List Body) : List Bound :=
  ((attach (placeds items) bodies).map bind).reverse

/-- A name at a place stands for the latest value of that name in the modules
around the place. -/
def called : List Bound → List String → String → List End
  | [], _, _ => []
  | bound :: earlier, path, name =>
      if sameText bound.name name && bound.path.isPrefixOf path then
        match bound.meaning with
        | .primitive => [⟨false, .returned⟩, ⟨false, .raised .notFound⟩,
            ⟨false, .raised .accessDenied⟩, ⟨false, .raised .other⟩]
        | .missing name => [⟨true, .raised (.notAvailable name)⟩]
        | .body body => body.ends (called earlier bound.path)
        | .table _ | .nothing => []
      else called earlier path name

def Bound.ends (earlier : List Bound) (bound : Bound) : List End :=
  called (bound :: earlier) bound.path bound.name

theorem Bound.sees_itself (bound : Bound) :
    (sameText bound.name bound.name &&
      bound.path.isPrefixOf bound.path) = true := by
  rw [Bool.and_eq_true]
  exact ⟨sameText_iff.mpr rfl, by simp⟩

theorem called_cons (bound : Bound) (earlier : List Bound)
    (path : List String) (name : String) :
    called (bound :: earlier) path name =
      if sameText bound.name name && bound.path.isPrefixOf path then
        bound.ends earlier
      else called earlier path name := by
  rw [Bound.ends, called, called, if_pos bound.sees_itself]

theorem Bound.ends_eq (bound : Bound) (earlier : List Bound) :
    bound.ends earlier =
      match bound.meaning with
      | .primitive => [⟨false, .returned⟩, ⟨false, .raised .notFound⟩,
          ⟨false, .raised .accessDenied⟩, ⟨false, .raised .other⟩]
      | .missing name => [⟨true, .raised (.notAvailable name)⟩]
      | .body body => body.ends (called earlier bound.path)
      | .table _ | .nothing => [] := by
  rw [Bound.ends, called, if_pos (bound.sees_itself)]

def member : List Bound → List String → String → Option (Bound × List Bound)
  | [], _, _ => none
  | bound :: earlier, path, name =>
      if bound.path = path ∧ bound.name = name then some (bound, earlier)
      else member earlier path name

def applied (bounds : List Bound) (path : List String) (name : String) :
    List End :=
  match member bounds path name with
  | some (bound, earlier) => bound.ends earlier
  | none => []

theorem applied_cons_of_ne {bound : Bound} {bounds : List Bound}
    {path : List String} {name : String}
    (different : ¬(bound.path = path ∧ bound.name = name)) :
    applied (bound :: bounds) path name = applied bounds path name := by
  rw [applied, applied, member, if_neg different]

def haveOf (bounds : List Bound) (name : String) : Option Bool :=
  match member bounds [] "have" with
  | some (⟨_, _, .table funcs⟩, _) => funcs.find name
  | _ => none

/-- What All binds for an item of the source, when `available` says which
conditions hold. -/
def bindUnder (available : List Cond → Bool) (entry : Placed × Body) :
    Bound where
  path := entry.1.path
  name := valueName entry.1
  meaning :=
    match entry.1.item with
    | .primitive external =>
        if available entry.1.conds then .primitive
        else .missing external.name
    | _ => meaning entry.1 entry.2

theorem called_bindUnder (available : List Cond → Bool)
    (entry : Placed × Body) (earlier : List (Placed × Body))
    (path : List String) (name : String) :
    called ((entry :: earlier).map (bindUnder available)) path name =
      if sameText (valueName entry.1) name && entry.1.path.isPrefixOf path then
        (bindUnder available entry).ends (earlier.map (bindUnder available))
      else called (earlier.map (bindUnder available)) path name :=
  called_cons (bindUnder available entry) _ path name

def holding (feature : String → Option Bool) (conds : List Cond) : Bool :=
  conds.all (·.holds feature)

theorem isLet_dummy (path : List String) (conds : List Cond)
    (external : External) :
    isLet ⟨path, conds, .value false [dummy external]⟩ = false := by
  cases type : external.type <;> simp [isLet, dummy, type, makeDummyF]

theorem meaning_dummy (path : List String) (conds : List Cond)
    (external : External) (body : Body) :
    meaning ⟨path, conds, .value false [dummy external]⟩ body =
      .missing external.name := by
  have labels := labels_makeDummyF (.raiseNotAvailable external.name)
    external.type
  have raised := (apply_makeDummyF external.name external.type
    external.type.labels).1 (List.Subperm.refl _)
  rw [← labels] at raised
  cases type : external.type <;> rw [type] at raised <;>
    simp only [makeDummyF] at raised <;>
    simp only [meaning, dummy, type, makeDummyF, raised]

theorem isLet_rendered (feature : String → Option Bool) (placed : Placed) :
    isLet (placed.rendered feature true) = isLet placed := by
  obtain ⟨path, conds, item⟩ := placed
  cases item with
  | primitive external =>
      rw [Placed.rendered]
      dsimp only
      split_ifs
      · rfl
      · rw [isLet_dummy]
        rfl
  | value | types | module | have_ | showMeTheMoney | other => rfl

theorem attach_rendered (feature : String → Option Bool)
    (layout : List Placed) (bodies : List Body) :
    attach (layout.map (·.rendered feature true)) bodies =
      (attach layout bodies).map fun entry =>
        (entry.1.rendered feature true, entry.2) := by
  induction layout generalizing bodies with
  | nil => rfl
  | cons placed rest induction =>
      rw [List.map_cons, attach, attach, isLet_rendered]
      split_ifs <;> simp only [List.map_cons, induction]

theorem bind_rendered (feature : String → Option Bool)
    (entry : Placed × Body) :
    bind (entry.1.rendered feature true, entry.2) =
      bindUnder (holding feature) entry := by
  obtain ⟨⟨path, conds, item⟩, body⟩ := entry
  cases item with
  | primitive external =>
      by_cases holds : conds.all (·.holds feature) = true
      · simp [bind, bindUnder, Placed.rendered, Placed.available, holding,
          holds, valueName, meaning]
      · simp [bind, bindUnder, Placed.rendered, Placed.available, holding,
          holds, valueName, meaning_dummy]
        rfl
  | value | types | module | have_ | showMeTheMoney | other => rfl

theorem scope_money (feature : String → Option Bool) (items : List Item)
    (bodies : List Body) (doc : String) (funcs : Funcs) :
    scope (renders feature true items ++ showMeTheMoneyExpand true doc funcs)
        bodies =
      ⟨[], "have", .table funcs⟩ ::
        (attach (placeds items) bodies).reverse.map
          (bindUnder (holding feature)) := by
  obtain ⟨rest, attached⟩ := attach_append
    (placeds (renders feature true items))
    (placeds (showMeTheMoneyExpand true doc funcs)) bodies
  have money : attach (placeds (showMeTheMoneyExpand true doc funcs)) rest =
      [(⟨[], [], .value false [⟨"have", .cases funcs, [doc]⟩]⟩, .pure)] := rfl
  have rendered : (attach (placeds items) bodies).map
      (bind ∘ fun entry => (entry.1.rendered feature true, entry.2)) =
        (attach (placeds items) bodies).map (bindUnder (holding feature)) :=
    List.map_congr_left fun entry _ => bind_rendered feature entry
  rw [scope, placeds_append, attached, money, placeds_renders, attach_rendered,
    List.map_append, List.reverse_append, List.map_map, rendered,
    List.map_reverse]
  rfl

def clauses (cond : Cond) : List (List String) :=
  match cond.disjunction with
  | .ok disjunction => disjunction
  | .error _ => []

theorem holds_eq (feature : String → Option Bool) (cond : Cond) :
    cond.holds feature = (clauses cond).any fun conjunction =>
      conjunction.all fun name => feature name == some true := by
  rw [Cond.holds, clauses]
  cases cond.disjunction <;> rfl

def codes (conds : List Cond) : List (List (List Nat)) :=
  conds.map fun cond => (clauses cond).map (·.map textCode)

theorem holding_congr (feature : String → Option Bool)
    {first second : List Cond} (same : codes first = codes second) :
    holding feature first = holding feature second := by
  have texts : Function.Injective textCode :=
    fun _ _ equal => textCode_inj.mp equal
  induction first generalizing second with
  | nil =>
      cases second with
      | nil => rfl
      | cons => cases same
  | cons cond rest induction =>
      cases second with
      | nil => cases same
      | cons second seconds =>
          obtain ⟨head, tail⟩ := List.cons.inj same
          have equal : clauses cond = clauses second :=
            List.map_injective_iff.mpr (List.map_injective_iff.mpr texts) head
          rw [holding, holding, List.all_cons, List.all_cons, holds_eq,
            holds_eq, equal]
          exact congrArg _ (induction tail)

def resolve : List (Placed × Body) → List String → String → Option Placed
  | [], _, _ => none
  | (placed, _) :: earlier, path, name =>
      if sameText (valueName placed) name && placed.path.isPrefixOf path then
        some placed
      else resolve earlier path name

/-- The values a definition applies are under the same conditions as it is. -/
def keepsSection (earlier : List (Placed × Body)) (entry : Placed × Body) :
    Bool :=
  entry.2.names.all fun name =>
    match resolve earlier entry.1.path name with
    | some target => codes target.conds == codes entry.1.conds
    | none => false

def everywhere (check : List (Placed × Body) → Placed × Body → Bool) :
    List (Placed × Body) → Bool
  | [] => true
  | entry :: earlier => check earlier entry && everywhere check earlier

theorem everywhere_split
    {check : List (Placed × Body) → Placed × Body → Bool}
    {later earlier : List (Placed × Body)} {entry : Placed × Body}
    (checked : everywhere check (later ++ entry :: earlier) = true) :
    check earlier entry = true ∧ everywhere check earlier = true := by
  induction later with
  | nil =>
      rw [List.nil_append, everywhere, Bool.and_eq_true] at checked
      exact checked
  | cons first rest induction =>
      rw [List.cons_append, everywhere, Bool.and_eq_true] at checked
      exact induction checked.2

theorem body_of_meaning {placed : Placed} {body found : Body}
    (equal : meaning placed body = .body found) : found = body := by
  unfold meaning at equal
  split at equal
  · cases equal
  · cases equal
    rfl
  · cases equal
  · split at equal <;> cases equal
  · cases equal

section Uniform

variable (feature : String → Option Bool) {conds : List Cond}

theorem ends_uniform {entry : Placed × Body} {earlier : List (Placed × Body)}
    (kept : keepsSection earlier entry = true)
    (same : codes entry.1.conds = codes conds)
    (calls : ∀ path name target, resolve earlier path name = some target →
      codes target.conds = codes conds →
      called (earlier.map (bindUnder (holding feature))) path name =
        called (earlier.map (bindUnder fun _ => holding feature conds)) path
          name) :
    (bindUnder (holding feature) entry).ends
        (earlier.map (bindUnder (holding feature))) =
      (bindUnder (fun _ => holding feature conds) entry).ends
        (earlier.map (bindUnder fun _ => holding feature conds)) := by
  obtain ⟨⟨path, around, item⟩, body⟩ := entry
  rw [Bound.ends_eq, Bound.ends_eq]
  cases item with
  | primitive external =>
      have holds := holding_congr feature same
      simp only [bindUnder, holds]
      split_ifs <;> rfl
  | value | types | module | have_ | showMeTheMoney | other =>
      simp only [bindUnder]
      split
      · rfl
      · rfl
      · rename_i found equal
        rw [body_of_meaning equal]
        apply Body.ends_congr
        intro name applied
        have checked := List.all_eq_true.mp kept name applied
        split at checked
        · rename_i target resolved
          exact calls path name target resolved
            ((beq_iff_eq.mp checked).trans same)
        · cases checked
      · rfl
      · rfl

theorem called_uniform {entries : List (Placed × Body)}
    (kept : everywhere keepsSection entries = true) {path : List String} {name : String}
    {target : Placed} (resolved : resolve entries path name = some target)
    (same : codes target.conds = codes conds) :
    called (entries.map (bindUnder (holding feature))) path name =
      called (entries.map (bindUnder fun _ => holding feature conds)) path
        name := by
  induction entries generalizing path name target with
  | nil => cases resolved
  | cons entry earlier induction =>
      rw [everywhere, Bool.and_eq_true] at kept
      rw [resolve] at resolved
      rw [called_bindUnder, called_bindUnder]
      by_cases seen : (sameText (valueName entry.1) name &&
          entry.1.path.isPrefixOf path) = true
      · rw [if_pos seen] at resolved
        cases resolved
        rw [if_pos seen, if_pos seen]
        exact ends_uniform feature kept.1 same
          fun _ _ _ resolved same => induction kept.2 resolved same
      · rw [if_neg seen] at resolved
        rw [if_neg seen, if_neg seen]
        exact induction kept.2 resolved same

end Uniform

end ExtUnix.Linkage
