import ExtUnix.Ppx.Have
import Mathlib.Data.List.Perm.Subperm

namespace ExtUnix.Ppx

section Configuration

variable (feature : String → Option Bool)

/-! Conditions, read as disjunctions of conjunctions. -/

def Cond.disjunction : Cond → Except String (List (List String))
  | .eval expr => disjOfExpr expr
  | .other => .error "have: eval_cond"

def Cond.holds (cond : Cond) : Bool :=
  match cond.disjunction with
  | .ok disjunction => disjunction.any fun conjunction =>
      conjunction.all fun name => feature name == some true
  | .error _ => false

def Cond.Registered (cond : Cond) : Prop :=
  ∃ disjunction, cond.disjunction = .ok disjunction ∧
    ∀ conjunction ∈ disjunction, ∀ name ∈ conjunction,
      (feature name).isSome = true

variable {feature}

theorem allM_check {names : List String}
    (registered : ∀ name ∈ names, (feature name).isSome = true) :
    names.allM (check feature) =
      .ok (names.all fun name => feature name == some true) := by
  induction names with
  | nil => rfl
  | cons name rest induction =>
      obtain ⟨available, found⟩ :=
        Option.isSome_iff_exists.mp (registered name (by simp))
      have tail := induction fun later member =>
        registered later (by simp [member])
      have head : check feature name = .ok available := by
        rw [check, found]
      rw [List.allM, head, List.all_cons, found]
      cases available with
      | true => exact tail
      | false => rfl

theorem anyM_allM_check {disjunction : List (List String)}
    (registered : ∀ conjunction ∈ disjunction, ∀ name ∈ conjunction,
      (feature name).isSome = true) :
    (disjunction.anyM fun conjunction => conjunction.allM (check feature)) =
      .ok (disjunction.any fun conjunction =>
        conjunction.all fun name => feature name == some true) := by
  induction disjunction with
  | nil => rfl
  | cons conjunction rest induction =>
      have head := allM_check (registered conjunction (by simp))
      have tail := induction fun later member =>
        registered later (by simp [member])
      rw [List.anyM, head, List.any_cons]
      cases conjunction.all fun name => feature name == some true with
      | true => rfl
      | false => exact tail

theorem evalCond_registered {cond : Cond} (registered : cond.Registered feature) :
    evalCond feature cond = .ok (cond.holds feature) := by
  obtain ⟨disjunction, equal, named⟩ := registered
  cases cond with
  | other => cases equal
  | eval expr =>
      have parsed : disjOfExpr expr = .ok disjunction := equal
      rw [Cond.holds, equal, evalCond, parsed]
      exact anyM_allM_check named

theorem all_of_allM_check {names : List String} {value : Bool}
    (evaluated : names.allM (check feature) = .ok value) :
    (names.all fun name => feature name == some true) = value := by
  induction names with
  | nil =>
      cases evaluated
      rfl
  | cons name rest induction =>
      rw [List.allM] at evaluated
      obtain ⟨available, checked, evaluated⟩ := bind_eq_ok evaluated
      rw [check] at checked
      split at checked
      · cases checked
      · rename_i found
        cases checked
        rw [List.all_cons, found]
        cases available with
        | true =>
            rw [induction evaluated]
            rfl
        | false =>
            cases evaluated
            rfl

theorem any_of_anyM_allM {disjunction : List (List String)} {value : Bool}
    (evaluated : (disjunction.anyM fun conjunction =>
      conjunction.allM (check feature)) = .ok value) :
    (disjunction.any fun conjunction =>
      conjunction.all fun name => feature name == some true) = value := by
  induction disjunction with
  | nil =>
      cases evaluated
      rfl
  | cons conjunction rest induction =>
      rw [List.anyM] at evaluated
      obtain ⟨met, checked, evaluated⟩ := bind_eq_ok evaluated
      rw [List.any_cons, all_of_allM_check checked]
      cases met with
      | true =>
          cases evaluated
          rfl
      | false =>
          rw [induction evaluated]
          rfl

theorem holds_of_evalCond {cond : Cond} {value : Bool}
    (evaluated : evalCond feature cond = .ok value) :
    cond.holds feature = value := by
  cases cond with
  | other => cases evaluated
  | eval expr =>
      obtain ⟨disjunction, parsed, evaluated⟩ := bind_eq_ok evaluated
      have disjunctive : (Cond.eval expr).disjunction = .ok disjunction := parsed
      rw [Cond.holds, disjunctive]
      exact any_of_anyM_allM evaluated

variable (feature)

mutual
/-- An item of the source, with the sections whose condition holds spliced in
place and the others removed. -/
def Item.specific : Item → List Item
  | .module name items => [.module name (specifics items)]
  | .have_ cond items => if cond.holds feature then specifics items else []
  | item => [item]

def specifics : List Item → List Item
  | [] => []
  | item :: rest => item.specific ++ specifics rest
end

mutual
/-- An item of the source with all sections spliced in place.  Externals are
kept verbatim when `enabled` and all conditions around them hold. -/
def Item.render (enabled : Bool) : Item → List Item
  | .primitive external =>
      if enabled then [.primitive external]
      else [.value false [dummy external]]
  | .module name items => [.module name (renders enabled items)]
  | .have_ cond items => renders (enabled && cond.holds feature) items
  | item => [item]

def renders (enabled : Bool) : List Item → List Item
  | [] => []
  | item :: rest => item.render enabled ++ renders enabled rest
end

inductive Outline where
  | value (name : String)
  | module (name : String) (contents : List Outline)

mutual
def Item.outline : Item → List Outline
  | .primitive external => [.value external.name]
  | .value _ bindings => bindings.map fun binding => .value binding.name
  | .module name items => [.module name (outlines items)]
  | .have_ _ items => outlines items
  | _ => []

def outlines : List Item → List Outline
  | [] => []
  | item :: rest => item.outline ++ outlines rest
end

def Constructor.Registered (constructor : Constructor) : Prop :=
  ∀ mark ∈ constructor.attributes, mark.name = "have" →
    ∀ cond conds, mark.payload = some (cond :: conds) →
      cond.Registered feature

def CoreType.isArrow : CoreType → Bool
  | .arrow _ _ _ => true
  | _ => false

mutual
/-- Externals have a syntactic arrow type, and every feature named by a
condition is registered. -/
def Item.Admissible : Item → Prop
  | .primitive external => external.type.isArrow = true
  | .types declarations => ∀ declaration ∈ declarations,
      ∀ constructor ∈ declaration.constructors,
        constructor.Registered feature
  | .module _ items => Admissibles items
  | .have_ cond items => cond.Registered feature ∧ Admissibles items
  | .showMeTheMoney _ => False
  | _ => True

def Admissibles : List Item → Prop
  | [] => True
  | item :: rest => item.Admissible ∧ Admissibles rest
end

variable {feature}

theorem mapM_ok {action : α → Except ε β} {values : List α}
    (succeeds : ∀ value ∈ values, ∃ result, action value = .ok result) :
    ∃ results, values.mapM action = .ok results := by
  induction values with
  | nil => exact ⟨[], rfl⟩
  | cons value rest induction =>
      obtain ⟨head, headOk⟩ := succeeds value (by simp)
      obtain ⟨tail, tailOk⟩ := induction fun later member =>
        succeeds later (by simp [member])
      refine ⟨head :: tail, ?_⟩
      rw [List.mapM_cons, headOk, tailOk]
      rfl

theorem haveConstructor_ok {constructor : Constructor}
    (registered : constructor.Registered feature) :
    ∃ result, haveConstructor feature constructor = .ok result := by
  unfold haveConstructor
  split
  · rename_i cond conds attributes
    have evaluated := evalCond_registered
      (registered ⟨"have", some (cond :: conds)⟩ (by simp [attributes]) rfl
        cond conds rfl)
    rw [evaluated]
    cases cond.holds feature with
    | true => exact ⟨_, rfl⟩
    | false => exact ⟨_, rfl⟩
  · exact ⟨_, rfl⟩

theorem haveConstrs_cons_ok {item : Item} {rest : List Item}
    (headOk : ∃ head, haveConstr feature item = .ok head)
    (tailOk : ∃ tail, haveConstrs feature rest = .ok tail) :
    ∃ result, haveConstrs feature (item :: rest) = .ok result := by
  obtain ⟨head, headOk⟩ := headOk
  obtain ⟨tail, tailOk⟩ := tailOk
  refine ⟨head :: tail, ?_⟩
  rw [haveConstrs, headOk, tailOk]
  rfl

theorem haveConstrs_ok {items : List Item}
    (admissible : Admissibles feature items) :
    ∃ result, haveConstrs feature items = .ok result := by
  induction items using Item.induction with
  | nil => exact ⟨[], rfl⟩
  | primitive _ _ induction | value _ _ _ induction | other _ _ induction =>
      exact haveConstrs_cons_ok ⟨_, rfl⟩ (induction admissible.2)
  | showMeTheMoney => exact admissible.1.elim
  | types declarations rest induction =>
      obtain ⟨renamed, renamedOk⟩ : ∃ renamed,
          declarations.mapM (haveDeclaration feature) = .ok renamed := by
        apply mapM_ok
        intro declaration member
        obtain ⟨constructors, constructorsOk⟩ := mapM_ok
          fun constructor within => haveConstructor_ok
            (admissible.1 declaration member constructor within)
        refine ⟨{ declaration with constructors }, ?_⟩
        rw [haveDeclaration, constructorsOk]
        rfl
      refine haveConstrs_cons_ok ⟨.types renamed, ?_⟩ (induction admissible.2)
      rw [haveConstr, renamedOk]
      rfl
  | module name items rest inner induction =>
      obtain ⟨renamed, renamedOk⟩ := inner admissible.1
      refine haveConstrs_cons_ok ⟨.module name renamed, ?_⟩
        (induction admissible.2)
      rw [haveConstr, renamedOk]
      rfl
  | have_ cond items rest inner induction =>
      obtain ⟨renamed, renamedOk⟩ := inner admissible.1.2
      refine haveConstrs_cons_ok ⟨.have_ cond renamed, ?_⟩
        (induction admissible.2)
      rw [haveConstr, renamedOk]
      rfl

theorem Constructor.registered_forget (constructor : Constructor) :
    constructor.forget.Registered feature ↔
      constructor.Registered feature := by
  rw [Constructor.forget]
  split_ifs <;> rfl

theorem admissibles_forgets (items : List Item) :
    Admissibles feature (forgets items) ↔ Admissibles feature items := by
  induction items using Item.induction with
  | nil => rfl
  | primitive _ _ induction | value _ _ _ induction
  | showMeTheMoney _ _ induction | other _ _ induction =>
      exact and_congr_right fun _ => induction
  | types declarations rest induction =>
      refine and_congr ?_ induction
      simp only [Item.forget, Item.Admissible, List.forall_mem_map,
        TypeDeclaration.forget, Constructor.registered_forget]
  | module name items rest inner induction => exact and_congr inner induction
  | have_ cond items rest inner induction =>
      exact and_congr (and_congr_right fun _ => inner) induction

theorem forgets_append (first second : List Item) :
    forgets (first ++ second) = forgets first ++ forgets second := by
  induction first with
  | nil => rfl
  | cons item rest induction =>
      rw [List.cons_append, forgets, forgets, induction, List.cons_append]

theorem specifics_forgets (items : List Item) :
    specifics feature (forgets items) = forgets (specifics feature items) := by
  induction items using Item.induction with
  | nil => rfl
  | primitive _ _ induction | value _ _ _ induction | types _ _ induction
  | showMeTheMoney _ _ induction | other _ _ induction =>
      simp only [forgets, Item.forget, specifics, Item.specific, induction,
        List.cons_append, List.nil_append]
  | module name items rest inner induction =>
      simp only [forgets, Item.forget, specifics, Item.specific, inner,
        induction, List.cons_append, List.nil_append]
  | have_ cond items rest inner induction =>
      simp only [forgets, Item.forget, specifics, Item.specific, induction]
      split_ifs with holds
      · rw [inner, forgets_append]
      · rfl

theorem admissibles_invalidExternals {items : List Item}
    (admissible : Admissibles feature items) :
    Admissibles feature (invalidExternals items) := by
  induction items using Item.induction with
  | nil => trivial
  | primitive _ _ induction => exact ⟨trivial, induction admissible.2⟩
  | value _ _ _ induction | types _ _ induction | showMeTheMoney _ _ induction
  | other _ _ induction =>
      exact ⟨admissible.1, induction admissible.2⟩
  | module name items rest inner induction =>
      exact ⟨inner admissible.1, induction admissible.2⟩
  | have_ cond items rest inner induction =>
      exact ⟨⟨admissible.1.1, inner admissible.1.2⟩, induction admissible.2⟩

/-- Once the externals of a section are rewritten, the conditions inside it no
longer matter. -/
theorem renders_invalidExternals (enabled : Bool) (items : List Item) :
    renders feature enabled (invalidExternals items) =
      renders feature false items := by
  induction items using Item.induction generalizing enabled with
  | nil => rfl
  | primitive _ _ induction | value _ _ _ induction | types _ _ induction
  | showMeTheMoney _ _ induction | other _ _ induction =>
      simp [invalidExternals, invalidExternal, renders, Item.render, induction]
  | module name items rest inner induction =>
      simp only [invalidExternals, invalidExternal, renders, Item.render, inner,
        induction]
  | have_ cond items rest inner induction =>
      simp only [invalidExternals, invalidExternal, renders, Item.render, inner,
        induction, Bool.false_and]

theorem outlines_append (first second : List Item) :
    outlines (first ++ second) = outlines first ++ outlines second := by
  induction first with
  | nil => rfl
  | cons item rest induction =>
      rw [List.cons_append, outlines, outlines, induction, List.append_assoc]

theorem outlines_renders (enabled : Bool) (items : List Item) :
    outlines (renders feature enabled items) = outlines items := by
  induction items using Item.induction generalizing enabled with
  | nil => rfl
  | primitive external rest induction =>
      cases enabled <;>
        simp [renders, Item.render, outlines, Item.outline, induction, dummy]
  | value _ _ _ induction | types _ _ induction | showMeTheMoney _ _ induction
  | other _ _ induction =>
      simp [renders, Item.render, outlines, induction]
  | module name items rest inner induction =>
      simp [renders, Item.render, outlines, Item.outline, inner, induction]
  | have_ cond items rest inner induction =>
      simp only [renders, Item.render, outlines, Item.outline, outlines_append,
        inner, induction]

section Driver

variable {all : Bool} {funcs before after : Funcs} {rest tail : List Item}

theorem expand_have {cond : Cond} {body result output : List Item}
    {middle : Funcs}
    (section_ : haveExpand feature all cond body funcs = .ok (result, before))
    (inner : expand feature all result before = .ok (output, middle))
    (outer : expand feature all rest middle = .ok (tail, after)) :
    expand feature all (.have_ cond body :: rest) funcs =
      .ok (output ++ tail, after) := by
  rw [expand]
  split
  · rename_i failed
    cases section_.symm.trans failed
  · rename_i succeeded
    cases section_.symm.trans succeeded
    rw [inner]
    simp only [bind, Except.bind, outer]
    rfl

def Item.plain : Item → Bool
  | .primitive _ | .value _ _ | .types _ | .other _ => true
  | .module _ _ | .have_ _ _ | .showMeTheMoney _ => false

theorem expand_plain {item : Item} (plain : item.plain = true)
    (outer : expand feature all rest funcs = .ok (tail, after)) :
    expand feature all (item :: rest) funcs = .ok (item :: tail, after) := by
  cases item <;> cases plain
  all_goals
    rw [expand, outer]
    · rfl
    all_goals
      intros
      contradiction

theorem expand_module {name : String} {body output : List Item}
    (inner : expand feature all body funcs = .ok (output, before))
    (outer : expand feature all rest before = .ok (tail, after)) :
    expand feature all (.module name body :: rest) funcs =
      .ok (.module name output :: tail, after) := by
  rw [expand, inner]
  simp only [bind, Except.bind, outer]
  rfl

variable {output : List Item}

theorem expand_have_ok {cond : Cond} {body : List Item}
    (expanded : expand feature all (.have_ cond body :: rest) funcs =
      .ok (output, after)) :
    ∃ result before inner middle tail,
      haveExpand feature all cond body funcs = .ok (result, before) ∧
      expand feature all result before = .ok (inner, middle) ∧
      expand feature all rest middle = .ok (tail, after) ∧
      output = inner ++ tail := by
  rw [expand] at expanded
  split at expanded
  · cases expanded
  · rename_i result before section_
    obtain ⟨⟨inner, middle⟩, innerOk, expanded⟩ := bind_eq_ok expanded
    obtain ⟨⟨tail, last⟩, tailOk, expanded⟩ := bind_eq_ok expanded
    cases expanded
    exact ⟨result, before, inner, middle, tail, section_, innerOk, tailOk, rfl⟩

theorem expand_module_ok {name : String} {body : List Item}
    (expanded : expand feature all (.module name body :: rest) funcs =
      .ok (output, after)) :
    ∃ inner middle tail,
      expand feature all body funcs = .ok (inner, middle) ∧
      expand feature all rest middle = .ok (tail, after) ∧
      output = .module name inner :: tail := by
  rw [expand] at expanded
  obtain ⟨⟨inner, middle⟩, innerOk, expanded⟩ := bind_eq_ok expanded
  obtain ⟨⟨tail, last⟩, tailOk, expanded⟩ := bind_eq_ok expanded
  cases expanded
  exact ⟨inner, middle, tail, innerOk, tailOk, rfl⟩

theorem expand_money_ok {doc : String}
    (expanded : expand feature all (.showMeTheMoney doc :: rest) funcs =
      .ok (output, after)) :
    ∃ tail, expand feature all rest funcs = .ok (tail, after) ∧
      output = showMeTheMoneyExpand all doc funcs ++ tail := by
  rw [expand] at expanded
  obtain ⟨⟨tail, last⟩, tailOk, expanded⟩ := bind_eq_ok expanded
  cases expanded
  exact ⟨tail, tailOk, rfl⟩

theorem expand_plain_ok {item : Item} (plain : item.plain = true)
    (expanded : expand feature all (item :: rest) funcs = .ok (output, after)) :
    ∃ tail, expand feature all rest funcs = .ok (tail, after) ∧
      output = item :: tail := by
  cases item <;> cases plain
  all_goals
    rw [expand] at expanded
    · obtain ⟨⟨tail, last⟩, tailOk, expanded⟩ := bind_eq_ok expanded
      cases expanded
      exact ⟨tail, tailOk, rfl⟩
    all_goals
      intros
      contradiction

end Driver

/-- With `--gen-all`, the driver's output is the rendering of the source.  What
the table becomes follows the sections, in order: a true one is recorded and
then expanded, a false one is recorded and then expanded without its
externals. -/
theorem expand_all_induction {motive : List Item → Funcs → Funcs → Prop}
    (nil : ∀ funcs, motive [] funcs funcs)
    (plain : ∀ item rest funcs after, item.plain = true →
      motive rest funcs after → motive (item :: rest) funcs after)
    (module : ∀ name body rest funcs before after, motive body funcs before →
      motive rest before after → motive (.module name body :: rest) funcs after)
    (available : ∀ cond body rest funcs before after,
      cond.holds feature = true →
      motive body (recordExternals true body funcs) before →
      motive rest before after → motive (.have_ cond body :: rest) funcs after)
    (missing : ∀ cond body rest funcs before after,
      cond.holds feature = false →
      motive (invalidExternals body) (recordExternals false body funcs) before →
      motive rest before after → motive (.have_ cond body :: rest) funcs after)
    (items : List Item) (funcs : Funcs)
    (admissible : Admissibles feature items) :
    ∃ funcs', expand feature true items funcs =
      .ok (renders feature true items, funcs') ∧ motive items funcs funcs' := by
  match items with
  | [] => exact ⟨funcs, by rw [expand, renders], nil funcs⟩
  | .primitive _ :: rest | .value _ _ :: rest | .types _ :: rest |
      .other _ :: rest =>
      obtain ⟨after, outer, holds⟩ :=
        expand_all_induction nil plain module available missing rest
          funcs admissible.2
      exact ⟨after, expand_plain rfl outer, plain _ rest funcs after rfl holds⟩
  | .showMeTheMoney doc :: rest => exact admissible.1.elim
  | .module name body :: rest =>
      obtain ⟨before, inner, innerHolds⟩ :=
        expand_all_induction nil plain module available missing body
          funcs admissible.1
      obtain ⟨after, outer, holds⟩ :=
        expand_all_induction nil plain module available missing rest
          before admissible.2
      exact ⟨after, expand_module inner outer,
        module name body rest funcs before after innerHolds holds⟩
  | .have_ cond body :: rest =>
      obtain ⟨registered, bodyAdmissible⟩ := admissible.1
      have evaluated := evalCond_registered registered
      rw [renders, Item.render]
      cases holds : cond.holds feature with
      | true =>
          rw [holds] at evaluated
          have section_ : haveExpand feature true cond body funcs =
              .ok (body, recordExternals true body funcs) := by
            rw [haveExpand, evaluated]
            rfl
          obtain ⟨before, inner, innerHolds⟩ :=
            expand_all_induction nil plain module available missing body
              (recordExternals true body funcs) bodyAdmissible
          obtain ⟨after, outer, outerHolds⟩ :=
            expand_all_induction nil plain module available missing rest
              before admissible.2
          exact ⟨after, expand_have section_ inner outer, available cond body
            rest funcs before after holds innerHolds outerHolds⟩
      | false =>
          rw [holds] at evaluated
          have section_ : haveExpand feature true cond body funcs =
              .ok (invalidExternals body, recordExternals false body funcs) := by
            rw [haveExpand, evaluated]
            rfl
          obtain ⟨before, inner, innerHolds⟩ :=
            expand_all_induction nil plain module available missing
              (invalidExternals body) (recordExternals false body funcs)
              (admissibles_invalidExternals bodyAdmissible)
          rw [renders_invalidExternals] at inner
          obtain ⟨after, outer, outerHolds⟩ :=
            expand_all_induction nil plain module available missing rest
              before admissible.2
          exact ⟨after, expand_have section_ inner outer, missing cond body
            rest funcs before after holds innerHolds outerHolds⟩
termination_by weights items
decreasing_by
  all_goals
    simp only [weights, Item.weight, weights_invalidExternals]
    omega

theorem expand_all (items : List Item) (funcs : Funcs)
    (admissible : Admissibles feature items) :
    ∃ funcs', expand feature true items funcs =
      .ok (renders feature true items, funcs') := by
  obtain ⟨funcs', expanded, -⟩ := expand_all_induction
    (motive := fun _ _ _ => True) (fun _ => trivial)
    (fun _ _ _ _ _ _ => trivial) (fun _ _ _ _ _ _ _ _ => trivial)
    (fun _ _ _ _ _ _ _ _ _ => trivial) (fun _ _ _ _ _ _ _ _ _ => trivial)
    items funcs admissible
  exact ⟨funcs', expanded⟩

/-- Without `--gen-all`, the driver's output is the source with its true
sections spliced in place and its false ones removed. -/
theorem expand_specific (items : List Item) (funcs : Funcs)
    (admissible : Admissibles feature items) :
    ∃ output funcs', expand feature false items funcs = .ok (output, funcs') ∧
      forgets output = forgets (specifics feature items) := by
  match items with
  | [] => exact ⟨[], funcs, by rw [expand], rfl⟩
  | .primitive _ :: rest | .value _ _ :: rest | .types _ :: rest |
      .other _ :: rest =>
      obtain ⟨tail, after, outer, same⟩ :=
        expand_specific rest funcs admissible.2
      exact ⟨_, after, expand_plain rfl outer, congrArg (_ :: ·) same⟩
  | .showMeTheMoney doc :: rest => exact admissible.1.elim
  | .module name body :: rest =>
      obtain ⟨output, before, inner, innerSame⟩ :=
        expand_specific body funcs admissible.1
      obtain ⟨tail, after, outer, same⟩ :=
        expand_specific rest before admissible.2
      refine ⟨_, after, expand_module inner outer, ?_⟩
      simp only [forgets, Item.forget, specifics, Item.specific, innerSame, same,
        List.cons_append, List.nil_append]
  | .have_ cond body :: rest =>
      obtain ⟨registered, bodyAdmissible⟩ := admissible.1
      have evaluated := evalCond_registered registered
      rw [specifics, Item.specific]
      cases holds : cond.holds feature with
      | true =>
          rw [holds] at evaluated
          obtain ⟨renamed, renamedOk⟩ := haveConstrs_ok bodyAdmissible
          have renamedSame := haveConstrs_forgets renamedOk
          have section_ : haveExpand feature false cond body funcs =
              .ok (renamed, recordExternals true body funcs) := by
            rw [haveExpand, evaluated]
            simp only [bind, Except.bind, renamedOk]
            rfl
          have renamedWeight := weights_haveConstrs renamedOk
          have renamedAdmissible : Admissibles feature renamed := by
            rw [← admissibles_forgets, renamedSame, admissibles_forgets]
            exact bodyAdmissible
          obtain ⟨output, before, inner, innerSame⟩ := expand_specific renamed
            (recordExternals true body funcs) renamedAdmissible
          obtain ⟨tail, after, outer, same⟩ :=
            expand_specific rest before admissible.2
          refine ⟨_, after, expand_have section_ inner outer, ?_⟩
          rw [if_pos rfl, forgets_append, forgets_append, innerSame, same,
            ← specifics_forgets, renamedSame, specifics_forgets]
      | false =>
          rw [holds] at evaluated
          have section_ : haveExpand feature false cond body funcs =
              .ok ([], recordExternals false body funcs) := by
            rw [haveExpand, evaluated]
            rfl
          obtain ⟨tail, after, outer, same⟩ := expand_specific rest
            (recordExternals false body funcs) admissible.2
          refine ⟨_, after, expand_have section_ (by rw [expand]) outer, ?_⟩
          rw [if_neg Bool.false_ne_true]
          exact same
termination_by weights items
decreasing_by
  all_goals
    simp only [weights, Item.weight]
    omega

end Configuration

inductive Outcome where
  | closure
  | raised (name : String)
  | unknown
  deriving DecidableEq

/-- Application to labelled arguments, given in any order, as OCaml elaborates
it: an optional argument that is left out before a positional one counts as
given.  A function that still lacks an argument is a closure. -/
def Expr.apply : Expr → List Label → Outcome
  | .func label _ body, arguments =>
      if label ∈ arguments then body.apply (arguments.erase label)
      else .closure
  | .constrained body _, arguments => body.apply arguments
  | .raiseNotAvailable name, _ => .raised name
  | .cases _, _ | .other _, _ => .unknown

def Expr.labels : Expr → List Label
  | .func label _ body => label :: body.labels
  | _ => []

def CoreType.labels : CoreType → List Label
  | .arrow label _ result => label :: result.labels
  | _ => []

theorem labels_makeDummyF (body : Expr) (type : CoreType) :
    (makeDummyF body type).labels = type.labels := by
  induction type with
  | arrow label argument result _ induction =>
      simp only [makeDummyF, Expr.labels, CoreType.labels, induction]
  | option argument => rfl
  | other text => rfl

theorem cons_subperm_iff {label : Label} {labels arguments : List Label} :
    (label :: labels).Subperm arguments ↔
      label ∈ arguments ∧ labels.Subperm (arguments.erase label) := by
  constructor
  · intro given
    have member := given.subset List.mem_cons_self
    refine ⟨member, ?_⟩
    have reordered := given.trans (List.perm_cons_erase member).subperm
    exact (List.subperm_cons label).mp reordered
  · rintro ⟨member, rest⟩
    exact ((List.subperm_cons label).mpr rest).trans
      (List.perm_cons_erase member).symm.subperm

/-- A rewritten external raises exactly when it has all its arguments. -/
theorem apply_makeDummyF (name : String) (type : CoreType)
    (arguments : List Label) :
    (type.labels.Subperm arguments →
      (makeDummyF (.raiseNotAvailable name) type).apply arguments =
        .raised name) ∧
    (¬type.labels.Subperm arguments →
      (makeDummyF (.raiseNotAvailable name) type).apply arguments =
        .closure) := by
  induction type generalizing arguments with
  | arrow label argument result _ induction =>
      simp only [makeDummyF, Expr.apply, CoreType.labels, cons_subperm_iff]
      by_cases member : label ∈ arguments
      · simp only [member, true_and, if_true]
        exact induction (arguments.erase label)
      · simp [member]
  | option argument => exact ⟨fun _ => rfl, fun missing => by
      simp [CoreType.labels, List.nil_subperm] at missing⟩
  | other text => exact ⟨fun _ => rfl, fun missing => by
      simp [CoreType.labels, List.nil_subperm] at missing⟩

/-- `ppx_have` is exact.  Specific is the source with its false sections removed
and its true ones spliced in place, up to the names of constructors marked
`[@have]`.  All has the modules and value names of the source; an external is
verbatim when all conditions around it hold, and otherwise a function of the
same labels that raises `Not_available` once, and only once, it is given all its
arguments. -/
theorem ppx_have_exact (feature : String → Option Bool) (items : List Item)
    (funcs : Funcs) (admissible : Admissibles feature items) :
    (∃ output funcs',
      expand feature false items funcs = .ok (output, funcs') ∧
      forgets output = forgets (specifics feature items)) ∧
    (∃ output funcs',
      expand feature true items funcs = .ok (output, funcs') ∧
      outlines output = outlines items ∧
      output = renders feature true items) ∧
    ∀ external : External, external.type.isArrow = true →
      (dummy external).name = external.name ∧
      (dummy external).expr.labels = external.type.labels ∧
      (dummy external).expr.apply [] = .closure ∧
      ∀ arguments : List Label,
        (arguments.Perm external.type.labels →
          (dummy external).expr.apply arguments = .raised external.name) ∧
        (¬external.type.labels.Subperm arguments →
          (dummy external).expr.apply arguments = .closure) := by
  refine ⟨expand_specific items funcs admissible, ?_, ?_⟩
  · obtain ⟨funcs', rendered⟩ := expand_all items funcs admissible
    exact ⟨_, funcs', rendered, outlines_renders true items, rfl⟩
  · intro external arrow
    have applied := apply_makeDummyF external.name external.type
    refine ⟨rfl, labels_makeDummyF _ _, ?_, fun arguments => ⟨?_, ?_⟩⟩
    · apply (applied []).2
      rw [List.subperm_nil]
      cases type : external.type with
      | arrow label argument result => simp [CoreType.labels]
      | option argument => simp [type, CoreType.isArrow] at arrow
      | other text => simp [type, CoreType.isArrow] at arrow
    · intro complete
      exact (applied arguments).1 complete.symm.subperm
    · exact (applied arguments).2

theorem ppx_have_exact_nested :
    let feature (name : String) : Option Bool :=
      if name = "STATVFS" then some true
      else if name = "FSTATVFS" then some false else none
    let atom (name : String) := Cond.eval (.construct (.lident name) false)
    let type := CoreType.arrow .nolabel (.other "string") (.other "statvfs")
    let statvfs : External := ⟨"statvfs", type, ["caml_extunix_statvfs"], []⟩
    let fstatvfs : External := ⟨"fstatvfs", type, ["caml_extunix_fstatvfs"], []⟩
    ∃ funcs', expand feature true
      [.have_ (atom "STATVFS") [.primitive statvfs,
        .module "Inner" [.have_ (atom "FSTATVFS") [.primitive fstatvfs]]]] [] =
      .ok ([.primitive statvfs,
        .module "Inner" [.value false [dummy fstatvfs]]], funcs') := by
  intro feature atom type statvfs fstatvfs
  have registered : ∀ name, (feature name).isSome = true →
      (atom name).Registered feature := by
    intro name known
    refine ⟨[[name]], rfl, ?_⟩
    simpa using known
  obtain ⟨-, ⟨output, funcs', expanded, -, rendered⟩, -⟩ :=
    ppx_have_exact feature
      [.have_ (atom "STATVFS") [.primitive statvfs,
        .module "Inner" [.have_ (atom "FSTATVFS") [.primitive fstatvfs]]]] []
      ⟨⟨registered _ rfl, rfl, ⟨⟨registered _ rfl, rfl, trivial⟩, trivial⟩,
        trivial⟩, trivial⟩
  refine ⟨funcs', ?_⟩
  rw [expanded, rendered]
  rfl

end ExtUnix.Ppx
