import ExtUnix.Ppx.Expansion

namespace ExtUnix.Ppx

/-! The externals of a structure, and the conditions around them. -/

mutual
def Item.verbatim : Item → List External
  | .primitive external => [external]
  | .module _ items => verbatims items
  | .have_ _ items => verbatims items
  | _ => []

def verbatims : List Item → List External
  | [] => []
  | item :: rest => item.verbatim ++ verbatims rest
end

mutual
def Item.guarded : Item → List (List Cond × External)
  | .primitive external => [([], external)]
  | .module _ items => guardeds items
  | .have_ cond items =>
      (guardeds items).map fun entry => (cond :: entry.1, entry.2)
  | _ => []

def guardeds : List Item → List (List Cond × External)
  | [] => []
  | item :: rest => item.guarded ++ guardeds rest
end

theorem verbatims_append (first second : List Item) :
    verbatims (first ++ second) = verbatims first ++ verbatims second := by
  induction first with
  | nil => rfl
  | cons item rest induction =>
      rw [List.cons_append, verbatims, verbatims, induction, List.append_assoc]

theorem verbatims_forgets (items : List Item) :
    verbatims (forgets items) = verbatims items := by
  induction items using Item.induction with
  | nil => rfl
  | primitive _ _ rest | value _ _ _ rest | types _ _ rest
  | showMeTheMoney _ _ rest | other _ _ rest =>
      simp only [forgets, Item.forget, verbatims, Item.verbatim, rest]
  | module _ _ _ inner rest | have_ _ _ _ inner rest =>
      simp only [forgets, Item.forget, verbatims, Item.verbatim, inner, rest]

section Configuration

variable (feature : String → Option Bool)

def enabledIn (entries : List (List Cond × External)) : List External :=
  (entries.filter fun entry => entry.1.all (·.holds feature)).map Prod.snd

def enabled (items : List Item) : List External :=
  enabledIn feature (guardeds items)

variable {feature}

theorem enabledIn_append (first second : List (List Cond × External)) :
    enabledIn feature (first ++ second) =
      enabledIn feature first ++ enabledIn feature second := by
  rw [enabledIn, List.filter_append, List.map_append]
  rfl

theorem enabledIn_under (cond : Cond) (entries : List (List Cond × External)) :
    enabledIn feature (entries.map fun entry => (cond :: entry.1, entry.2)) =
      if cond.holds feature then enabledIn feature entries else [] := by
  rw [enabledIn, List.filter_map, List.map_map]
  split_ifs with holds
  · simp only [Function.comp_def, List.all_cons, holds, Bool.true_and]
    rfl
  · simp [Function.comp_def, holds]

theorem enabled_cons (item : Item) (rest : List Item) :
    enabled feature (item :: rest) =
      enabledIn feature item.guarded ++ enabled feature rest := by
  rw [enabled, guardeds, enabledIn_append]
  rfl

theorem mem_enabled {items : List Item} {external : External} :
    external ∈ enabled feature items ↔ ∃ conds,
      (conds, external) ∈ guardeds items ∧
        ∀ cond ∈ conds, cond.holds feature = true := by
  simp [enabled, enabledIn]

theorem verbatims_renders (on : Bool) (items : List Item) :
    verbatims (renders feature on items) =
      if on then enabled feature items else [] := by
  induction items using Item.induction generalizing on with
  | nil => cases on <;> rfl
  | primitive external rest induction =>
      rw [enabled_cons, renders, verbatims_append, induction]
      cases on <;> rfl
  | value _ _ _ induction | types _ _ induction | showMeTheMoney _ _ induction
  | other _ _ induction =>
      simp [renders, Item.render, verbatims, Item.verbatim, induction,
        enabled_cons, enabledIn, Item.guarded]
  | module name items rest inner induction =>
      rw [enabled_cons, renders, Item.render, List.singleton_append, verbatims,
        Item.verbatim, inner, induction, Item.guarded]
      cases on <;> rfl
  | have_ cond items rest inner induction =>
      rw [enabled_cons, renders, Item.render, verbatims_append, inner,
        induction, Item.guarded, enabledIn_under]
      cases on with
      | true => rfl
      | false => rfl

theorem verbatims_specifics (items : List Item) :
    verbatims (specifics feature items) = enabled feature items := by
  induction items using Item.induction with
  | nil => rfl
  | primitive _ _ induction | value _ _ _ induction | types _ _ induction
  | showMeTheMoney _ _ induction | other _ _ induction =>
      rw [enabled_cons, specifics, verbatims_append, induction]
      rfl
  | module name items rest inner induction =>
      rw [enabled_cons, specifics, Item.specific, verbatims_append, induction,
        verbatims, Item.verbatim, inner, verbatims, List.append_nil]
      rfl
  | have_ cond items rest inner induction =>
      rw [enabled_cons, specifics, Item.specific, verbatims_append, induction,
        Item.guarded, enabledIn_under]
      split_ifs
      · rw [inner]
        rfl
      · rfl

/-- In both outputs, the externals kept verbatim are those all of whose
conditions hold. -/
theorem expand_verbatims (all : Bool) {items : List Item} (funcs : Funcs)
    (admissible : Admissibles feature items) :
    ∃ output funcs', expand feature all items funcs = .ok (output, funcs') ∧
      verbatims output = enabled feature items := by
  cases all with
  | true =>
      obtain ⟨funcs', expanded⟩ := expand_all items funcs admissible
      exact ⟨_, funcs', expanded, by rw [verbatims_renders, if_pos rfl]⟩
  | false =>
      obtain ⟨output, funcs', expanded, same⟩ :=
        expand_specific items funcs admissible
      refine ⟨output, funcs', expanded, ?_⟩
      rw [← verbatims_forgets, same, verbatims_forgets, verbatims_specifics]

theorem expand_append {all : Bool} {first second output tail : List Item}
    {funcs middle after : Funcs}
    (expanded : expand feature all first funcs = .ok (output, middle))
    (expandedTail : expand feature all second middle = .ok (tail, after)) :
    expand feature all (first ++ second) funcs = .ok (output ++ tail, after) := by
  induction first generalizing funcs output with
  | nil =>
      rw [expand] at expanded
      cases expanded
      exact expandedTail
  | cons item rest induction =>
      rw [List.cons_append]
      cases item with
      | primitive | value | types | other =>
          rw [expand] at expanded
          · obtain ⟨⟨restOutput, restFuncs⟩, restOk, final⟩ :=
              bind_eq_ok expanded
            cases final
            exact expand_plain rfl (induction restOk)
          all_goals
            intros
            contradiction
      | module name body =>
          rw [expand] at expanded
          obtain ⟨⟨inner, before⟩, innerOk, expanded⟩ := bind_eq_ok expanded
          obtain ⟨⟨restOutput, restFuncs⟩, restOk, final⟩ :=
            bind_eq_ok expanded
          cases final
          exact expand_module innerOk (induction restOk)
      | have_ cond body =>
          rw [expand] at expanded
          split at expanded
          · cases expanded
          · rename_i result before section_
            obtain ⟨⟨inner, between⟩, innerOk, expanded⟩ := bind_eq_ok expanded
            obtain ⟨⟨restOutput, restFuncs⟩, restOk, final⟩ :=
              bind_eq_ok expanded
            cases final
            rw [List.append_assoc]
            exact expand_have section_ innerOk (induction restOk)
      | showMeTheMoney doc =>
          rw [expand] at expanded
          obtain ⟨⟨restOutput, restFuncs⟩, restOk, final⟩ :=
            bind_eq_ok expanded
          cases final
          rw [expand, induction restOk, List.append_assoc]
          rfl

theorem expand_money {all : Bool} {items output : List Item} {doc : String}
    {funcs middle : Funcs}
    (expanded : expand feature all items funcs = .ok (output, middle)) :
    expand feature all (items ++ [.showMeTheMoney doc]) funcs =
      .ok (output ++ showMeTheMoneyExpand all doc middle, middle) := by
  have money : expand feature all [.showMeTheMoney doc] middle =
      .ok (showMeTheMoneyExpand all doc middle ++ [], middle) := by
    rw [expand, expand]
    rfl
  rw [List.append_nil] at money
  exact expand_append expanded money

theorem expand_money_verbatims (all : Bool) {items : List Item} (doc : String)
    (funcs : Funcs) (admissible : Admissibles feature items) :
    ∃ output funcs',
      expand feature all (items ++ [.showMeTheMoney doc]) funcs =
        .ok (output, funcs') ∧
      verbatims output = enabled feature items := by
  obtain ⟨output, middle, expanded, same⟩ :=
    expand_verbatims all funcs admissible
  refine ⟨_, middle, expand_money expanded, ?_⟩
  rw [verbatims_append, same]
  cases all with
  | true => exact List.append_nil _
  | false => exact List.append_nil _

end Configuration

section Names

variable (names : List String)

def Cond.named (cond : Cond) : Bool :=
  match cond.disjunction with
  | .ok disjunction => disjunction.all fun conjunction =>
      conjunction.all fun name => names.contains name
  | .error _ => false

def Constructor.named (constructor : Constructor) : Bool :=
  constructor.attributes.all fun mark =>
    match mark.payload with
    | some (cond :: _) => mark.name != "have" || cond.named names
    | _ => true

mutual
def Item.named : Item → Bool
  | .primitive external => external.type.isArrow
  | .types declarations => declarations.all fun declaration =>
      declaration.constructors.all (Constructor.named names)
  | .module _ items => nameds items
  | .have_ cond items => cond.named names && nameds items
  | .showMeTheMoney _ => false
  | _ => true

def nameds : List Item → Bool
  | [] => true
  | item :: rest => item.named && nameds rest
end

variable {names} {feature : String → Option Bool}
  (registered : ∀ name ∈ names, (feature name).isSome = true)

include registered

theorem Cond.registered_of_named {cond : Cond}
    (named : cond.named names = true) : cond.Registered feature := by
  rw [Cond.named] at named
  split at named
  · rename_i disjunction parsed
    refine ⟨disjunction, parsed, ?_⟩
    intro conjunction inDisjunction name inConjunction
    apply registered
    simpa using List.all_eq_true.mp
      (List.all_eq_true.mp named conjunction inDisjunction) name inConjunction
  · cases named

theorem Constructor.registered_of_named {constructor : Constructor}
    (named : constructor.named names = true) :
    constructor.Registered feature := by
  intro mark member isHave cond conds payload
  have marked := List.all_eq_true.mp named mark member
  simp only [payload, isHave, bne_self_eq_false, Bool.false_or] at marked
  exact Cond.registered_of_named registered marked

theorem admissibles_of_nameds {items : List Item}
    (named : nameds names items = true) : Admissibles feature items := by
  induction items using Item.induction with
  | nil => trivial
  | primitive _ _ induction =>
      rw [nameds, Bool.and_eq_true] at named
      exact ⟨named.1, induction named.2⟩
  | value _ _ _ induction | other _ _ induction =>
      rw [nameds, Bool.and_eq_true] at named
      exact ⟨trivial, induction named.2⟩
  | types declarations rest induction =>
      rw [nameds, Bool.and_eq_true] at named
      refine ⟨?_, induction named.2⟩
      intro declaration inDeclarations constructor inConstructors
      exact Constructor.registered_of_named registered
        (List.all_eq_true.mp (List.all_eq_true.mp named.1 declaration
          inDeclarations) constructor inConstructors)
  | module name items rest inner induction =>
      rw [nameds, Bool.and_eq_true] at named
      exact ⟨inner named.1, induction named.2⟩
  | have_ cond items rest inner induction =>
      rw [nameds, Item.named, Bool.and_eq_true, Bool.and_eq_true] at named
      exact ⟨⟨Cond.registered_of_named registered named.1.1,
        inner named.1.2⟩, induction named.2⟩
  | showMeTheMoney _ _ induction =>
      rw [nameds, Item.named, Bool.false_and] at named
      cases named

end Names

end ExtUnix.Ppx
