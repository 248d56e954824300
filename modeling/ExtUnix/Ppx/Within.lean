import ExtUnix.Ppx.Verbatim

namespace ExtUnix.Ppx

/-! What one output has of another: all its items, in order, each in the module
it had there. -/

inductive Within : List Item → List Item → Prop where
  | nil : Within [] []
  | left {first second : List Item} (item : Item) :
      Within first second → Within first (item :: second)
  | kept {first second : List Item} (item : Item) :
      Within first second → Within (item :: first) (item :: second)
  | module {inner outer first second : List Item} (name : String) :
      Within inner outer → Within first second →
        Within (.module name inner :: first) (.module name outer :: second)

theorem Within.nil_all (items : List Item) : Within [] items := by
  induction items with
  | nil => exact .nil
  | cons item rest induction => exact .left item induction

theorem Within.append {first second third fourth : List Item}
    (before : Within first second) (after : Within third fourth) :
    Within (first ++ third) (second ++ fourth) := by
  induction before with
  | nil => exact after
  | left item _ induction => exact .left item induction
  | kept item _ induction => exact .kept item induction
  | module name inner _ _ induction => exact .module name inner induction

theorem Within.append_right {first second : List Item}
    (within : Within first second) (more : List Item) :
    Within first (second ++ more) := by
  rw [← List.append_nil first]
  exact within.append (nil_all more)

theorem Within.forgets {first second : List Item}
    (within : Within first second) :
    Within (forgets first) (forgets second) := by
  induction within with
  | nil => exact .nil
  | left item _ induction => exact .left _ induction
  | kept item _ induction => exact .kept _ induction
  | module name _ _ inner induction => exact .module name inner induction

theorem Within.verbatims {first second : List Item}
    (within : Within first second) :
    (verbatims first).Sublist (verbatims second) := by
  induction within with
  | nil => exact .slnil
  | left item _ induction =>
      exact induction.trans (List.sublist_append_right ..)
  | kept item _ induction => exact induction.append_left _
  | module name _ _ inner induction => exact inner.append induction

structure Extends (feature feature' : String → Option Bool) : Prop where
  registered : ∀ name, (feature name).isSome = true →
    (feature' name).isSome = true
  available : ∀ name, feature name = some true → feature' name = some true

section Configurations

variable {feature feature' : String → Option Bool}

theorem Cond.Registered.extend (extends_ : Extends feature feature')
    {cond : Cond} (registered : cond.Registered feature) :
    cond.Registered feature' := by
  obtain ⟨disjunction, parsed, known⟩ := registered
  exact ⟨disjunction, parsed, fun conjunction member name inConjunction =>
    extends_.registered name (known conjunction member name inConjunction)⟩

theorem Admissibles.extend (extends_ : Extends feature feature')
    {items : List Item} (admissible : Admissibles feature items) :
    Admissibles feature' items := by
  induction items using Item.induction with
  | nil => trivial
  | primitive _ _ induction | value _ _ _ induction | other _ _ induction
  | showMeTheMoney _ _ induction =>
      exact ⟨admissible.1, induction admissible.2⟩
  | types declarations rest induction =>
      refine ⟨?_, induction admissible.2⟩
      intro declaration inDeclarations constructor inConstructors mark marked
        isHave cond conds payload
      exact (admissible.1 declaration inDeclarations constructor inConstructors
        mark marked isHave cond conds payload).extend extends_
  | module name items rest inner induction =>
      exact ⟨inner admissible.1, induction admissible.2⟩
  | have_ cond items rest inner induction =>
      exact ⟨⟨admissible.1.1.extend extends_, inner admissible.1.2⟩,
        induction admissible.2⟩

/-- Conditions have no negation. -/
theorem Cond.holds_extend (extends_ : Extends feature feature') {cond : Cond}
    (holds : cond.holds feature = true) : cond.holds feature' = true := by
  unfold Cond.holds at holds ⊢
  split at holds
  · obtain ⟨conjunction, member, all⟩ := List.any_eq_true.mp holds
    refine List.any_eq_true.mpr ⟨conjunction, member, ?_⟩
    rw [List.all_eq_true] at all ⊢
    intro name inConjunction
    exact beq_iff_eq.mpr
      (extends_.available name (beq_iff_eq.mp (all name inConjunction)))
  · cases holds

theorem specifics_within (extends_ : Extends feature feature')
    (items : List Item) :
    Within (specifics feature items) (specifics feature' items) := by
  induction items using Item.induction with
  | nil => exact .nil
  | primitive _ _ induction | value _ _ _ induction | types _ _ induction
  | showMeTheMoney _ _ induction | other _ _ induction =>
      exact .kept _ induction
  | module name items rest inner induction =>
      exact .module name inner induction
  | have_ cond items rest inner induction =>
      rw [specifics, specifics, Item.specific, Item.specific]
      apply Within.append _ induction
      cases holds : cond.holds feature with
      | false => exact .nil_all _
      | true =>
          rw [if_pos rfl, if_pos (Cond.holds_extend extends_ holds)]
          exact inner

theorem specifics_within_renders (feature : String → Option Bool)
    (items : List Item) :
    Within (specifics feature items) (renders feature true items) := by
  induction items using Item.induction with
  | nil => exact .nil
  | primitive _ _ induction | value _ _ _ induction | types _ _ induction
  | showMeTheMoney _ _ induction | other _ _ induction =>
      exact .kept _ induction
  | module name items rest inner induction =>
      exact .module name inner induction
  | have_ cond items rest inner induction =>
      rw [specifics, renders, Item.specific, Item.render]
      apply Within.append _ induction
      cases holds : cond.holds feature with
      | false => exact .nil_all _
      | true => exact inner

end Configurations

/-- Whatever the configuration, All has the items of Specific, in their modules
and order, up to the names of constructors marked `[@have]`. -/
theorem specific_within_all (feature : String → Option Bool) (items : List Item)
    (doc : String) (funcs funcs' : Funcs)
    (admissible : Admissibles feature items) :
    ∃ specific after all after',
      expand feature false (items ++ [.showMeTheMoney doc]) funcs =
        .ok (specific, after) ∧
      expand feature true (items ++ [.showMeTheMoney doc]) funcs' =
        .ok (all, after') ∧
      Within (forgets specific) (forgets all) := by
  obtain ⟨specific, after, expanded, same⟩ :=
    expand_specific items funcs admissible
  obtain ⟨after', expanded'⟩ := expand_all items funcs' admissible
  refine ⟨_, after, _, after', expand_money expanded, expand_money expanded',
    ?_⟩
  have within := (specifics_within_renders feature items).forgets
  rw [← same] at within
  rw [showMeTheMoneyExpand, if_neg Bool.false_ne_true, List.append_nil,
    forgets_append]
  exact within.append_right _

theorem specific_within_all_splice :
    let feature := fun name : String => if name = "SPLICE" then some false else none
    let cond := Cond.eval (.construct (.lident "SPLICE") false)
    let splice : External := ⟨"splice",
      .arrow .nolabel (.other "Unix.file_descr") (.other "int"),
      ["caml_extunix_splice"], []⟩
    let items := [
      Item.have_ cond [.primitive splice], .value false [⟨"poll", .other "", []⟩]]
    ∃ specific after all after',
      expand feature false (items ++ [.showMeTheMoney ""]) [] =
        .ok (specific, after) ∧
      expand feature true (items ++ [.showMeTheMoney ""]) [] =
        .ok (all, after') ∧
      Within (forgets specific) (forgets all) := by
  intro feature cond splice items
  have registered : cond.Registered feature := by
    refine ⟨[["SPLICE"]], rfl, ?_⟩
    simp [feature]
  exact specific_within_all feature items "" [] []
    ⟨⟨registered, rfl, trivial⟩, trivial, trivial⟩

end ExtUnix.Ppx
