import ExtUnix.Data.Failure
import ExtUnix.Ppx.Expansion

namespace ExtUnix.Ppx

open ExtUnix.Data

/-! Sources that name a feature which is not registered. -/

section Configuration

variable (feature : String → Option Bool)

def Stops (conjunction : List String) (found : Option Bool) : Prop :=
  ∃ met name rest, conjunction = met ++ name :: rest ∧
    (∀ earlier ∈ met, feature earlier = some true) ∧ feature name = found

/-- A name that is not registered is looked at: only available features
precede it in its conjunction, and an unavailable feature that is registered
stops each conjunction before. -/
def Blocks (disjunction : List (List String)) : Prop :=
  ∃ before conjunction after, disjunction = before ++ conjunction :: after ∧
    (∀ earlier ∈ before, Stops feature earlier (some false)) ∧
    Stops feature conjunction none

def Cond.Blocked (cond : Cond) : Prop :=
  ∃ disjunction, cond.disjunction = .ok disjunction ∧
    Blocks feature disjunction

def Unregistered (message : String) : Prop :=
  ∃ name, feature name = none ∧ message = "Unregistered feature " ++ name

variable {feature}

theorem check_fails (name : String) :
    FailsWhen (Unregistered feature) (feature name = none)
      (check feature name) := by
  rw [check]
  cases found : feature name with
  | none => exact ⟨fun absent => absurd rfl absent,
      fun _ => ⟨_, rfl, name, found, rfl⟩⟩
  | some available => exact (FailsWhen.pure available).congr (by simp)

theorem check_ok_iff {name : String} {available : Bool} :
    check feature name = .ok available ↔ feature name = some available := by
  rw [check]
  cases feature name <;> simp

/-- A conjunction is scanned up to the first feature that is not available. -/
theorem allM_check_fails (conjunction : List String) :
    FailsWhen (Unregistered feature) (Stops feature conjunction none)
      (conjunction.allM (check feature)) := by
  have scanned := FailsWhen.allM (fun name => @check_fails feature name)
    conjunction
  simp only [check_ok_iff] at scanned
  exact scanned

theorem allM_check_false_iff {conjunction : List String} :
    conjunction.allM (check feature) = .ok false ↔
      Stops feature conjunction (some false) := by
  rw [allM_eq_false_iff]
  simp only [check_ok_iff]
  rfl

/-- A disjunction is scanned up to the first conjunction that is met. -/
theorem anyM_allM_fails (disjunction : List (List String)) :
    FailsWhen (Unregistered feature) (Blocks feature disjunction)
      (disjunction.anyM fun conjunction =>
        conjunction.allM (check feature)) := by
  have scanned := FailsWhen.anyM (fun conjunction =>
    @allM_check_fails feature conjunction) disjunction
  simp only [allM_check_false_iff] at scanned
  exact scanned

/-- An atom, or a tuple of atoms and tuples of atoms. -/
def Cond.WellFormed (cond : Cond) : Prop :=
  ∃ disjunction, cond.disjunction = .ok disjunction

theorem evalCond_fails {cond : Cond} (wellFormed : cond.WellFormed) :
    FailsWhen (Unregistered feature) (cond.Blocked feature)
      (evalCond feature cond) := by
  obtain ⟨disjunction, parsed⟩ := wellFormed
  have evaluated : evalCond feature cond = disjunction.anyM fun conjunction =>
      conjunction.allM (check feature) := by
    cases cond with
    | other => cases parsed
    | eval expr =>
        have equal : disjOfExpr expr = .ok disjunction := parsed
        rw [evalCond, equal]
        rfl
  rw [evaluated]
  refine (anyM_allM_fails disjunction).congr ?_
  rw [Cond.Blocked, parsed]
  simp

end Configuration

/-- A condition, with the sections around it from the outside in.  It is that
of a section or that of a constructor's `[@have]`. -/
structure Site where
  outer : List Cond
  mark : Bool
  cond : Cond

def Site.under (cond : Cond) (site : Site) : Site :=
  { site with outer := cond :: site.outer }

def Constructor.mark (constructor : Constructor) : List Cond :=
  match constructor.attributes with
  | [⟨"have", some (cond :: _)⟩] => [cond]
  | _ => []

def TypeDeclaration.marks (declaration : TypeDeclaration) : List Cond :=
  declaration.constructors.flatMap Constructor.mark

mutual
def Item.sites : Item → List Site
  | .types declarations =>
      (declarations.flatMap TypeDeclaration.marks).map (⟨[], true, ·⟩)
  | .module _ items => sites items
  | .have_ cond items => ⟨[], false, cond⟩ :: (sites items).map (·.under cond)
  | _ => []

def sites : List Item → List Site
  | [] => []
  | item :: rest => item.sites ++ sites rest
end

theorem sites_invalidExternals (items : List Item) :
    sites (invalidExternals items) = sites items := by
  induction items using Item.induction with
  | nil => rfl
  | primitive _ _ induction | value _ _ _ induction | types _ _ induction
  | showMeTheMoney _ _ induction | other _ _ induction =>
      simp only [invalidExternals, invalidExternal, sites, Item.sites, induction]
  | module _ _ _ inner induction | have_ _ _ _ inner induction =>
      simp only [invalidExternals, invalidExternal, sites, Item.sites, inner,
        induction]

theorem Constructor.mark_forget (constructor : Constructor) :
    constructor.forget.mark = constructor.mark := by
  rw [Constructor.forget]
  split_ifs <;> rfl

theorem TypeDeclaration.marks_forget (declaration : TypeDeclaration) :
    declaration.forget.marks = declaration.marks := by
  simp only [TypeDeclaration.marks, TypeDeclaration.forget, List.flatMap_map,
    Constructor.mark_forget]

theorem sites_forgets (items : List Item) :
    sites (forgets items) = sites items := by
  induction items using Item.induction with
  | nil => rfl
  | primitive _ _ induction | value _ _ _ induction
  | showMeTheMoney _ _ induction | other _ _ induction =>
      simp only [forgets, Item.forget, sites, Item.sites, induction]
  | types declarations rest induction =>
      simp only [forgets, Item.forget, sites, Item.sites, induction,
        List.flatMap_map, TypeDeclaration.marks_forget]
  | module _ _ _ inner induction | have_ _ _ _ inner induction =>
      simp only [forgets, Item.forget, sites, Item.sites, inner, induction]

theorem sites_haveConstrs {feature : String → Option Bool}
    {items result : List Item}
    (succeeded : haveConstrs feature items = .ok result) :
    sites result = sites items := by
  rw [← sites_forgets result, haveConstrs_forgets succeeded, sites_forgets]

section Expansion

variable (feature : String → Option Bool)

/-- Which conditions an expansion evaluates.  Without `--gen-all` it leaves out
the sections in a false one, and `have_constr` sees whatever is in a section
that is true and in no other. -/
def Site.Reached (all : Bool) (site : Site) : Prop :=
  if site.mark then
    all = false ∧ ∃ cond rest, site.outer = cond :: rest ∧
      cond.holds feature = true
  else all = true ∨ ∀ cond ∈ site.outer, cond.holds feature = true

def Meets (all : Bool) (items : List Item) : Prop :=
  ∃ site ∈ sites items, site.Reached feature all ∧ site.cond.Blocked feature

def MeetsMark (items : List Item) : Prop :=
  ∃ site ∈ sites items, site.mark = true ∧ site.cond.Blocked feature

variable {feature}

def WellFormed (items : List Item) : Prop :=
  ∀ site ∈ sites items, site.cond.WellFormed

theorem wellFormed_cons {item : Item} {rest : List Item} :
    WellFormed (item :: rest) ↔
      (∀ site ∈ item.sites, site.cond.WellFormed) ∧ WellFormed rest := by
  simp only [WellFormed, sites, List.mem_append, or_imp, forall_and]

theorem wellFormed_of_have {cond : Cond} {items : List Item}
    (wellFormed : ∀ site ∈ (Item.have_ cond items).sites,
      site.cond.WellFormed) : cond.WellFormed ∧ WellFormed items := by
  refine ⟨wellFormed ⟨[], false, cond⟩ (by simp [Item.sites]), ?_⟩
  intro site member
  exact wellFormed (site.under cond) (by
    simp only [Item.sites, List.mem_cons, List.mem_map]
    exact .inr ⟨site, member, rfl⟩)

theorem meetsMark_cons {item : Item} {rest : List Item} :
    MeetsMark feature (item :: rest) ↔
      (∃ site ∈ item.sites, site.mark = true ∧ site.cond.Blocked feature) ∨
        MeetsMark feature rest := by
  simp only [MeetsMark, sites, List.mem_append, or_and_right, exists_or]

theorem haveConstructor_fails {constructor : Constructor}
    (wellFormed : ∀ cond ∈ constructor.mark, cond.WellFormed) :
    FailsWhen (Unregistered feature)
      (∃ cond ∈ constructor.mark, cond.Blocked feature)
      (haveConstructor feature constructor) := by
  unfold haveConstructor
  split
  · rename_i cond rest attributes
    have mark : constructor.mark = [cond] := by
      simp [Constructor.mark, attributes]
    rw [mark] at wellFormed ⊢
    refine ((evalCond_fails (wellFormed cond (by simp))).bind_const
      False fun available _ => ?_).congr (by simp)
    cases available with
    | true => exact FailsWhen.pure _
    | false => exact FailsWhen.pure _
  · rename_i unmarked
    have mark : constructor.mark = [] := by
      rw [Constructor.mark]
      split
      · rename_i cond rest attributes
        exact absurd attributes (unmarked cond rest)
      · rfl
    rw [mark]
    exact (FailsWhen.pure constructor).congr (by simp)

theorem haveDeclaration_fails {declaration : TypeDeclaration}
    (wellFormed : ∀ cond ∈ declaration.marks, cond.WellFormed) :
    FailsWhen (Unregistered feature)
      (∃ cond ∈ declaration.marks, cond.Blocked feature)
      (haveDeclaration feature declaration) := by
  have constructors := FailsWhen.mapM declaration.constructors
    fun constructor member => @haveConstructor_fails feature constructor
      fun cond mark => wellFormed cond (List.mem_flatMap.mpr
        ⟨constructor, member, mark⟩)
  refine (constructors.map fun constructors =>
    { declaration with constructors }).congr ?_
  simp only [TypeDeclaration.marks, List.mem_flatMap]
  tauto

theorem haveConstrs_cons_fails {item : Item} {rest : List Item}
    {first second : Prop}
    (head : FailsWhen (Unregistered feature) first (haveConstr feature item))
    (tail : FailsWhen (Unregistered feature) second (haveConstrs feature rest)) :
    FailsWhen (Unregistered feature) (first ∨ second)
      (haveConstrs feature (item :: rest)) := by
  rw [haveConstrs]
  exact head.bind_const second fun item _ => tail.map (item :: ·)

theorem haveConstrs_fails {items : List Item} (wellFormed : WellFormed items) :
    FailsWhen (Unregistered feature) (MeetsMark feature items)
      (haveConstrs feature items) := by
  induction items using Item.induction with
  | nil => exact (FailsWhen.pure []).congr (by simp [MeetsMark, sites])
  | primitive _ _ induction | value _ _ _ induction
  | showMeTheMoney _ _ induction | other _ _ induction =>
      obtain ⟨-, rest⟩ := wellFormed_cons.mp wellFormed
      refine (haveConstrs_cons_fails (FailsWhen.pure _) (induction rest)).congr ?_
      rw [meetsMark_cons]
      simp [Item.sites]
  | types declarations rest induction =>
      obtain ⟨head, tail⟩ := wellFormed_cons.mp wellFormed
      have mapped := FailsWhen.mapM declarations
        fun declaration member => @haveDeclaration_fails feature declaration
          fun cond mark => head ⟨[], true, cond⟩ (List.mem_map.mpr ⟨cond,
            List.mem_flatMap.mpr ⟨declaration, member, mark⟩, rfl⟩)
      refine (haveConstrs_cons_fails (mapped.map Item.types)
        (induction tail)).congr ?_
      rw [meetsMark_cons]
      simp only [Item.sites, List.mem_map, List.mem_flatMap]
      refine or_congr_left ⟨?_, ?_⟩
      · rintro ⟨declaration, member, cond, mark, blocked⟩
        exact ⟨_, ⟨cond, ⟨declaration, member, mark⟩, rfl⟩, rfl, blocked⟩
      · rintro ⟨_, ⟨cond, ⟨declaration, member, mark⟩, rfl⟩, -, blocked⟩
        exact ⟨declaration, member, cond, mark, blocked⟩
  | module name items rest inner induction =>
      obtain ⟨head, tail⟩ := wellFormed_cons.mp wellFormed
      refine (haveConstrs_cons_fails ((inner head).map (Item.module name))
        (induction tail)).congr ?_
      rw [meetsMark_cons]
      rfl
  | have_ cond items rest inner induction =>
      obtain ⟨head, tail⟩ := wellFormed_cons.mp wellFormed
      refine (haveConstrs_cons_fails
        ((inner (wellFormed_of_have head).2).map (Item.have_ cond))
        (induction tail)).congr ?_
      rw [meetsMark_cons]
      refine or_congr_left ?_
      simp [MeetsMark, Item.sites, Site.under]

section Driver

variable {all : Bool}

theorem haveExpand_fails {cond : Cond} {items : List Item}
    (condFormed : cond.WellFormed) (wellFormed : WellFormed items)
    (funcs : Funcs) :
    FailsWhen (Unregistered feature)
      (cond.Blocked feature ∨ all = false ∧ cond.holds feature = true ∧
        MeetsMark feature items)
      (haveExpand feature all cond items funcs) := by
  rw [haveExpand]
  have evaluates := @evalCond_fails feature cond condFormed
  refine (evaluates.bind (fun available =>
    all = false ∧ available = true ∧ MeetsMark feature items) ?_).congr ?_
  · intro available _
    cases available <;> cases all
    · exact (FailsWhen.pure _).congr (by simp)
    · exact (FailsWhen.pure _).congr (by simp)
    · exact ((haveConstrs_fails wellFormed).map fun renamed =>
        (renamed, recordExternals true items funcs)).congr (by simp)
    · exact (FailsWhen.pure _).congr (by simp)
  · constructor
    · rintro (blocked | ⟨available, evaluated, specific, rfl, marks⟩)
      · exact .inl blocked
      · exact .inr ⟨specific, holds_of_evalCond evaluated, marks⟩
    · rintro (blocked | ⟨specific, holds, marks⟩)
      · exact .inl blocked
      · by_cases blocked : cond.Blocked feature
        · exact .inl blocked
        · obtain ⟨available, evaluated⟩ := evaluates.ok blocked
          have value := holds_of_evalCond evaluated
          exact .inr ⟨available, evaluated, specific, by rw [← value, holds],
            marks⟩

theorem sites_haveExpand {cond : Cond} {items result : List Item}
    {funcs after : Funcs}
    (expanded : haveExpand feature all cond items funcs = .ok (result, after)) :
    sites result =
      if all = true ∨ cond.holds feature = true then sites items else [] := by
  obtain ⟨available, evaluated, expanded⟩ := bind_eq_ok expanded
  rw [holds_of_evalCond evaluated]
  cases available <;> cases all
  · cases expanded
    rfl
  · cases expanded
    exact sites_invalidExternals items
  · obtain ⟨renamed, renamedOk, expanded⟩ := bind_eq_ok expanded
    cases expanded
    exact sites_haveConstrs renamedOk
  · cases expanded
    rfl

theorem meets_cons {item : Item} {rest : List Item} :
    Meets feature all (item :: rest) ↔
      (∃ site ∈ item.sites, site.Reached feature all ∧
        site.cond.Blocked feature) ∨ Meets feature all rest := by
  simp only [Meets, sites, List.mem_append, or_and_right, exists_or]

theorem meets_plain {item : Item} {rest : List Item} (plain : item.plain = true) :
    Meets feature all (item :: rest) ↔ Meets feature all rest := by
  rw [meets_cons]
  refine or_iff_right ?_
  rintro ⟨site, member, reached, -⟩
  cases item <;> cases plain
  case types declarations =>
    obtain ⟨cond, -, rfl⟩ := List.mem_map.mp member
    obtain ⟨-, _, _, outer, -⟩ := reached
    cases outer
  all_goals cases member

theorem reached_of_mark {site : Site} (mark : site.mark = true) :
    site.Reached feature all ↔ all = false ∧ ∃ cond rest,
      site.outer = cond :: rest ∧ cond.holds feature = true := by
  rw [Site.Reached, if_pos mark]

theorem reached_of_section {site : Site} (section_ : site.mark = false) :
    site.Reached feature all ↔
      all = true ∨ ∀ cond ∈ site.outer, cond.holds feature = true := by
  rw [Site.Reached, section_, if_neg Bool.false_ne_true]

theorem reached_under_mark {cond : Cond} {site : Site}
    (mark : site.mark = true) :
    (site.under cond).Reached feature all ↔
      all = false ∧ cond.holds feature = true := by
  have still : (site.under cond).mark = true := mark
  rw [reached_of_mark still]
  simp [Site.under]

theorem reached_under_section {cond : Cond} {site : Site}
    (section_ : site.mark = false) :
    (site.under cond).Reached feature all ↔
      (all = true ∨ cond.holds feature = true) ∧
        site.Reached feature all := by
  have still : (site.under cond).mark = false := section_
  rw [reached_of_section still, reached_of_section section_]
  simp only [Site.under, List.forall_mem_cons]
  tauto

theorem meets_have {cond : Cond} {items rest : List Item} :
    Meets feature all (.have_ cond items :: rest) ↔
      cond.Blocked feature ∨
        (all = false ∧ cond.holds feature = true ∧ MeetsMark feature items) ∨
        ((all = true ∨ cond.holds feature = true) ∧
          Meets feature all items) ∨ Meets feature all rest := by
  rw [meets_cons, Item.sites]
  constructor
  · rintro (⟨site, member, reached, blocked⟩ | later)
    · obtain rfl | member := List.mem_cons.mp member
      · exact .inl blocked
      · obtain ⟨inner, within, rfl⟩ := List.mem_map.mp member
        cases kind : inner.mark with
        | true =>
            obtain ⟨specific, holds⟩ := (reached_under_mark kind).mp reached
            exact .inr (.inl ⟨specific, holds, inner, within, kind, blocked⟩)
        | false =>
            obtain ⟨entered, reached⟩ := (reached_under_section kind).mp reached
            exact .inr (.inr (.inl ⟨entered, inner, within, reached, blocked⟩))
    · exact .inr (.inr (.inr later))
  · have inside {site : Site} (member : site ∈ sites items) :
        site.under cond ∈ ⟨[], false, cond⟩ :: (sites items).map (·.under cond) :=
      List.mem_cons_of_mem _ (List.mem_map.mpr ⟨site, member, rfl⟩)
    rintro (blocked | ⟨specific, holds, site, member, mark, blocked⟩ |
      ⟨entered, site, member, reached, blocked⟩ | later)
    · refine .inl ⟨⟨[], false, cond⟩, by simp, ?_, blocked⟩
      exact (reached_of_section rfl).mpr (.inr (by simp))
    · exact .inl ⟨site.under cond, inside member,
        (reached_under_mark mark).mpr ⟨specific, holds⟩, blocked⟩
    · refine .inl ⟨site.under cond, inside member, ?_, blocked⟩
      cases kind : site.mark with
      | true =>
          obtain ⟨specific, -⟩ := (reached_of_mark kind).mp reached
          rw [specific] at entered
          exact (reached_under_mark kind).mpr
            ⟨specific, entered.resolve_left Bool.false_ne_true⟩
      | false => exact (reached_under_section kind).mpr ⟨entered, reached⟩
    · exact .inr later

theorem expand_have_eq {cond : Cond} {body rest : List Item} {funcs : Funcs} :
    expand feature all (.have_ cond body :: rest) funcs =
      haveExpand feature all cond body funcs >>= fun expanded =>
        expand feature all expanded.1 expanded.2 >>= fun inner =>
          expand feature all rest inner.2 >>= fun outer =>
            Except.ok (inner.1 ++ outer.1, outer.2) := by
  rw [expand]
  split
  · rename_i failed
    rw [failed]
    rfl
  · rename_i succeeded
    simp only [succeeded]
    rfl

theorem expand_fails (items : List Item) (wellFormed : WellFormed items)
    (funcs : Funcs) :
    FailsWhen (Unregistered feature) (Meets feature all items)
      (expand feature all items funcs) := by
  match items with
  | [] =>
      rw [expand]
      exact (FailsWhen.pure _).congr (by simp [Meets, sites])
  | .primitive _ :: rest | .value _ _ :: rest | .types _ :: rest |
      .other _ :: rest =>
      obtain ⟨-, tail⟩ := wellFormed_cons.mp wellFormed
      have outer := expand_fails rest tail funcs
      rw [expand]
      · exact (outer.map _).congr (meets_plain rfl).symm
      all_goals
        intros
        contradiction
  | .showMeTheMoney doc :: rest =>
      obtain ⟨-, tail⟩ := wellFormed_cons.mp wellFormed
      have outer := expand_fails rest tail funcs
      rw [expand]
      refine (outer.map _).congr ?_
      rw [meets_cons]
      simp [Item.sites]
  | .module name body :: rest =>
      obtain ⟨head, tail⟩ := wellFormed_cons.mp wellFormed
      have inner := expand_fails body head funcs
      rw [expand]
      refine (inner.bind_const _ fun inside _ =>
        (expand_fails rest tail inside.2).map _).congr ?_
      rw [meets_cons]
      rfl
  | .have_ cond body :: rest =>
      obtain ⟨head, tail⟩ := wellFormed_cons.mp wellFormed
      obtain ⟨condFormed, bodyFormed⟩ := wellFormed_of_have head
      rw [expand_have_eq]
      refine ((haveExpand_fails condFormed bodyFormed funcs).bind_const
        (((all = true ∨ cond.holds feature = true) ∧
          Meets feature all body) ∨ Meets feature all rest)
        fun expanded section_ => ?_).congr ?_
      · have smaller := weights_haveExpand section_
        have same := sites_haveExpand section_
        have formed : WellFormed expanded.1 := by
          rw [WellFormed, same]
          split_ifs
          · exact bodyFormed
          · simp
        refine ((expand_fails expanded.1 formed expanded.2).bind_const
          _ fun inside _ => (expand_fails rest tail inside.2).map _).congr ?_
        refine or_congr_left ?_
        rw [Meets, same]
        split_ifs with open_
        · simp [open_, Meets]
        · simp [open_]
      · rw [meets_have, or_assoc]
termination_by weights items
decreasing_by
  all_goals
    simp only [weights, Item.weight]
    omega

end Driver

variable (feature)

def Accepts (all : Bool) (items : List Item) (funcs : Funcs) : Prop :=
  ∃ result, expand feature all items funcs = .ok result

def Rejects (all : Bool) (items : List Item) (funcs : Funcs) : Prop :=
  ∃ message, expand feature all items funcs = .error message ∧
    Unregistered feature message

/-- Every section condition has its value if its features are registered, and
makes the expansion fail if one of them is not. -/
def Strict (all : Bool) (items : List Item) (funcs : Funcs) : Prop :=
  ∀ site ∈ sites items, site.mark = false →
    (site.cond.Registered feature →
      evalCond feature site.cond = .ok (site.cond.holds feature)) ∧
    (¬site.cond.Registered feature → Rejects feature all items funcs)

def Misspells (items : List Item) : Prop :=
  ∃ site ∈ sites items, site.mark = false ∧ ¬site.cond.Registered feature

variable {feature}

theorem strict_iff (all : Bool) {items : List Item}
    (wellFormed : WellFormed items) (funcs : Funcs) :
    Strict feature all items funcs ↔
      (Misspells feature items → Meets feature all items) := by
  have rejected : Rejects feature all items funcs ↔ Meets feature all items :=
    (expand_fails items wellFormed funcs).rejected_iff
  constructor
  · rintro strict ⟨site, member, section_, unregistered⟩
    exact rejected.mp ((strict site member section_).2 unregistered)
  · intro meets site member section_
    exact ⟨evalCond_registered, fun unregistered =>
      rejected.mpr (meets ⟨site, member, section_, unregistered⟩)⟩

theorem misspells_congr {first second : String → Option Bool}
    (same : ∀ name, (first name).isSome = (second name).isSome)
    (items : List Item) : Misspells first items ↔ Misspells second items := by
  simp only [Misspells, Cond.Registered, same]

/-- The features that a source names are checked alike on two platforms exactly
if a misspelt one is met on both, and the platforms do not differ in meeting
one in a constructor's mark. -/
theorem misspelt_features_iff (all : Bool) {items : List Item}
    (wellFormed : WellFormed items) {first second : String → Option Bool}
    (same : ∀ name, (first name).isSome = (second name).isSome)
    (funcs : Funcs) :
    (Strict first all items funcs ∧ Strict second all items funcs ∧
      (Accepts first all items funcs ↔ Accepts second all items funcs)) ↔
    (Misspells first items →
      Meets first all items ∧ Meets second all items) ∧
    (Meets first all items ↔ Meets second all items) := by
  have firstAccepts : Accepts first all items funcs ↔ ¬Meets first all items :=
    (expand_fails items wellFormed funcs).accepted_iff
  have secondAccepts :
      Accepts second all items funcs ↔ ¬Meets second all items :=
    (expand_fails items wellFormed funcs).accepted_iff
  rw [strict_iff all wellFormed, strict_iff all wellFormed,
    ← misspells_congr same, firstAccepts, secondAccepts, not_iff_not]
  tauto

end Expansion

def featureAtom (name : String) : CondExpr := .construct (.lident name) false

def statvfsFeature (available : Bool) (name : String) : Option Bool :=
  if name = "STATVFS" then some available else none

theorem statvfsFeature_isSome (name : String) :
    (statvfsFeature true name).isSome = (statvfsFeature false name).isSome := by
  rw [statvfsFeature, statvfsFeature]
  split_ifs <;> rfl

/-- A misspelt feature that stands alone is met everywhere. -/
theorem misspelt_features_alone :
    let source := [Item.have_ (.eval (featureAtom "FSTATVF")) []]
    Strict (statvfsFeature true) false source [] ∧
      Strict (statvfsFeature false) false source [] ∧
      (Accepts (statvfsFeature true) false source [] ↔
        Accepts (statvfsFeature false) false source []) := by
  intro source
  have only {site : Site} (member : site ∈ sites source) :
      site = ⟨[], false, .eval (featureAtom "FSTATVF")⟩ := by
    simpa [source, sites, Item.sites] using member
  have wellFormed : WellFormed source := by
    intro site member
    rw [only member]
    exact ⟨[["FSTATVF"]], rfl⟩
  have meets (available : Bool) :
      Meets (statvfsFeature available) false source := by
    refine ⟨⟨[], false, .eval (featureAtom "FSTATVF")⟩,
      by simp [source, sites, Item.sites],
      (reached_of_section rfl).mpr (.inr (by simp)), [["FSTATVF"]], rfl, ?_⟩
    exact until_cons.mpr (.inl (until_cons.mpr (.inl rfl)))
  exact (misspelt_features_iff false wellFormed statvfsFeature_isSome []).mpr
    ⟨fun _ => ⟨meets true, meets false⟩,
      fun _ => meets false, fun _ => meets true⟩

/-- After another feature it is met only where that one is missing. -/
theorem misspelt_feature_accepted :
    let cond := Cond.eval (.tuple [featureAtom "STATVFS", featureAtom "FSTATVF"])
    let source := [Item.have_ cond []]
    (∀ name, (statvfsFeature true name).isSome =
      (statvfsFeature false name).isSome) ∧
    ¬cond.Registered (statvfsFeature true) ∧
    Accepts (statvfsFeature true) false source [] ∧
    ¬Accepts (statvfsFeature false) false source [] := by
  intro cond source
  have nothing : expand (statvfsFeature true) false [] [] = .ok ([], []) := by
    rw [expand]
  refine ⟨statvfsFeature_isSome, ?_, ⟨([], []), ?_⟩, ?_⟩
  · rintro ⟨disjunction, parsed, registered⟩
    cases parsed
    have known := registered ["FSTATVF"] (by simp) "FSTATVF" (by simp)
    exact absurd known (by decide)
  · have section_ : haveExpand (statvfsFeature true) false cond [] [] =
        .ok ([], []) := rfl
    exact expand_have section_ nothing nothing
  · rintro ⟨result, accepted⟩
    rw [expand_have_eq] at accepted
    cases accepted

end ExtUnix.Ppx
