import ExtUnix.Ppx.Placed
import Mathlib.Logic.Function.Iterate

namespace ExtUnix.Ppx

/-! Constructors marked `[@have]` in Specific. -/

section Configuration

variable (feature : String → Option Bool)

def Constructor.suffixed (constructor : Constructor) : Constructor :=
  { constructor with name := constructor.name ++ "__Not_available" }

/-- The condition of a constructor's `[@have]`, whatever its other attributes
are. -/
def Constructor.guard (constructor : Constructor) : Option Cond :=
  match constructor.attributes.filter fun mark => mark.name == "have" with
  | [⟨_, some (cond :: _)⟩] => some cond
  | _ => none

def Constructor.expected (constructor : Constructor) : Constructor :=
  match constructor.guard with
  | none => constructor
  | some cond =>
      match evalCond feature cond with
      | .ok true => constructor
      | _ => constructor.suffixed

def Constructor.renamed (constructor : Constructor) : Constructor :=
  match constructor.attributes with
  | [⟨"have", some (cond :: _)⟩] =>
      match evalCond feature cond with
      | .ok true => constructor
      | _ => constructor.suffixed
  | _ => constructor

def TypeDeclaration.mapConstructors (change : Constructor → Constructor)
    (declaration : TypeDeclaration) : TypeDeclaration :=
  { declaration with constructors := declaration.constructors.map change }

def Item.mapConstructors (change : Constructor → Constructor) : Item → Item
  | .types declarations =>
      .types (declarations.map (·.mapConstructors change))
  | item => item

def Placed.mapConstructors (change : Constructor → Constructor)
    (placed : Placed) : Placed :=
  { placed with item := placed.item.mapConstructors change }

variable {feature}

theorem haveConstructor_eq {constructor result : Constructor}
    (succeeded : haveConstructor feature constructor = .ok result) :
    result = constructor.renamed feature := by
  unfold haveConstructor at succeeded
  split at succeeded
  · rename_i cond _ attributes
    obtain ⟨available, evaluated, succeeded⟩ := bind_eq_ok succeeded
    unfold Constructor.renamed
    simp only [attributes, evaluated]
    cases available with
    | true => exact (Except.ok.inj succeeded).symm
    | false => exact (Except.ok.inj succeeded).symm
  · rename_i unmarked
    unfold Constructor.renamed
    split
    · rename_i cond rest attributes
      exact absurd attributes (unmarked cond rest)
    · exact (Except.ok.inj succeeded).symm

theorem mapM_eq_map {action : α → Except ε β} {change : α → β}
    (changes : ∀ value result, action value = .ok result →
      result = change value) {values : List α} {results : List β}
    (succeeded : values.mapM action = .ok results) :
    results = values.map change := by
  induction values generalizing results with
  | nil => exact (Except.ok.inj succeeded).symm
  | cons value rest induction =>
      rw [List.mapM_cons] at succeeded
      obtain ⟨head, headOk, succeeded⟩ := bind_eq_ok succeeded
      obtain ⟨tail, tailOk, succeeded⟩ := bind_eq_ok succeeded
      cases succeeded
      rw [List.map_cons, changes value head headOk, induction tailOk]

theorem haveDeclaration_eq {declaration result : TypeDeclaration}
    (succeeded : haveDeclaration feature declaration = .ok result) :
    result = declaration.mapConstructors (·.renamed feature) := by
  obtain ⟨constructors, mapped, succeeded⟩ := bind_eq_ok succeeded
  cases succeeded
  rw [mapM_eq_map (fun _ _ => haveConstructor_eq) mapped]
  rfl

theorem placeds_haveConstrs {items result : List Item}
    (succeeded : haveConstrs feature items = .ok result) :
    placeds result =
      (placeds items).map (·.mapConstructors (·.renamed feature)) := by
  induction items using Item.induction generalizing result with
  | nil =>
      cases succeeded
      rfl
  | primitive _ _ induction | value _ _ _ induction
  | showMeTheMoney _ _ induction | other _ _ induction =>
      obtain ⟨head, tail, rfl, headOk, tailOk⟩ := haveConstrs_cons succeeded
      cases headOk
      rw [placeds, placeds, List.map_append, induction tailOk]
      rfl
  | types declarations rest induction =>
      obtain ⟨head, tail, rfl, headOk, tailOk⟩ := haveConstrs_cons succeeded
      obtain ⟨renamed, mapped, headOk⟩ := bind_eq_ok headOk
      cases headOk
      rw [placeds, placeds, List.map_append, induction tailOk,
        mapM_eq_map (fun _ _ => haveDeclaration_eq) mapped]
      rfl
  | module name items rest inner induction =>
      obtain ⟨head, tail, rfl, headOk, tailOk⟩ := haveConstrs_cons succeeded
      obtain ⟨renamed, mapped, headOk⟩ := bind_eq_ok headOk
      cases headOk
      rw [placeds, placeds, List.map_append, induction tailOk, Item.placed,
        Item.placed, inner mapped, List.map_map, List.map_map]
      rfl
  | have_ cond items rest inner induction =>
      obtain ⟨head, tail, rfl, headOk, tailOk⟩ := haveConstrs_cons succeeded
      obtain ⟨renamed, mapped, headOk⟩ := bind_eq_ok headOk
      cases headOk
      rw [placeds, placeds, List.map_append, induction tailOk, Item.placed,
        Item.placed, inner mapped, List.map_map, List.map_map]
      rfl

def Item.isMoney : Item → Bool
  | .showMeTheMoney _ => true
  | _ => false

variable (feature)

def Placed.kept (placed : Placed) : Bool :=
  placed.available feature && !placed.item.isMoney

/-- The constructors are renamed once for every section around them. -/
def Placed.specific (placed : Placed) : Placed :=
  ⟨placed.path, [], placed.item.mapConstructors
    ((Constructor.renamed feature)^[placed.conds.length])⟩

variable {feature}

theorem Item.mapConstructors_comp (first second : Constructor → Constructor)
    (item : Item) :
    (item.mapConstructors first).mapConstructors second =
      item.mapConstructors (second ∘ first) := by
  cases item with
  | types declarations =>
      simp [Item.mapConstructors, TypeDeclaration.mapConstructors]
  | _ => rfl

theorem Item.mapConstructors_id (item : Item) : item.mapConstructors id = item := by
  cases item with
  | types declarations =>
      simp [Item.mapConstructors, TypeDeclaration.mapConstructors]
  | _ => rfl

theorem Placed.kept_mapConstructors (change : Constructor → Constructor)
    (placed : Placed) :
    (placed.mapConstructors change).kept feature = placed.kept feature := by
  obtain ⟨path, conds, item⟩ := placed
  cases item <;> rfl

theorem Placed.specific_under (cond : Cond) (placed : Placed) :
    (placed.under cond).specific feature =
      (placed.mapConstructors (·.renamed feature)).specific feature := by
  rw [Placed.specific, Placed.specific, Placed.mapConstructors,
    Item.mapConstructors_comp]
  rfl

theorem Placed.kept_under {cond : Cond} (placed : Placed)
    (holds : cond.holds feature = true) :
    (placed.under cond).kept feature = placed.kept feature := by
  simp [Placed.kept, Placed.available, Placed.under, holds]

theorem Placed.kept_under_false {cond : Cond} (placed : Placed)
    (fails : cond.holds feature = false) :
    (placed.under cond).kept feature = false := by
  simp [Placed.kept, Placed.available, Placed.under, fails]

theorem placeds_expand (items : List Item) {funcs after : Funcs}
    {output : List Item}
    (expanded : expand feature false items funcs = .ok (output, after)) :
    placeds output = ((placeds items).filter (·.kept feature)).map
      (·.specific feature) := by
  match items with
  | [] =>
      rw [expand] at expanded
      cases expanded
      rfl
  | .primitive _ :: rest | .value _ _ :: rest | .other _ :: rest =>
      obtain ⟨tail, tailOk, rfl⟩ := expand_plain_ok rfl expanded
      rw [placeds, placeds, List.filter_append, List.map_append,
        placeds_expand rest tailOk]
      rfl
  | .types declarations :: rest =>
      obtain ⟨tail, tailOk, rfl⟩ := expand_plain_ok rfl expanded
      have unchanged : Placed.specific feature ⟨[], [], .types declarations⟩ =
          ⟨[], [], .types declarations⟩ :=
        congrArg (Placed.mk [] []) (Item.mapConstructors_id _)
      rw [placeds, placeds, List.filter_append, List.map_append,
        placeds_expand rest tailOk]
      exact congrArg (· :: _) unchanged.symm
  | .showMeTheMoney doc :: rest =>
      obtain ⟨tail, tailOk, rfl⟩ := expand_money_ok expanded
      rw [placeds, List.filter_append, List.map_append, ← placeds_expand rest tailOk]
      rfl
  | .module name body :: rest =>
      obtain ⟨inner, middle, tail, innerOk, tailOk, rfl⟩ := expand_module_ok expanded
      rw [placeds, placeds, List.filter_append, List.map_append,
        placeds_expand rest tailOk, Item.placed, Item.placed,
        placeds_expand body innerOk, List.filter_map, List.map_map, List.map_map]
      rfl
  | .have_ cond body :: rest =>
      obtain ⟨result, before, inner, middle, tail, section_, innerOk, tailOk, rfl⟩ :=
        expand_have_ok expanded
      have smaller := weights_haveExpand section_
      obtain ⟨available, evaluated, section_⟩ := bind_eq_ok section_
      have holds := holds_of_evalCond evaluated
      rw [placeds_append, placeds, List.filter_append, List.map_append,
        placeds_expand rest tailOk, placeds_expand result innerOk, Item.placed,
        List.filter_map, List.map_map]
      congr 1
      cases available with
      | true =>
          obtain ⟨renamed, renamedOk, section_⟩ := bind_eq_ok section_
          cases section_
          rw [placeds_haveConstrs renamedOk, List.filter_map, List.map_map]
          have filters :
              Placed.kept feature ∘ Placed.mapConstructors (·.renamed feature) =
                Placed.kept feature ∘ Placed.under cond := by
            funext placed
            exact (Placed.kept_mapConstructors _ placed).trans
              (placed.kept_under holds).symm
          rw [filters]
          apply List.map_congr_left
          intro placed _
          exact (Placed.specific_under cond placed).symm
      | false =>
          cases section_
          have removed : (placeds body).filter
              (Placed.kept feature ∘ Placed.under cond) = [] := by
            rw [List.filter_eq_nil_iff]
            intro placed _
            simp [Placed.kept_under_false placed holds]
          change _ = List.map _ ((placeds body).filter
            (Placed.kept feature ∘ Placed.under cond))
          rw [removed]
          rfl
termination_by weights items
decreasing_by
  all_goals
    simp only [weights, Item.weight]
    omega

theorem suffixed_ne (constructor : Constructor) :
    constructor.suffixed ≠ constructor := by
  intro same
  have lengths := congrArg (fun other => other.name.length) same
  simp [Constructor.suffixed] at lengths

theorem length_name_iterate (times : Nat) (constructor : Constructor) :
    (Constructor.suffixed^[times] constructor).name.length =
      constructor.name.length + times * 15 := by
  induction times generalizing constructor with
  | zero => simp
  | succ times induction =>
      have length : constructor.suffixed.name.length =
          constructor.name.length + 15 := by
        rw [Constructor.suffixed, String.length_append]
        rfl
      rw [Function.iterate_succ_apply, induction, length]
      omega

/-- A mark that is false and alone is found again in the renamed constructor. -/
theorem renamed_suffixed_iterate {constructor : Constructor} {cond : Cond}
    {rest : List Cond}
    (alone : constructor.attributes = [⟨"have", some (cond :: rest)⟩])
    (fails : evalCond feature cond ≠ .ok true) (times : Nat) :
    (Constructor.renamed feature)^[times] constructor =
      Constructor.suffixed^[times] constructor := by
  induction times generalizing constructor with
  | zero => rfl
  | succ times induction =>
      have once : constructor.renamed feature = constructor.suffixed := by
        simp only [Constructor.renamed, alone]
      have still : constructor.suffixed.attributes =
          [⟨"have", some (cond :: rest)⟩] := alone
      rw [Function.iterate_succ_apply, Function.iterate_succ_apply, once,
        induction still]

theorem alone_of_guard {constructor : Constructor} {cond : Cond}
    (guarded : constructor.guard = some cond)
    (single : constructor.attributes.length = 1) :
    ∃ rest, constructor.attributes = [⟨"have", some (cond :: rest)⟩] := by
  obtain ⟨mark, only⟩ := List.length_eq_one_iff.mp single
  rw [Constructor.guard, only, List.filter_singleton] at guarded
  split at guarded
  · rename_i name found rest marks
    cases named : mark.name == "have" with
    | false =>
        rw [named] at marks
        cases marks
    | true =>
        rw [named] at marks
        cases marks
        cases guarded
        rw [only, ← beq_iff_eq.mp named]
        exact ⟨rest, rfl⟩
  · cases guarded

theorem renamed_of_not_alone {constructor : Constructor}
    (several : constructor.attributes.length ≠ 1) :
    constructor.renamed feature = constructor := by
  rw [Constructor.renamed]
  split
  · rename_i attributes
    exact absurd (by rw [attributes]; rfl) several
  · rfl

theorem renamed_of_unguarded {constructor : Constructor}
    (unguarded : constructor.guard = none) :
    constructor.renamed feature = constructor := by
  rw [Constructor.renamed]
  split
  · rename_i attributes
    simp [Constructor.guard, attributes] at unguarded
  · rfl

theorem iterate_renamed_eq_expected_iff {constructor : Constructor}
    {times : Nat} (positive : 0 < times) :
    (Constructor.renamed feature)^[times] constructor =
        constructor.expected feature ↔
      ∀ cond, constructor.guard = some cond →
        evalCond feature cond = .ok true ∨
          constructor.attributes.length = 1 ∧ times = 1 := by
  rw [Constructor.expected]
  cases guarded : constructor.guard with
  | none =>
      rw [Function.iterate_fixed (renamed_of_unguarded guarded)]
      simp
  | some cond =>
      simp only [Option.some.injEq, forall_eq']
      by_cases single : constructor.attributes.length = 1
      · obtain ⟨rest, alone⟩ := alone_of_guard guarded single
        split
        · rename_i evaluated
          have fixed : constructor.renamed feature = constructor := by
            simp only [Constructor.renamed, alone, evaluated]
          rw [Function.iterate_fixed fixed]
          simp [evaluated]
        · rename_i fails
          rw [renamed_suffixed_iterate alone fails]
          constructor
          · intro same
            have lengths := congrArg (fun other => other.name.length) same
            have once := length_name_iterate 1 constructor
            simp only [length_name_iterate, Function.iterate_one] at lengths once
            exact .inr ⟨single, by omega⟩
          · rintro (holds | ⟨-, rfl⟩)
            · exact absurd holds fails
            · rfl
      · rw [Function.iterate_fixed (renamed_of_not_alone single)]
        split
        · rename_i evaluated
          simp [evaluated]
        · rename_i fails
          constructor
          · intro same
            exact absurd same.symm (suffixed_ne constructor)
          · rintro (holds | ⟨alone, -⟩)
            · exact absurd holds fails
            · exact absurd alone single

theorem Item.mapConstructors_eq_iff {first second : Constructor → Constructor}
    (item : Item) :
    item.mapConstructors first = item.mapConstructors second ↔
      ∀ declarations, item = .types declarations →
        ∀ declaration ∈ declarations,
          ∀ constructor ∈ declaration.constructors,
            first constructor = second constructor := by
  cases item with
  | types declarations =>
      simp only [Item.mapConstructors, Item.types.injEq, forall_eq',
        TypeDeclaration.mapConstructors, List.map_inj_left,
        TypeDeclaration.mk.injEq, true_and]
  | _ => simp [Item.mapConstructors]

variable (feature)

/-- An item as Specific should have it: in a section, constructors with a
`[@have]` bear their own name exactly if its condition is true. -/
def Placed.expected (placed : Placed) : Placed :=
  ⟨placed.path, [],
    if placed.conds = [] then placed.item
    else placed.item.mapConstructors (·.expected feature)⟩

variable {feature}

theorem Placed.specific_eq_expected_iff (placed : Placed) :
    placed.specific feature = placed.expected feature ↔
      (placed.conds ≠ [] → ∀ declaration ∈ placed.declared,
        ∀ constructor ∈ declaration.constructors, ∀ cond,
          constructor.guard = some cond →
            evalCond feature cond = .ok true ∨
              constructor.attributes.length = 1 ∧
                placed.conds.length = 1) := by
  obtain ⟨path, conds, item⟩ := placed
  rw [Placed.specific, Placed.expected, Placed.mk.injEq]
  simp only [true_and]
  by_cases outside : conds = []
  · subst outside
    rw [if_pos rfl]
    simp only [ne_eq, not_true_eq_false, false_implies, iff_true]
    exact item.mapConstructors_id
  · have positive := List.length_pos_iff.mpr outside
    rw [if_neg outside, Item.mapConstructors_eq_iff]
    simp only [iterate_renamed_eq_expected_iff positive, ne_eq, outside,
      not_false_eq_true, forall_const, Placed.declared]
    cases item <;> simp

/-- Specific has every available item in its place, with the constructors named
as their marks say, exactly if each mark in an available section is true, or is
the only attribute of its constructor and in a single section. -/
theorem marked_constructors_iff {items output : List Item}
    {funcs after : Funcs}
    (expanded : expand feature false items funcs = .ok (output, after)) :
    placeds output =
        ((placeds items).filter (·.kept feature)).map (·.expected feature) ↔
      ∀ placed ∈ placeds items, placed.available feature = true →
        placed.conds ≠ [] → ∀ declaration ∈ placed.declared,
          ∀ constructor ∈ declaration.constructors, ∀ cond,
            constructor.guard = some cond →
              evalCond feature cond = .ok true ∨
                constructor.attributes.length = 1 ∧
                  placed.conds.length = 1 := by
  rw [placeds_expand items expanded, List.map_inj_left]
  simp only [Placed.specific_eq_expected_iff, List.mem_filter]
  constructor
  · intro kept placed member available within declaration declared
    refine kept placed ⟨member, ?_⟩ within declaration declared
    have types : placed.item.isMoney = false := by
      obtain ⟨path, conds, item⟩ := placed
      cases item with
      | types declarations => rfl
      | _ => cases declared
    rw [Placed.kept, available, types]
    rfl
  · intro marks placed kept
    have available : placed.available feature = true :=
      (Bool.and_eq_true_iff.mp kept.2).1
    exact marks placed kept.1 available

end Configuration

/-! `rename_flag` where `renameat2` is available and `RENAME_WHITEOUT` is not. -/

def renameFeature (name : String) : Option Bool :=
  if name = "RENAMEAT2" then some true
  else if name = "RENAME_WHITEOUT" then some false else none

def whiteout : Cond := .eval (.construct (.lident "RENAME_WHITEOUT") false)

def renameFlag (name : String) (attributes : List Attribute) : Item :=
  .types [⟨"rename_flag", [⟨"RENAME_EXCHANGE", "", []⟩,
    ⟨"RENAME_NOREPLACE", "", []⟩, ⟨name, "", attributes⟩]⟩]

def renameSection (attributes : List Attribute) : List Item :=
  [.have_ (.eval (.construct (.lident "RENAMEAT2") false))
    [renameFlag "RENAME_WHITEOUT" attributes]]

theorem expand_renameSection {attributes : List Attribute} {name : String}
    (renamed : haveConstrs renameFeature
      [renameFlag "RENAME_WHITEOUT" attributes] =
        .ok [renameFlag name attributes]) :
    expand renameFeature false (renameSection attributes) [] =
      .ok ([renameFlag name attributes], []) := by
  have nothing : expand renameFeature false [] [] = .ok ([], []) := by
    rw [expand]
  have section_ : haveExpand renameFeature false
      (.eval (.construct (.lident "RENAMEAT2") false))
      [renameFlag "RENAME_WHITEOUT" attributes] [] =
        .ok ([renameFlag name attributes], []) := by
    simp only [haveExpand, renamed]
    rfl
  exact expand_have section_ (expand_plain rfl nothing) nothing

theorem marked_constructors_alone :
    placeds [renameFlag "RENAME_WHITEOUT__Not_available"
        [⟨"have", some [whiteout]⟩]] =
      ((placeds (renameSection [⟨"have", some [whiteout]⟩])).filter
        (·.kept renameFeature)).map (·.expected renameFeature) := by
  refine (marked_constructors_iff (expand_renameSection rfl)).mpr ?_
  intro placed member _ _ declaration declared constructor within cond guarded
  cases List.mem_singleton.mp member
  cases List.mem_singleton.mp declared
  simp only [List.mem_cons, List.not_mem_nil, or_false] at within
  obtain rfl | rfl | rfl := within
  · cases guarded
  · cases guarded
  · exact .inr ⟨rfl, rfl⟩

/-- With a documentation comment the constructor keeps its name. -/
theorem documented_constructor_kept :
    let attributes : List Attribute :=
      [⟨"have", some [whiteout]⟩, ⟨"ocaml.doc", some [.other]⟩]
    evalCond renameFeature whiteout = .ok false ∧
      ∃ output after,
        expand renameFeature false (renameSection attributes) [] =
          .ok (output, after) ∧
        placeds output ≠ ((placeds (renameSection attributes)).filter
          (·.kept renameFeature)).map (·.expected renameFeature) := by
  intro attributes
  refine ⟨rfl, [renameFlag "RENAME_WHITEOUT" attributes], [],
    expand_renameSection rfl, ?_⟩
  intro same
  have names := congrArg (fun places => (places.flatMap Placed.declared).flatMap
    fun declaration => declaration.constructors.map (·.name)) same
  exact absurd names (by decide)

end ExtUnix.Ppx
