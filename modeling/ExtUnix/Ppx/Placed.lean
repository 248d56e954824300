import ExtUnix.Ppx.Verbatim

namespace ExtUnix.Ppx

/-! A structure laid out flat: its items in source order, each with the modules
and the conditions around it. -/

structure Placed where
  path : List String
  conds : List Cond
  item : Item

namespace Placed

def inModule (name : String) (placed : Placed) : Placed :=
  { placed with path := name :: placed.path }

def under (cond : Cond) (placed : Placed) : Placed :=
  { placed with conds := cond :: placed.conds }

end Placed

mutual
def Item.placed : Item → List Placed
  | .module name items => (placeds items).map (·.inModule name)
  | .have_ cond items => (placeds items).map (·.under cond)
  | item => [⟨[], [], item⟩]

def placeds : List Item → List Placed
  | [] => []
  | item :: rest => item.placed ++ placeds rest
end

theorem placeds_append (first second : List Item) :
    placeds (first ++ second) = placeds first ++ placeds second := by
  induction first with
  | nil => rfl
  | cons item rest induction =>
      rw [List.cons_append, placeds, placeds, induction, List.append_assoc]

def Placed.guarded (placed : Placed) : Option (List Cond × External) :=
  match placed.item with
  | .primitive external => some (placed.conds, external)
  | _ => none

theorem guardeds_eq_placeds (items : List Item) :
    guardeds items = (placeds items).filterMap Placed.guarded := by
  induction items using Item.induction with
  | nil => rfl
  | primitive _ _ rest | value _ _ _ rest | types _ _ rest
  | showMeTheMoney _ _ rest | other _ _ rest =>
      rw [guardeds, placeds, List.filterMap_append, ← rest]
      rfl
  | module name items rest inner induction =>
      rw [guardeds, placeds, List.filterMap_append, ← induction, Item.guarded,
        Item.placed, List.filterMap_map, inner]
      rfl
  | have_ cond items rest inner induction =>
      rw [guardeds, placeds, List.filterMap_append, ← induction, Item.guarded,
        Item.placed, List.filterMap_map, inner, List.map_filterMap]
      congr 1
      apply List.filterMap_congr
      intro placed _
      obtain ⟨path, conds, item⟩ := placed
      cases item <;> rfl

def Placed.forget (placed : Placed) : Placed :=
  { placed with item := placed.item.forget }

theorem placeds_forgets (items : List Item) :
    placeds (forgets items) = (placeds items).map Placed.forget := by
  induction items using Item.induction with
  | nil => rfl
  | primitive _ _ rest | value _ _ _ rest | types _ _ rest
  | showMeTheMoney _ _ rest | other _ _ rest =>
      rw [forgets, placeds, placeds, List.map_append, rest]
      rfl
  | module name items rest inner induction =>
      rw [forgets, placeds, placeds, List.map_append, induction, Item.forget,
        Item.placed, Item.placed, inner, List.map_map, List.map_map]
      rfl
  | have_ cond items rest inner induction =>
      rw [forgets, placeds, placeds, List.map_append, induction, Item.forget,
        Item.placed, Item.placed, inner, List.map_map, List.map_map]
      rfl

section Configuration

variable (feature : String → Option Bool)

def Placed.available (placed : Placed) : Bool :=
  placed.conds.all (·.holds feature)

def Placed.rendered (on : Bool) (placed : Placed) : Placed where
  path := placed.path
  conds := []
  item :=
    match placed.item with
    | .primitive external =>
        if on && placed.available feature then .primitive external
        else .value false [dummy external]
    | item => item

variable {feature}

theorem Placed.rendered_under (on : Bool) (cond : Cond) (placed : Placed) :
    (placed.under cond).rendered feature on =
      placed.rendered feature (on && cond.holds feature) := by
  simp [Placed.rendered, Placed.under, Placed.available, Bool.and_assoc]

theorem placeds_renders (on : Bool) (items : List Item) :
    placeds (renders feature on items) =
      (placeds items).map (·.rendered feature on) := by
  induction items using Item.induction generalizing on with
  | nil => rfl
  | primitive external rest induction =>
      rw [renders, placeds_append, placeds, List.map_append, induction]
      cases on <;> rfl
  | value _ _ _ induction | types _ _ induction | showMeTheMoney _ _ induction
  | other _ _ induction =>
      rw [renders, placeds_append, placeds, List.map_append, induction]
      rfl
  | module name items rest inner induction =>
      rw [renders, placeds_append, placeds, List.map_append, induction,
        Item.render, placeds, Item.placed, Item.placed, inner, List.map_map,
        List.map_map, placeds, List.append_nil]
      rfl
  | have_ cond items rest inner induction =>
      rw [renders, placeds_append, placeds, List.map_append, induction,
        Item.render, Item.placed, inner, List.map_map]
      congr 1
      apply List.map_congr_left
      intro placed _
      exact (Placed.rendered_under on cond placed).symm

theorem placeds_specifics (items : List Item) :
    placeds (specifics feature items) =
      ((placeds items).filter (·.available feature)).map
        fun placed => { placed with conds := [] } := by
  induction items using Item.induction with
  | nil => rfl
  | primitive _ _ induction | value _ _ _ induction | types _ _ induction
  | showMeTheMoney _ _ induction | other _ _ induction =>
      rw [specifics, placeds_append, placeds, List.filter_append,
        List.map_append, induction]
      rfl
  | module name items rest inner induction =>
      rw [specifics, placeds_append, placeds, List.filter_append,
        List.map_append, induction, Item.specific, placeds, Item.placed,
        Item.placed, inner, placeds, List.append_nil, List.filter_map,
        List.map_map, List.map_map]
      rfl
  | have_ cond items rest inner induction =>
      rw [specifics, placeds_append, placeds, List.filter_append,
        List.map_append, induction, Item.specific, Item.placed,
        List.filter_map, List.map_map]
      congr 1
      split_ifs with holds
      · rw [inner]
        congr 1
        apply List.filter_congr
        intro placed _
        simp [Placed.available, Placed.under, holds]
      · rw [List.filter_eq_nil_iff.mpr]
        · rfl
        · simp [Placed.available, Placed.under, holds]

def Placed.declared (placed : Placed) : List TypeDeclaration :=
  match placed.item with
  | .types declarations => declarations
  | _ => []

def declareds (items : List Item) : List TypeDeclaration :=
  (placeds items).flatMap Placed.declared

theorem declareds_append (first second : List Item) :
    declareds (first ++ second) = declareds first ++ declareds second := by
  rw [declareds, placeds_append, List.flatMap_append]
  rfl

theorem declareds_forgets (items : List Item) :
    declareds (forgets items) =
      (declareds items).map TypeDeclaration.forget := by
  rw [declareds, placeds_forgets, List.flatMap_map, declareds,
    List.map_flatMap]
  congr 1
  funext placed
  rw [Placed.declared, Placed.declared, Placed.forget]
  cases placed.item <;> rfl

/-- The types of an expansion are those of the source that it keeps, up to the
names of constructors marked `[@have]`. -/
theorem expand_declareds (all : Bool) {items : List Item} (funcs : Funcs)
    (admissible : Admissibles feature items) :
    ∃ output funcs', expand feature all items funcs = .ok (output, funcs') ∧
      (declareds output).map TypeDeclaration.forget =
        (((placeds items).filter fun placed =>
          all || placed.available feature).flatMap Placed.declared).map
            TypeDeclaration.forget := by
  cases all with
  | true =>
      obtain ⟨funcs', expanded⟩ := expand_all items funcs admissible
      refine ⟨_, funcs', expanded, ?_⟩
      rw [declareds, placeds_renders, List.flatMap_map]
      simp only [Bool.true_or, List.filter_true]
      congr 2
      funext placed
      rw [Placed.declared, Placed.declared, Placed.rendered]
      cases placed.item <;> first | rfl | (dsimp only; split_ifs <;> rfl)
  | false =>
      obtain ⟨output, funcs', expanded, same⟩ :=
        expand_specific items funcs admissible
      refine ⟨output, funcs', expanded, ?_⟩
      rw [← declareds_forgets, same, declareds_forgets, declareds,
        placeds_specifics, List.flatMap_map]
      rfl

theorem declareds_money (all : Bool) (doc : String) (funcs : Funcs) :
    declareds (showMeTheMoneyExpand all doc funcs) = [] := by
  cases all <;> rfl

end Configuration

def declaring (items : List Item) : List Placed :=
  (placeds items).filter fun placed => !placed.declared.isEmpty

theorem declaring_append (first second : List Item) :
    declaring (first ++ second) = declaring first ++ declaring second := by
  rw [declaring, placeds_append, List.filter_append]
  rfl

theorem flatMap_declared_filter (kept : Placed → Bool) (items : List Item) :
    ((placeds items).filter kept).flatMap Placed.declared =
      ((declaring items).filter kept).flatMap Placed.declared := by
  rw [declaring]
  induction placeds items with
  | nil => rfl
  | cons placed rest induction =>
      cases isKept : kept placed <;>
        cases declares : placed.declared <;>
          simp [isKept, declares, induction]

end ExtUnix.Ppx
