import ExtUnix.Ppx.Syntax

namespace ExtUnix.Ppx

/-! The rewriting of externals that are not available. -/

def makeDummyF (body : Expr) : CoreType → Expr
  | .arrow label argument result =>
      let argument :=
        match label with
        | .optional _ => .option argument
        | _ => argument
      .func label argument (makeDummyF body result)
  | type => .constrained body type

def dummy (external : External) : ValueBinding where
  name := external.name
  expr := makeDummyF (.raiseNotAvailable external.name) external.type
  attributes := external.attributes

mutual
def invalidExternal : Item → Item
  | .primitive external => .value false [dummy external]
  | .module name items => .module name (invalidExternals items)
  | .have_ cond items => .have_ cond (invalidExternals items)
  | item => item

def invalidExternals : List Item → List Item
  | [] => []
  | item :: rest => invalidExternal item :: invalidExternals rest
end

abbrev Funcs := List (String × Bool)

def Funcs.replace (funcs : Funcs) (name : String) (available : Bool) : Funcs :=
  (name, available) :: funcs.filter fun entry => entry.1 ≠ name

mutual
def recordExternal (available : Bool) : Item → Funcs → Funcs
  | .primitive external, funcs => funcs.replace external.name available
  | .module _ items, funcs => recordExternals available items funcs
  | .have_ _ items, funcs => recordExternals available items funcs
  | _, funcs => funcs

def recordExternals (available : Bool) : List Item → Funcs → Funcs
  | [], funcs => funcs
  | item :: rest, funcs =>
      recordExternals available rest (recordExternal available item funcs)
end

section Expansion

variable (feature : String → Option Bool)

def haveConstructor (constructor : Constructor) : Except String Constructor :=
  match constructor.attributes with
  | [⟨"have", some (cond :: _)⟩] => do
      if ← evalCond feature cond then return constructor
      else return { constructor with
        name := constructor.name ++ "__Not_available" }
  | _ => .ok constructor

def haveDeclaration (declaration : TypeDeclaration) :
    Except String TypeDeclaration := do
  return { declaration with
    constructors := ← declaration.constructors.mapM (haveConstructor feature) }

mutual
def haveConstr : Item → Except String Item
  | .types declarations => do
      return .types (← declarations.mapM (haveDeclaration feature))
  | .module name items => do return .module name (← haveConstrs items)
  | .have_ cond items => do return .have_ cond (← haveConstrs items)
  | item => .ok item

def haveConstrs : List Item → Except String (List Item)
  | [] => .ok []
  | item :: rest => do return (← haveConstr item) :: (← haveConstrs rest)
end

variable (all : Bool)

def haveExpand (cond : Cond) (items : List Item) (funcs : Funcs) :
    Except String (List Item × Funcs) := do
  let available ← evalCond feature cond
  let funcs := recordExternals available items funcs
  match available, all with
  | true, true => return (items, funcs)
  | true, false => return (← haveConstrs feature items, funcs)
  | false, true => return (invalidExternals items, funcs)
  | false, false => return ([], funcs)

def showMeTheMoneyExpand (doc : String) (funcs : Funcs) : List Item :=
  if all then [.value false [⟨"have", .cases funcs, [doc]⟩]] else []

end Expansion

def Constructor.marked (constructor : Constructor) : Bool :=
  constructor.attributes.any fun mark => mark.name == "have"

/-- A constructor without the name that `[@have]` may change. -/
def Constructor.forget (constructor : Constructor) : Constructor :=
  if constructor.marked then { constructor with name := "" } else constructor

def TypeDeclaration.forget (declaration : TypeDeclaration) : TypeDeclaration :=
  { declaration with
    constructors := declaration.constructors.map Constructor.forget }

mutual
def Item.forget : Item → Item
  | .types declarations => .types (declarations.map TypeDeclaration.forget)
  | .module name items => .module name (forgets items)
  | .have_ cond items => .have_ cond (forgets items)
  | item => item

def forgets : List Item → List Item
  | [] => []
  | item :: rest => item.forget :: forgets rest
end

mutual
def Item.weight : Item → Nat
  | .module _ items => weights items + 1
  | .have_ _ items => weights items + 1
  | _ => 1

def weights : List Item → Nat
  | [] => 0
  | item :: rest => item.weight + weights rest
end

@[elab_as_elim]
theorem Item.induction {motive : List Item → Prop} (nil : motive [])
    (primitive : ∀ external rest, motive rest →
      motive (.primitive external :: rest))
    (value : ∀ recursive bindings rest, motive rest →
      motive (.value recursive bindings :: rest))
    (types : ∀ declarations rest, motive rest →
      motive (.types declarations :: rest))
    (module : ∀ name items rest, motive items → motive rest →
      motive (.module name items :: rest))
    (have_ : ∀ cond items rest, motive items → motive rest →
      motive (.have_ cond items :: rest))
    (showMeTheMoney : ∀ doc rest, motive rest →
      motive (.showMeTheMoney doc :: rest))
    (other : ∀ text rest, motive rest → motive (.other text :: rest)) :
    ∀ items, motive items
  | [] => nil
  | .primitive external :: rest =>
      primitive external rest (induction nil primitive value types module have_
        showMeTheMoney other rest)
  | .value recursive bindings :: rest =>
      value recursive bindings rest (induction nil primitive value types module
        have_ showMeTheMoney other rest)
  | .types declarations :: rest =>
      types declarations rest (induction nil primitive value types module have_
        showMeTheMoney other rest)
  | .module name items :: rest =>
      module name items rest
        (induction nil primitive value types module have_ showMeTheMoney other
          items)
        (induction nil primitive value types module have_ showMeTheMoney other
          rest)
  | .have_ cond items :: rest =>
      have_ cond items rest
        (induction nil primitive value types module have_ showMeTheMoney other
          items)
        (induction nil primitive value types module have_ showMeTheMoney other
          rest)
  | .showMeTheMoney doc :: rest =>
      showMeTheMoney doc rest (induction nil primitive value types module have_
        showMeTheMoney other rest)
  | .other text :: rest =>
      other text rest (induction nil primitive value types module have_
        showMeTheMoney other rest)

theorem weights_invalidExternals (items : List Item) :
    weights (invalidExternals items) = weights items := by
  induction items using Item.induction with
  | nil => rfl
  | primitive _ _ rest | value _ _ _ rest | types _ _ rest
  | showMeTheMoney _ _ rest | other _ _ rest =>
      simp only [invalidExternals, invalidExternal, weights, Item.weight, rest]
  | module _ _ _ inner rest | have_ _ _ _ inner rest =>
      simp only [invalidExternals, invalidExternal, weights, Item.weight, inner,
        rest]

theorem weights_forgets (items : List Item) :
    weights (forgets items) = weights items := by
  induction items using Item.induction with
  | nil => rfl
  | primitive _ _ rest | value _ _ _ rest | types _ _ rest
  | showMeTheMoney _ _ rest | other _ _ rest =>
      simp only [forgets, Item.forget, weights, Item.weight, rest]
  | module _ _ _ inner rest | have_ _ _ _ inner rest =>
      simp only [forgets, Item.forget, weights, Item.weight, inner, rest]

theorem bind_eq_ok {action : Except ε α} {next : α → Except ε β} {result : β}
    (succeeded : (action >>= next) = .ok result) :
    ∃ value, action = .ok value ∧ next value = .ok result := by
  cases action with
  | error error => cases succeeded
  | ok value => exact ⟨value, rfl, succeeded⟩

theorem mapM_preserves {action : α → Except ε α} {view : α → β}
    (preserves : ∀ value result, action value = .ok result →
      view result = view value) {values results : List α}
    (succeeded : values.mapM action = .ok results) :
    results.map view = values.map view := by
  induction values generalizing results with
  | nil =>
      cases succeeded
      rfl
  | cons value rest induction =>
      rw [List.mapM_cons] at succeeded
      obtain ⟨head, headOk, succeeded⟩ := bind_eq_ok succeeded
      obtain ⟨tail, tailOk, succeeded⟩ := bind_eq_ok succeeded
      cases succeeded
      rw [List.map_cons, List.map_cons, preserves value head headOk,
        induction tailOk]

theorem haveConstructor_forget (feature : String → Option Bool)
    (constructor result : Constructor)
    (succeeded : haveConstructor feature constructor = .ok result) :
    result.forget = constructor.forget := by
  unfold haveConstructor at succeeded
  split at succeeded
  · rename_i cond _ attributes
    have marked : constructor.marked = true := by
      simp [Constructor.marked, attributes]
    obtain ⟨available, -, succeeded⟩ := bind_eq_ok succeeded
    cases available with
    | true =>
        cases succeeded
        rfl
    | false =>
        cases succeeded
        have renamed : Constructor.marked { constructor with
            name := constructor.name ++ "__Not_available" } = true := marked
        rw [Constructor.forget, Constructor.forget, if_pos marked,
          if_pos renamed]
  · cases succeeded
    rfl

theorem haveDeclaration_forget (feature : String → Option Bool)
    (declaration result : TypeDeclaration)
    (succeeded : haveDeclaration feature declaration = .ok result) :
    result.forget = declaration.forget := by
  obtain ⟨constructors, mapped, succeeded⟩ := bind_eq_ok succeeded
  cases succeeded
  rw [TypeDeclaration.forget, TypeDeclaration.forget]
  congr 1
  exact mapM_preserves (haveConstructor_forget feature) mapped

theorem haveConstrs_cons {feature : String → Option Bool} {item : Item}
    {rest result : List Item}
    (succeeded : haveConstrs feature (item :: rest) = .ok result) :
    ∃ head tail, result = head :: tail ∧
      haveConstr feature item = .ok head ∧
      haveConstrs feature rest = .ok tail := by
  obtain ⟨head, headOk, succeeded⟩ := bind_eq_ok succeeded
  obtain ⟨tail, tailOk, succeeded⟩ := bind_eq_ok succeeded
  cases succeeded
  exact ⟨head, tail, rfl, headOk, tailOk⟩

theorem haveConstrs_forgets {feature : String → Option Bool}
    {items result : List Item}
    (succeeded : haveConstrs feature items = .ok result) :
    forgets result = forgets items := by
  induction items using Item.induction generalizing result with
  | nil =>
      cases succeeded
      rfl
  | primitive _ _ induction | value _ _ _ induction
  | showMeTheMoney _ _ induction | other _ _ induction =>
      obtain ⟨head, tail, rfl, headOk, tailOk⟩ := haveConstrs_cons succeeded
      cases headOk
      simp only [forgets, induction tailOk]
  | types declarations rest induction =>
      obtain ⟨head, tail, rfl, headOk, tailOk⟩ := haveConstrs_cons succeeded
      obtain ⟨renamed, mapped, headOk⟩ := bind_eq_ok headOk
      cases headOk
      simp only [forgets, Item.forget, induction tailOk,
        mapM_preserves (haveDeclaration_forget feature) mapped]
  | module name items rest inner induction =>
      obtain ⟨head, tail, rfl, headOk, tailOk⟩ := haveConstrs_cons succeeded
      obtain ⟨renamed, mapped, headOk⟩ := bind_eq_ok headOk
      cases headOk
      simp only [forgets, Item.forget, inner mapped, induction tailOk]
  | have_ cond items rest inner induction =>
      obtain ⟨head, tail, rfl, headOk, tailOk⟩ := haveConstrs_cons succeeded
      obtain ⟨renamed, mapped, headOk⟩ := bind_eq_ok headOk
      cases headOk
      simp only [forgets, Item.forget, inner mapped, induction tailOk]

theorem weights_haveConstrs {feature : String → Option Bool}
    {items result : List Item}
    (succeeded : haveConstrs feature items = .ok result) :
    weights result = weights items := by
  rw [← weights_forgets result, haveConstrs_forgets succeeded, weights_forgets]

/-- An expansion never has more items than the section it replaces. -/
theorem weights_haveExpand {feature : String → Option Bool} {all : Bool}
    {cond : Cond} {items result : List Item} {funcs funcs' : Funcs}
    (succeeded : haveExpand feature all cond items funcs =
      .ok (result, funcs')) :
    weights result ≤ weights items := by
  obtain ⟨available, -, succeeded⟩ := bind_eq_ok succeeded
  cases available <;> cases all
  · cases succeeded
    exact Nat.zero_le _
  · cases succeeded
    exact Nat.le_of_eq (weights_invalidExternals items)
  · obtain ⟨renamed, mapped, succeeded⟩ := bind_eq_ok succeeded
    cases succeeded
    exact Nat.le_of_eq (weights_haveConstrs mapped)
  · cases succeeded
    exact Nat.le_refl _

theorem Item.weight_pos (item : Item) : 0 < item.weight := by
  cases item <;> simp [Item.weight]

/-! The driver: an extension point is expanded, then the extension points in
its expansion. -/

def expand (feature : String → Option Bool) (all : Bool) (items : List Item)
    (funcs : Funcs) : Except String (List Item × Funcs) :=
  match items with
  | [] => .ok ([], funcs)
  | .have_ cond body :: rest =>
      match expanded : haveExpand feature all cond body funcs with
      | .error message => .error message
      | .ok (result, funcs) =>
          have _smaller := weights_haveExpand expanded
          do
          let (output, funcs) ← expand feature all result funcs
          let (tail, funcs) ← expand feature all rest funcs
          return (output ++ tail, funcs)
  | .showMeTheMoney doc :: rest => do
      let output := showMeTheMoneyExpand all doc funcs
      let (tail, funcs) ← expand feature all rest funcs
      return (output ++ tail, funcs)
  | .module name body :: rest => do
      let (output, funcs) ← expand feature all body funcs
      let (tail, funcs) ← expand feature all rest funcs
      return (.module name output :: tail, funcs)
  | item :: rest =>
      have _positive := item.weight_pos
      do
      let (tail, funcs) ← expand feature all rest funcs
      return (item :: tail, funcs)
termination_by weights items
decreasing_by
  all_goals
    simp only [weights, Item.weight]
    omega

end ExtUnix.Ppx
