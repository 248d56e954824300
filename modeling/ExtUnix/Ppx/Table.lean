import ExtUnix.Ppx.Verbatim

namespace ExtUnix.Ppx

/-! What the table of availability says after an expansion with `--gen-all`. -/

/-- The case of `have` for a name; without one it returns `None`. -/
def Funcs.find (funcs : Funcs) (name : String) : Option Bool :=
  (funcs.find? fun entry => entry.1 = name).map Prod.snd

theorem Funcs.find_replace (funcs : Funcs) (name other : String)
    (available : Bool) :
    (funcs.replace name available).find other =
      if name = other then some available else funcs.find other := by
  rw [Funcs.find, Funcs.replace, List.find?_cons]
  by_cases same : name = other
  · simp [same]
  · have kept : (fun entry : String × Bool =>
        (!decide (entry.1 = name)) && decide (entry.1 = other)) =
          fun entry => decide (entry.1 = other) := by
      funext entry
      by_cases found : entry.1 = other
      · simp [found, Ne.symm same]
      · simp [found]
    simp [same, List.find?_filter, kept, Funcs.find]

def Names (entries : List (List Cond × External)) (name : String) : Prop :=
  ∃ entry ∈ entries, entry.2.name = name

instance (entries : List (List Cond × External)) (name : String) :
    Decidable (Names entries name) :=
  inferInstanceAs (Decidable (∃ entry ∈ entries, entry.2.name = name))

theorem names_append (first second : List (List Cond × External))
    (name : String) :
    Names (first ++ second) name ↔ Names first name ∨ Names second name := by
  simp only [Names, List.mem_append, or_and_right, exists_or]

theorem names_under (cond : Cond) (entries : List (List Cond × External))
    (name : String) :
    Names (entries.map fun entry => (cond :: entry.1, entry.2)) name ↔
      Names entries name := by
  simp only [Names, List.mem_map, exists_exists_and_eq_and]

def sectioned (items : List Item) : List (List Cond × External) :=
  (guardeds items).filter fun entry => !entry.1.isEmpty

theorem sectioned_cons (item : Item) (rest : List Item) :
    sectioned (item :: rest) = sectioned [item] ++ sectioned rest := by
  simp only [sectioned, guardeds, List.append_nil, List.filter_append]

theorem sectioned_have (cond : Cond) (items : List Item) :
    sectioned [.have_ cond items] =
      (guardeds items).map fun entry => (cond :: entry.1, entry.2) := by
  rw [sectioned, guardeds, guardeds, List.append_nil, Item.guarded]
  apply List.filter_eq_self.mpr
  intro entry member
  obtain ⟨inner, -, rfl⟩ := List.mem_map.mp member
  rfl

theorem sectioned_module (name : String) (items : List Item) :
    sectioned [.module name items] = sectioned items := by
  simp only [sectioned, guardeds, Item.guarded, List.append_nil]

theorem sectioned_plain {item : Item} (plain : item.plain = true) :
    sectioned [item] = [] := by
  cases item <;> cases plain <;> rfl

theorem guardeds_invalidExternals (items : List Item) :
    guardeds (invalidExternals items) = [] := by
  induction items using Item.induction with
  | nil => rfl
  | primitive _ _ rest | value _ _ _ rest | types _ _ rest
  | showMeTheMoney _ _ rest | other _ _ rest =>
      simp only [invalidExternals, invalidExternal, guardeds, Item.guarded,
        rest, List.append_nil]
  | module _ _ _ inner rest | have_ _ _ _ inner rest =>
      simp only [invalidExternals, invalidExternal, guardeds, Item.guarded,
        inner, rest, List.map_nil, List.append_nil]

theorem find_recordExternals (available : Bool) (items : List Item)
    (funcs : Funcs) (name : String) :
    (recordExternals available items funcs).find name =
      if Names (guardeds items) name then some available
      else funcs.find name := by
  induction items using Item.induction generalizing funcs with
  | nil => simp [recordExternals, guardeds, Names]
  | primitive external rest induction =>
      have head : Names (Item.guarded (.primitive external)) name ↔
          external.name = name := by
        simp [Names, Item.guarded]
      rw [recordExternals, induction, recordExternal, Funcs.find_replace,
        guardeds]
      simp only [names_append, head]
      split_ifs <;> first | rfl | tauto
  | value _ _ _ induction | types _ _ induction | showMeTheMoney _ _ induction
  | other _ _ induction =>
      rw [recordExternals, induction]
      rfl
  | module _ _ _ inner induction =>
      rw [recordExternals, induction, recordExternal, inner, guardeds,
        Item.guarded]
      simp only [names_append]
      split_ifs <;> first | rfl | tauto
  | have_ _ _ _ inner induction =>
      rw [recordExternals, induction, recordExternal, inner, guardeds,
        Item.guarded]
      simp only [names_append, names_under]
      split_ifs <;> first | rfl | tauto

section Configuration

variable (feature : String → Option Bool)

/-- The table is left as it was for names without an external in a section, and
for the others it says whether all conditions around one of them hold. -/
def Recorded (items : List Item) (before after : Funcs) : Prop :=
  ∀ name,
    (¬Names (sectioned items) name ∧ after.find name = before.find name) ∨
    ∃ entry ∈ sectioned items, entry.2.name = name ∧
      after.find name = some (entry.1.all (·.holds feature))

variable {feature}

theorem Recorded.append {first second : List Item}
    {before middle after : Funcs} (start : Recorded feature first before middle)
    (rest : Recorded feature second middle after)
    {items : List Item}
    (split : sectioned items = sectioned first ++ sectioned second) :
    Recorded feature items before after := by
  intro name
  rw [split, names_append]
  obtain ⟨unnamed, same⟩ | ⟨entry, member, named, found⟩ := rest name
  · obtain ⟨absent, kept⟩ | ⟨entry, member, named, found⟩ := start name
    · exact .inl ⟨not_or.mpr ⟨absent, unnamed⟩, same.trans kept⟩
    · exact .inr ⟨entry, List.mem_append_left _ member, named, same.trans found⟩
  · exact .inr ⟨entry, List.mem_append_right _ member, named, found⟩

/-- A true section is recorded as available, and what is in a section inside it
is recorded again. -/
theorem Recorded.available {cond : Cond} {items : List Item}
    {before after : Funcs} (holds : cond.holds feature = true)
    (inner : Recorded feature items (recordExternals true items before) after) :
    Recorded feature [.have_ cond items] before after := by
  intro name
  rw [sectioned_have, names_under]
  obtain ⟨unnamed, same⟩ | ⟨entry, member, named, found⟩ := inner name
  · rw [find_recordExternals] at same
    by_cases named : Names (guardeds items) name
    · obtain ⟨entry, member, isNamed⟩ := named
      have bare : entry.1 = [] := by
        by_contra guarded
        exact unnamed ⟨entry, List.mem_filter.mpr ⟨member, by
          simpa using guarded⟩, isNamed⟩
      refine .inr ⟨_, List.mem_map_of_mem member, isNamed, ?_⟩
      rw [same, if_pos ⟨entry, member, isNamed⟩]
      simp [bare, holds]
    · exact .inl ⟨named, by rw [same, if_neg named]⟩
  · refine .inr ⟨_, List.mem_map_of_mem (List.mem_of_mem_filter member), named,
      ?_⟩
    rw [found]
    simp [holds]

/-- In a false section no externals are left to record again. -/
theorem Recorded.missing {cond : Cond} {items : List Item}
    {before after : Funcs} (fails : cond.holds feature = false)
    (inner : Recorded feature (invalidExternals items)
      (recordExternals false items before) after) :
    Recorded feature [.have_ cond items] before after := by
  intro name
  rw [sectioned_have, names_under]
  obtain ⟨-, same⟩ | ⟨entry, member, -⟩ := inner name
  · rw [find_recordExternals] at same
    by_cases named : Names (guardeds items) name
    · obtain ⟨entry, member, isNamed⟩ := named
      refine .inr ⟨_, List.mem_map_of_mem member, isNamed, ?_⟩
      rw [same, if_pos ⟨entry, member, isNamed⟩]
      simp [fails]
    · exact .inl ⟨named, by rw [same, if_neg named]⟩
  · rw [sectioned, guardeds_invalidExternals] at member
    cases member

theorem expand_records (items : List Item) (funcs : Funcs)
    (admissible : Admissibles feature items) :
    ∃ funcs', expand feature true items funcs =
      .ok (renders feature true items, funcs') ∧
        Recorded feature items funcs funcs' := by
  apply expand_all_induction (motive := Recorded feature)
  · intro funcs name
    exact .inl ⟨by simp [Names, sectioned, guardeds], rfl⟩
  · intro item rest funcs after plain recorded name
    rw [sectioned_cons, sectioned_plain plain, List.nil_append]
    exact recorded name
  · intro name body rest funcs before after inner outer
    apply inner.append outer
    rw [sectioned_cons, sectioned_module]
  · intro cond body rest funcs before after holds inner outer
    exact (inner.available holds).append outer (sectioned_cons _ _)
  · intro cond body rest funcs before after fails inner outer
    exact (inner.missing fails).append outer (sectioned_cons _ _)
  · exact admissible

end Configuration

end ExtUnix.Ppx
