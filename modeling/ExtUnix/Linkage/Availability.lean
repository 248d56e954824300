import ExtUnix.Linkage.Audit

namespace ExtUnix.Linkage

open ExtUnix.Cpp (sameText sameText_iff)
open ExtUnix.Discover ExtUnix.Ppx
open Bindings (extUnix body)
open Bodies (bodies)

/-! Whether All tells the truth about what is available. -/

/-- A value of a structure that no later one of its name replaces. -/
structure LastBound (items : List Item) (f : Placed) : Prop where
  value : (∃ external, f.item = .primitive external) ∨ isLet f = true
  last : ∃ before after, placeds items = before ++ f :: after ∧
    ∀ later ∈ after, ¬(later.path = f.path ∧ valueName later = valueName f)

/-- What All should say of a value that is in a section: `have` knows whether it
is available, and when it is not, a full application that reaches a missing
primitive raises `Not_available` with the name of the value. -/
def Truthful (bounds : List Bound) (f : Placed) (available : Bool) : Prop :=
  haveOf bounds (valueName f) = some available ∧
    (available = false → ∀ e ∈ applied bounds f.path (valueName f),
      e.reached = true →
        e.ended = .raised (.notAvailable (valueName f)))

theorem extUnix_scope {feature : String → Option Bool}
    (registered : ∀ name ∈ features.map Prod.fst,
      (feature name).isSome = true) :
    ∃ output funcs table, expand feature true extUnix [] = .ok (output, funcs) ∧
      scope output bodies = ⟨[], "have", .table table⟩ ::
        entries.map (bindUnder (holding feature)) ∧
      Recorded feature body [] table := by
  obtain ⟨table, expanded, recorded⟩ := expand_records body []
    (admissibles_of_nameds registered body_named)
  refine ⟨_, table, table, expand_money expanded, ?_, recorded⟩
  exact scope_money feature body bodies Bindings.haveDoc table

theorem find_table {feature : String → Option Bool} {table : Funcs}
    (recorded : Recorded feature body [] table) (name : String) :
    table.find name = (externalConds name).map (holding feature) := by
  obtain ⟨unnamed, unchanged⟩ | ⟨entry, member, named, found⟩ := recorded name
  · have absent : externalConds name = none := by
      rw [externalConds, Option.map_eq_none_iff, List.find?_eq_none]
      intro entry member same
      exact unnamed ⟨entry, member, sameText_iff.mp same⟩
    rw [unchanged, absent]
    rfl
  · have agree := List.all_eq_true.mp sectioned_agree entry member
    rw [named] at agree
    split at agree
    · rename_i conds first
      rw [found, first, Option.map_some,
        holding_congr feature (beq_iff_eq.mp agree)]
      rfl
    · cases agree

theorem member_append {later earlier : List Bound} {bound : Bound}
    {path : List String} {name : String}
    (replaced : ∀ other ∈ later, ¬(other.path = path ∧ other.name = name))
    (found : bound.path = path ∧ bound.name = name) :
    member (later ++ bound :: earlier) path name = some (bound, earlier) := by
  induction later with
  | nil => rw [List.nil_append, member, if_pos found]
  | cons other rest induction =>
      rw [List.cons_append, member, if_neg (replaced other (by simp))]
      exact induction fun later member => replaced later (by simp [member])

theorem LastBound.entry {f : Placed} (bound : LastBound body f) :
    ∃ later body earlier, entries = later ++ (f, body) :: earlier ∧
      ∀ entry ∈ later,
        ¬(entry.1.path = f.path ∧ valueName entry.1 = valueName f) := by
  obtain ⟨before, after, placed, last⟩ := bound.last
  obtain ⟨remaining, attached⟩ := attach_append before (f :: after) bodies
  obtain ⟨body, rest, here⟩ := attach_cons f after remaining
  refine ⟨(attach after rest).reverse, body, (attach before bodies).reverse,
    ?_, ?_⟩
  · rw [entries, placed, attached, here, List.reverse_append,
      List.reverse_cons, List.append_assoc]
    rfl
  · intro entry member
    exact last entry.1 (mem_attach (List.mem_reverse.mp member))

/-- The values of which All tells the truth: externals, functions that call an
external of their own name, and, when they are available, functions that have
the name of an external of `BA`. -/
def Announced (feature : String → Option Bool) (f : Placed) : Prop :=
  (∃ external, f.item = .primitive external) ∨
    f.path = [] ∧ (valueName f ∈ wrappers ∨
      valueName f ∈ namesakes ∧ f.available feature = true)

def allScope (feature : String → Option Bool) (table : Funcs) : List Bound :=
  ⟨[], "have", .table table⟩ :: entries.map (bindUnder (holding feature))

section Scope

variable {feature : String → Option Bool} {table : Funcs} {f : Placed}

theorem haveOf_allScope (recorded : Recorded feature body [] table)
    (name : String) :
    haveOf (allScope feature table) name =
      (externalConds name).map (holding feature) := by
  rw [← find_table recorded]
  rfl

theorem applied_allScope {later earlier : List (Placed × Body)} {body : Body}
    (here : entries = later ++ (f, body) :: earlier)
    (last : ∀ entry ∈ later,
      ¬(entry.1.path = f.path ∧ valueName entry.1 = valueName f)) :
    applied (allScope feature table) f.path (valueName f) =
      (bindUnder (holding feature) (f, body)).ends
        (earlier.map (bindUnder (holding feature))) := by
  have unnamed : ¬sameText (valueName f) "have" = true := by
    have checked := List.all_eq_true.mp entries_unnamed (f, body)
      (by rw [here]; simp)
    simpa using checked
  have found : member (allScope feature table) f.path (valueName f) =
      some (bindUnder (holding feature) (f, body),
        earlier.map (bindUnder (holding feature))) := by
    rw [allScope, here, List.map_append, List.map_cons, ← List.cons_append]
    apply member_append
    · intro other among
      obtain rfl | among := List.mem_cons.mp among
      · rintro ⟨-, named⟩
        exact unnamed (sameText_iff.mpr named.symm)
      · obtain ⟨entry, isLater, rfl⟩ := List.mem_map.mp among
        exact last entry isLater
    · exact ⟨rfl, rfl⟩
  rw [applied, found]

theorem truthful_external (recorded : Recorded feature body [] table)
    (bound : LastBound body f) (guarded : f.conds ≠ []) {external : External}
    (primitive : f.item = .primitive external) :
    Truthful (allScope feature table) f (f.available feature) := by
  obtain ⟨later, ownBody, earlier, here, last⟩ := bound.entry
  have named : valueName f = external.name := by
    rw [valueName, primitive]
  have inSection : (f.conds, external) ∈ sectioned body := by
    obtain ⟨before, after, placed, -⟩ := bound.last
    rw [sectioned, List.mem_filter, guardeds_eq_placeds, List.mem_filterMap]
    refine ⟨⟨f, by rw [placed]; simp, ?_⟩, by simpa using guarded⟩
    rw [Placed.guarded, primitive]
  have agree := List.all_eq_true.mp sectioned_agree _ inSection
  refine ⟨?_, ?_⟩
  · rw [haveOf_allScope recorded, named]
    split at agree
    · rename_i conds found
      rw [found, Option.map_some,
        holding_congr feature (beq_iff_eq.mp agree)]
      rfl
    · cases agree
  · intro missing e ended
    have unavailable : holding feature f.conds = false := missing
    rw [applied_allScope here last, Bound.ends_eq] at ended
    simp only [bindUnder, primitive, unavailable, Bool.false_eq_true, if_false,
      List.mem_singleton] at ended
    rw [ended, named]
    exact fun _ => rfl

theorem announced_let (definition : isLet f = true) :
    Announced feature f ↔ isWrapper f = true ∨
      isNamesake f = true ∧ f.available feature = true := by
  have bound : ¬∃ external, f.item = .primitive external := by
    rintro ⟨external, primitive⟩
    rw [isLet, primitive] at definition
    cases definition
  rw [Announced, isWrapper_iff, isNamesake_iff]
  tauto

theorem ends_missing {earlier : List (Placed × Body)} {body : Body}
    (kept : keepsSection earlier (f, body) = true)
    (keptBefore : everywhere keepsSection earlier = true)
    (missing : f.available feature = false) :
    (bindUnder (holding feature) (f, body)).ends
        (earlier.map (bindUnder (holding feature))) =
      (bindUnder (fun _ => false) (f, body)).ends
        (earlier.map (bindUnder fun _ => false)) := by
  have unavailable : holding feature f.conds = false := missing
  have own : codes f.conds = codes f.conds := rfl
  have uniform := ends_uniform feature kept own
    fun _ _ _ resolved same => called_uniform feature keptBefore resolved same
  rw [unavailable] at uniform
  exact uniform

theorem truthful_let_iff (recorded : Recorded feature body [] table)
    (bound : LastBound body f) (guarded : f.conds ≠ [])
    (definition : isLet f = true) :
    Truthful (allScope feature table) f (f.available feature) ↔
      Announced feature f := by
  obtain ⟨later, ownBody, earlier, here, last⟩ := bound.entry
  obtain ⟨kept, keptBefore⟩ := everywhere_split (here ▸ entries_kept)
  have audit := (everywhere_split (here ▸ entries_audited)).1
  rw [announced_let definition, Truthful, haveOf_allScope recorded,
    applied_allScope here last]
  have nonempty : f.conds.isEmpty = false := by
    simpa using guarded
  simp only [audited, definition, nonempty, Bool.not_true,
    Bool.false_or] at audit
  split at audit
  · rename_i unknown
    rw [Bool.and_eq_true, Bool.not_eq_true', Bool.not_eq_true'] at audit
    simp [unknown, audit.1, audit.2]
  · rename_i conds found
    rw [Bool.and_eq_true] at audit
    have known : holding feature conds = f.available feature :=
      holding_congr feature (beq_iff_eq.mp audit.1)
    rw [found, Option.map_some, known, ← givesName_iff]
    cases available : f.available feature with
    | true =>
        split_ifs at audit
        · simp [audit.2]
        · have both := Bool.and_eq_true_iff.mp audit.2
          simp [both.1]
    | false =>
        rw [ends_missing kept keptBefore available]
        split_ifs at audit with gives
        · simp [gives, audit.2]
        · have both := Bool.and_eq_true_iff.mp audit.2
          have differs : isWrapper f = false := by
            simpa using both.2
          simp [gives, differs]

end Scope

/-- `have` and `Not_available` tell the truth of exactly the announced values of
the sections. -/
theorem availability_truthful_iff {feature : String → Option Bool}
    (registered : ∀ name ∈ features.map Prod.fst,
      (feature name).isSome = true) :
    ∃ output funcs, expand feature true extUnix [] = .ok (output, funcs) ∧
      ∀ f, LastBound body f → f.conds ≠ [] →
        (Truthful (scope output bodies) f (f.available feature) ↔
          Announced feature f) := by
  obtain ⟨output, funcs, table, expanded, bounds, recorded⟩ :=
    extUnix_scope registered
  refine ⟨output, funcs, expanded, fun f bound guarded => ?_⟩
  rw [bounds]
  obtain ⟨external, primitive⟩ | definition := bound.value
  · exact ⟨fun _ => .inl ⟨external, primitive⟩,
      fun _ => truthful_external recorded bound guarded primitive⟩
  · exact truthful_let_iff recorded bound guarded definition

theorem lastBound_at {items : List Item} {n : Nat} {f : Placed}
    (here : (placeds items)[n]? = some f)
    (value : (∃ external, f.item = .primitive external) ∨ isLet f = true)
    (unreplaced : ((placeds items).drop (n + 1)).all (fun later =>
      !(sameText (valueName later) (valueName f) &&
        later.path == f.path)) = true) :
    LastBound items f := by
  obtain ⟨inside, found⟩ := List.getElem?_eq_some_iff.mp here
  refine ⟨value, (placeds items).take n, (placeds items).drop (n + 1), ?_, ?_⟩
  · rw [← found, ← List.drop_eq_getElem_cons inside, List.take_append_drop]
  · rintro later among ⟨samePath, sameName⟩
    have checked := List.all_eq_true.mp unreplaced later among
    rw [samePath, sameName, sameText_iff.mpr rfl] at checked
    simp at checked

def eventfd : Placed :=
  ⟨[], [.eval (Bindings.atom "EVENTFD")],
    Bindings.external "eventfd" ["int"] "Unix.file_descr"
      ["caml_extunix_eventfd"]⟩

theorem availability_truthful_iff_eventfd :
    let feature : String → Option Bool := fun _ => some false
    ∃ output funcs, expand feature true extUnix [] = .ok (output, funcs) ∧
      LastBound body eventfd ∧
      Truthful (scope output bodies) eventfd (eventfd.available feature) := by
  intro feature
  obtain ⟨output, funcs, expanded, truthful⟩ :=
    @availability_truthful_iff feature (by simp [feature])
  have bound : LastBound body eventfd :=
    lastBound_at (n := 5) rfl (.inl ⟨_, rfl⟩) (by decide +kernel)
  refine ⟨output, funcs, expanded, bound, ?_⟩
  exact (truthful eventfd bound (by simp [eventfd])).mpr (.inl ⟨_, rfl⟩)

def pread : Placed :=
  ⟨[], [.eval (Bindings.atom "PREAD")], Bindings.let_ "pread"⟩

/-- Of `pread` All says nothing, and where it is missing its applications name
another function. -/
theorem pread_unannounced :
    let feature : String → Option Bool := fun _ => some false
    ∃ output funcs, expand feature true extUnix [] = .ok (output, funcs) ∧
      LastBound body pread ∧ pread.available feature = false ∧
      haveOf (scope output bodies) "pread" = none ∧
      applied (scope output bodies) [] "pread" =
        [⟨true, .raised (.notAvailable "unsafe_pread")⟩,
          ⟨false, .raised .other⟩] ∧
      ¬Truthful (scope output bodies) pread (pread.available feature) := by
  intro feature
  obtain ⟨output, funcs, table, expanded, bounds, recorded⟩ :=
    @extUnix_scope feature (by simp [feature])
  have bound : LastBound body pread :=
    lastBound_at (n := 55) rfl (.inr rfl) (by decide +kernel)
  have unknown : haveOf (scope output bodies) "pread" = none := by
    rw [bounds]
    refine (haveOf_allScope recorded "pread").trans ?_
    have absent : (externalConds "pread").isNone = true := by
      decide +kernel
    rw [Option.isNone_iff_eq_none.mp absent]
    rfl
  have raises : applied (entries.map (bindUnder (holding feature))) []
      "pread" = [⟨true, .raised (.notAvailable "unsafe_pread")⟩,
        ⟨false, .raised .other⟩] := by
    decide +kernel
  refine ⟨output, funcs, expanded, bound, by decide, unknown, ?_, ?_⟩
  · rw [bounds, applied_cons_of_ne (by simp), raises]
  · rintro ⟨known, -⟩
    rw [show valueName pread = "pread" from rfl, unknown] at known
    cases known

end ExtUnix.Linkage
