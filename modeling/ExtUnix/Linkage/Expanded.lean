import ExtUnix.Discover.Features
import ExtUnix.Linkage.Bindings
import ExtUnix.Ppx.Placed

namespace ExtUnix.Linkage

open ExtUnix.Discover ExtUnix.Ppx
open Bindings (extUnix body)

/-! The expansions of `extUnix.pp.ml`. -/

theorem body_named : nameds (features.map Prod.fst) body = true := by
  decide +kernel

theorem extUnix_verbatims {feature : String → Option Bool}
    (registered : ∀ name ∈ features.map Prod.fst,
      (feature name).isSome = true) (all : Bool) :
    ∃ output funcs, expand feature all extUnix [] = .ok (output, funcs) ∧
      verbatims output = enabled feature body :=
  expand_money_verbatims all Bindings.haveDoc []
    (admissibles_of_nameds registered body_named)

theorem extUnix_declareds {feature : String → Option Bool}
    (registered : ∀ name ∈ features.map Prod.fst,
      (feature name).isSome = true) (all : Bool) :
    ∃ output funcs, expand feature all extUnix [] = .ok (output, funcs) ∧
      (declareds output).map TypeDeclaration.forget =
        (((placeds body).filter fun placed =>
          all || placed.available feature).flatMap Placed.declared).map
            TypeDeclaration.forget := by
  obtain ⟨output, funcs, expanded, same⟩ := expand_declareds all []
    (admissibles_of_nameds registered body_named)
  refine ⟨_, funcs, expand_money expanded, ?_⟩
  rw [declareds_append, declareds_money, List.append_nil, same]

end ExtUnix.Linkage
