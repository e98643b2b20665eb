import BridgeTypings.Proofs.OrderedMap
import BridgeTypings.Proofs.Output.Supertypes

namespace BridgeTypings.Emission

open Outcome

structure DeclarationOutline.Extended (d d' : DeclarationOutline) : Prop where
  keyword : d'.keyword = d.keyword
  name : d'.name = d.name
  parents : d.parents ≠ [] → d'.parents = d.parents
  implements : d.implements.Sublist d'.implements
  members : d'.members = d.members

section

variable {r : Renderer} {declarations declarations' : Declarations}

theorem retained_sublist (hmore : ∀ k, declarations.contains k = true →
      declarations'.contains k = true) {types : List TypeExpr} {texts texts' : List String}
    (h : retained r declarations types = .ok texts)
    (h' : retained r declarations' types = .ok texts') : texts.Sublist texts' := by
  obtain ⟨rendered, hrendered, rfl⟩ := exists_rendered h
  obtain ⟨rendered', hrendered', rfl⟩ := exists_rendered h'
  obtain rfl : rendered = rendered' := Except.ok.inj (hrendered.symm.trans hrendered')
  exact List.monotone_filter_right rendered hmore

theorem length_retained {types : List TypeExpr} {texts : List String}
    (h : retained r declarations types = .ok texts) : texts.length ≤ types.length := by
  obtain ⟨rendered, hrendered, rfl⟩ := exists_rendered h
  rw [(forall₂_of_mapM_ok hrendered).length_eq]
  exact List.length_filter_le _ _

theorem extended_of_declarationOutline (hmore : ∀ k, declarations.contains k = true →
      declarations'.contains k = true) {e : String × Declaration} {d d' : DeclarationOutline}
    (h : declarationOutline r declarations e = .ok d)
    (h' : declarationOutline r declarations' e = .ok d') : d.Extended d' := by
  obtain ⟨parents, hparents, h⟩ := bind_eq_ok.1 h
  obtain ⟨implements, himplements, h⟩ := bind_eq_ok.1 h
  obtain ⟨members, hmembers, heq⟩ := bind_eq_ok.1 h
  cases heq
  obtain ⟨parents', hparents', h'⟩ := bind_eq_ok.1 h'
  obtain ⟨implements', himplements', h'⟩ := bind_eq_ok.1 h'
  obtain ⟨members', hmembers', heq'⟩ := bind_eq_ok.1 h'
  cases heq'
  refine ⟨rfl, rfl, fun hshown => ?_, retained_sublist hmore himplements himplements', ?_⟩
  -- there is one parent at most, so that nothing can come beside the one that is shown
  · have hone : parents'.length ≤ 1 :=
      Nat.le_trans (length_retained hparents') Option.length_toList_le
    have hsome : 0 < parents.length := List.length_pos_iff.2 hshown
    exact ((retained_sublist hmore hparents hparents').eq_of_length_le (by omega)).symm
  · exact Except.ok.inj (hmembers'.symm.trans hmembers)

theorem outline_grown {entries : EntryPoints} {o o' : Outline}
    (hpart : declarations'.restrict declarations.contains = declarations)
    (h : outline r declarations entries = .ok o) (h' : outline r declarations' entries = .ok o') :
    List.SublistForall₂ DeclarationOutline.Extended o.declarations o'.declarations ∧
      o'.entries = o.entries := by
  have hsub : declarations.entries.Sublist declarations'.entries := by
    rw [← hpart]
    exact List.filter_sublist
  have hmore : ∀ k, declarations.contains k = true → declarations'.contains k = true := by
    intro k hk
    simp only [OrderedMap.contains, List.contains_iff_mem] at hk ⊢
    exact (hsub.map Prod.fst).subset hk
  obtain ⟨described, hdescribed, h⟩ := bind_eq_ok.1 h
  obtain ⟨bound, hbound, heq⟩ := bind_eq_ok.1 h
  cases heq
  obtain ⟨described', hdescribed', h'⟩ := bind_eq_ok.1 h'
  obtain ⟨bound', hbound', heq'⟩ := bind_eq_ok.1 h'
  cases heq'
  refine ⟨?_, Except.ok.inj (hbound'.symm.trans hbound)⟩
  exact sublistForall₂_of_forall₂ hsub (forall₂_of_mapM_ok hdescribed)
    (forall₂_of_mapM_ok hdescribed') fun e d d' => extended_of_declarationOutline hmore

end

end BridgeTypings.Emission
