import BridgeTypings.Proofs.Exposure
import BridgeTypings.Proofs.Java.Parsing.Sources
import BridgeTypings.Proofs.Java.Shape
import Mathlib.Data.List.Forall2
import Mathlib.Data.Option.Basic

namespace BridgeTypings

open Java Outcome

namespace Java

def TypeSyntax.pairs : TypeSyntax → Nat
  | .array element brackets => element.pairs + brackets.length
  | .annotated _ type => type.pairs
  | .wildcard _ (some bound) => bound.pairs
  | _ => 0

theorem dimensions_chain (first : NamedSegment) (rest : List NamedSegment) :
    (NamedSegment.chain first rest).dimensions = [] := by
  induction rest generalizing first with
  | nil => rfl
  | cons second rest ih =>
      rw [NamedSegment.chain]
      split
      · exact ih second
      · rfl

theorem dimensions_read {t : TypeSyntax} (h : t.Proper) {type : TypeExpr}
    (hread : t.read = .ok type) : type.dimensions = List.replicate t.pairs .unsized := by
  induction h generalizing type with
  | void => cases hread
  | primitive =>
      cases hread
      rfl
  | dotted =>
      obtain ⟨first, -, hread⟩ := bind_eq_ok.1 hread
      obtain ⟨rest, -, hread⟩ := bind_eq_ok.1 hread
      cases hread
      exact dimensions_chain first rest
  | @array element brackets _ hbrackets ih =>
      obtain ⟨e, helement, hread⟩ := bind_eq_ok.1 hread
      cases hread
      rw [TypeExpr.dimensions_withDimensions, ih helement, dimensionsOf_proper hbrackets,
        List.replicate_append_replicate]
      rfl
  | annotated _ ih => exact ih hread
  | @wildcard names bound _ ih =>
      cases bound with
      | none =>
          cases hread
          rfl
      | some t => exact ih t rfl hread

theorem dimensions_readDeclared {t : TypeSyntax} {d : Declarator} (ht : t.Proper) (hd : d.Proper)
    {type : TypeExpr} (hread : readDeclared t d = .ok type) :
    type.dimensions = List.replicate (t.pairs + d.brackets.length) .unsized := by
  obtain ⟨e, he, hread⟩ := bind_eq_ok.1 hread
  cases hread
  rw [TypeExpr.dimensions_withDimensions, dimensions_read ht he, dimensionsOf_proper hd.brackets,
    List.replicate_append_replicate]

end Java

namespace Exposure

def lastDeclared (parameters : List Java.Parameter) (name : String) :
    Option (TypeSyntax × Declarator × Bool) :=
  (parameters.filterMap declared?).reverse.find? (·.2.1.name == name)

def KeepsParameter (p : TypeSyntax × Declarator × Bool) (e : Parameter) : Prop :=
  e.type.dimensions = List.replicate (p.1.pairs + p.2.1.brackets.length) .unsized ∧
    e.variadic = p.2.2

inductive KeepsDimensions (returned : Java.Method → Nat) : Member → String × Attribute → Prop
  | field {names : List AnnotationName} {t : TypeSyntax} {d : Declarator} {type : TypeExpr} :
      type.dimensions = List.replicate (t.pairs + d.brackets.length) .unsized →
      KeepsDimensions returned (.field ⟨names, t, [d]⟩) (d.name, .field type)
  | method {m : Java.Method} {r : Method} :
      (m.returns = .void ∧ r.returns = none ∨ ∃ type, r.returns = some type ∧
        type.dimensions = List.replicate (returned m) .unsized) →
      (∀ name, Option.Rel KeepsParameter (lastDeclared m.parameters name)
        (r.parameters.get? name)) →
      KeepsDimensions returned (.method m) (m.name, .method r)

theorem rel_find?_lookup {l : List (TypeSyntax × Declarator × Bool)}
    {l' : List (String × Parameter)} (name : String)
    (h : List.Forall₂ (fun p e => e.1 = p.2.1.name ∧ KeepsParameter p e.2) l l') :
    Option.Rel KeepsParameter (l.find? (·.2.1.name == name)) (l'.lookup name) := by
  induction h with
  | nil => exact .none
  | @cons p e rest rest' hhead _ ih =>
      obtain ⟨hkey, hkeeps⟩ := hhead
      rw [List.find?_cons, List.lookup_cons, hkey, BEq.comm]
      cases name == p.2.1.name with
      | true => exact .some hkeeps
      | false => exact ih

theorem proper_declared {m : Java.Method} (hm : m.Proper) :
    ∀ p ∈ m.parameters.filterMap declared?, p.1.Proper ∧ p.2.1.Proper := by
  intro p hp
  obtain ⟨parameter, hparameter, hdeclared⟩ := List.mem_filterMap.1 hp
  have hproper := hm.parameters parameter hparameter
  cases parameter with
  | formal t d =>
      cases hdeclared
      exact hproper
  | spread t d =>
      cases hdeclared
      exact hproper
  | receiver => cases hdeclared

theorem keepsParameters {m : Java.Method} (hm : m.Proper) {r : Method} (h : HasSignature m r)
    (name : String) :
    Option.Rel KeepsParameter (lastDeclared m.parameters name) (r.parameters.get? name) := by
  obtain ⟨ps, hps, -, hget⟩ := h.parameters
  have hproper := (List.forall₂_and_left _ _).2 ⟨proper_declared hm, hps⟩
  have hkeeps : List.Forall₂ (fun p e => e.1 = p.2.1.name ∧ KeepsParameter p e.2)
      (m.parameters.filterMap declared?) ps := by
    refine hproper.imp fun p e ⟨⟨ht, hd⟩, hread⟩ => ?_
    obtain ⟨type, htype, hread⟩ := bind_eq_ok.1 hread
    cases hread
    exact ⟨rfl, dimensions_readDeclared ht hd htype, rfl⟩
  rw [hget]
  exact rel_find?_lookup name (List.rel_reverse hkeeps)

theorem keepsReturn {t : TypeSyntax} (ht : t.Proper) {r : Option TypeExpr} (h : Returns t r) :
    t = .void ∧ r = none ∨ ∃ type, r = some type ∧
      type.dimensions = List.replicate t.pairs .unsized := by
  cases h with
  | nothing => exact .inl ⟨rfl, rfl⟩
  | value _ hread => exact .inr ⟨_, rfl, dimensions_read ht hread⟩

theorem keepsDimensions {markers : Markers} {m : Member} (hm : m.Proper) {i : Item}
    (hitem : item? markers m = some i) {a : String × Attribute} (h : i.Describes a) :
    KeepsDimensions (fun m => m.returns.pairs) m a := by
  unfold item? at hitem
  split at hitem
  · next names t d =>
      split at hitem
      · cases hitem
        cases h with
        | field hread =>
            have hd : d.Proper := Field.Proper.declarators hm d (by simp)
            exact .field (dimensions_readDeclared (Field.Proper.type hm) hd hread)
      · cases hitem
  · next m =>
      split at hitem
      · cases hitem
        cases h with
        | method hsignature =>
            -- what the signature leaves out of the method is not looked at
            refine .method ?_ (keepsParameters hm ⟨hsignature.returns, hsignature.parameters⟩)
            exact keepsReturn (Method.Proper.returns hm) hsignature.returns
      · cases hitem
  · cases hitem

theorem keepsDimensions_items {markers : Markers} {members : List Member}
    (hmembers : ∀ m ∈ members, m.Proper) {attributes : List (String × Attribute)}
    (h : List.Forall₂ Item.Describes (items markers members) attributes) :
    List.Forall₂ (KeepsDimensions fun m => m.returns.pairs)
      (members.filter fun m => (item? markers m).isSome) attributes := by
  induction members generalizing attributes with
  | nil =>
      cases h
      exact .nil
  | cons m rest ih =>
      obtain ⟨hm, hrest⟩ := List.forall_mem_cons.1 hmembers
      cases hitem : item? markers m with
      | none =>
          rw [items, List.filterMap_cons_none hitem] at h
          rw [List.filter_cons_of_neg (by simp [hitem])]
          exact ih hrest h
      | some i =>
          rw [items, List.filterMap_cons_some hitem] at h
          rw [List.filter_cons_of_pos (by simp [hitem])]
          cases h with
          | cons hi hothers => exact .cons (keepsDimensions hm hitem hi) (ih hrest hothers)

theorem collect_keepsDimensions {text name : String} {markers : Markers} {d : Declaration}
    (h : (collect text markers).result = .ok (name, d)) :
    ∃ source first others, Source.parse text = some source ∧ source.preorder = first :: others ∧
      name = first.name ∧ List.Forall₂ (KeepsDimensions fun m => m.returns.pairs)
        (first.members.filter fun m => (item? markers m).isSome) d.attributes := by
  obtain ⟨source, first, others, hparse, hfirst, hname, hexposes⟩ := collect_eq_ok_iff.1 h
  have hproper := Source.proper_of_mem_preorder hparse first (by simp [hfirst])
  exact ⟨source, first, others, hparse, hfirst, hname,
    keepsDimensions_items hproper.members hexposes.attributes⟩

def mixedBrackets : String :=
  "class A \x7b @PhonkField int[/**/] @X [] x[]; " ++
    "@PhonkMethod T[] f(int[] a[], @X T[]... b @X [ ]); \x7d"

theorem collect_mixedBrackets :
    ∃ name d source first others, (collect mixedBrackets {}).result = .ok (name, d) ∧
      Source.parse mixedBrackets = some source ∧ source.preorder = first :: others ∧
      name = first.name ∧ d.attributes.map Prod.fst = ["x", "f"] ∧
      List.Forall₂ (KeepsDimensions fun m => m.returns.pairs)
        (first.members.filter fun m => (item? {} m).isSome) d.attributes := by
  obtain ⟨⟨name, d⟩, hcollect, hview⟩ : ∃ r, (collect mixedBrackets {}).result = .ok r ∧
      r.2.attributes.map Prod.fst = ["x", "f"] := exists_ok_of_toOption (by decide +kernel)
  obtain ⟨source, first, others, hparse, hfirst, hname, hkeeps⟩ := collect_keepsDimensions hcollect
  exact ⟨name, d, source, first, others, hcollect, hparse, hfirst, hname, hview, hkeeps⟩

def trailingBrackets : String :=
  "class A \x7b @PhonkMethod int[] f()[] \x7b return null; \x7d \x7d"

def returnedPairs : Member → Option Nat
  | .method m => some (m.returns.pairs + m.brackets.length)
  | _ => none

def returnedDimensions : Attribute → Option (List Dimension)
  | .method r => r.returns.map TypeExpr.dimensions
  | .field _ => none

theorem collect_trailingBrackets :
    ∃ name d source first others, (collect trailingBrackets {}).result = .ok (name, d) ∧
      Source.parse trailingBrackets = some source ∧ source.preorder = first :: others ∧
      ¬ List.Forall₂ (KeepsDimensions fun m => m.returns.pairs + m.brackets.length)
        (first.members.filter fun m => (item? {} m).isSome) d.attributes := by
  obtain ⟨⟨name, d⟩, hcollect, hview⟩ : ∃ r, (collect trailingBrackets {}).result = .ok r ∧
      r.2.attributes.map (fun a => returnedDimensions a.2) = [some [.unsized]] :=
    exists_ok_of_toOption (by decide +kernel)
  obtain ⟨source, hparse, hpairs⟩ := Option.map_eq_some_iff.1
    (show (Source.parse trailingBrackets).map (fun s => s.preorder.map fun d =>
      d.members.map returnedPairs) = some [[some 2]] by decide +kernel)
  obtain ⟨first, hfirst, hmembers⟩ := List.map_eq_singleton_iff.1 hpairs
  refine ⟨name, d, source, first, [], hcollect, hparse, hfirst, fun hkeeps => ?_⟩
  obtain ⟨a, ha, hdimensions⟩ : ∃ a ∈ d.attributes, returnedDimensions a.2 = some [.unsized] :=
    List.mem_map.1 (by simp [hview])
  obtain ⟨m, hm, hkeep⟩ := exists_of_mem_right hkeeps ha
  have hpair : returnedPairs m ∈ first.members.map returnedPairs :=
    List.mem_map_of_mem (List.mem_filter.1 hm).1
  rw [hmembers, List.mem_singleton] at hpair
  cases hkeep with
  | field => cases hdimensions
  | method hreturns =>
      simp only [returnedPairs, Option.some.injEq] at hpair
      rcases hreturns with ⟨-, hnone⟩ | ⟨type, htype, hreturned⟩
      · simp [returnedDimensions, hnone] at hdimensions
      · simp [returnedDimensions, htype, hreturned, hpair] at hdimensions

end Exposure

end BridgeTypings
