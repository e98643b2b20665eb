import BridgeTypings.Proofs.Java.Shape
import BridgeTypings.Proofs.Java.Void
import Mathlib.Data.List.Forall2

namespace BridgeTypings.Java

open Outcome

mutual

def TypeSyntax.bare : TypeSyntax → TypeSyntax
  | .void => .void
  | .primitive name => .primitive name
  | .dotted first rest => .dotted first.bare (bareSegments rest)
  | .array element brackets => .array element.bare (brackets.map fun b => ⟨[], b.size⟩)
  | .annotated _ type => type.bare
  | .wildcard _ none => .wildcard [] none
  | .wildcard _ (some bound) => .wildcard [] (some bound.bare)

def Segment.bare : Segment → Segment
  | .mk _ name none => .mk [] name none
  | .mk _ name (some arguments) => .mk [] name (some (bareTypes arguments))

def bareSegments : List Segment → List Segment
  | [] => []
  | s :: rest => s.bare :: bareSegments rest

def bareTypes : List TypeSyntax → List TypeSyntax
  | [] => []
  | t :: rest => t.bare :: bareTypes rest

end

def StartsLowercase (name : String) : Prop :=
  ∃ c ∈ name.toList.head?, 'a' ≤ c ∧ c ≤ 'z'

def NamedSegment.IsType (s : NamedSegment) : Prop :=
  s.arguments ≠ none ∨ ¬ StartsLowercase s.name

inductive KeptFrom (segments : List NamedSegment) (k : Nat) : Prop
  | least {s : NamedSegment} : segments[k]? = some s → s.IsType →
      (∀ i < k, ∀ r ∈ segments[i]?, ¬ r.IsType) → KeptFrom segments k
  | last : (∀ s ∈ segments, ¬ s.IsType) → k + 1 = segments.length → KeptFrom segments k

inductive Chain : List NamedSegment → TypeExpr → Prop
  | last {s : NamedSegment} : Chain [s] (.named s.name s.arguments none [])
  | cons {s : NamedSegment} {rest : List NamedSegment} {e : TypeExpr} :
      Chain rest e → Chain (s :: rest) (.named s.name s.arguments (some e) [])

mutual

inductive Meaning : TypeSyntax → TypeExpr → Prop
  | primitive {name : String} : Meaning (.primitive name) (.primitive name [])
  | dotted {first : Segment} {rest : List Segment} {segments : List NamedSegment} {k : Nat}
      {e : TypeExpr} :
      List.Forall₂ SegmentMeaning (first :: rest) segments → KeptFrom segments k →
      Chain (segments.drop k) e → Meaning (.dotted first rest) e
  | array {element : TypeSyntax} {brackets : List Brackets} {e : TypeExpr} :
      Meaning element e → Meaning (.array element brackets) (e.array brackets.length)
  | object : Meaning (.wildcard [] none) (.plain "Object")
  | bound {t : TypeSyntax} {e : TypeExpr} : Meaning t e → Meaning (.wildcard [] (some t)) e

inductive SegmentMeaning : Segment → NamedSegment → Prop
  | plain {name : String} : SegmentMeaning (.mk [] name none) ⟨name, none⟩
  | generic {name : String} {types : List TypeSyntax} {es : List TypeExpr} :
      List.Forall₂ Meaning types es →
      SegmentMeaning (.mk [] name (some types)) ⟨name, some es⟩

end

theorem bareTypes_eq_map (types : List TypeSyntax) : bareTypes types = types.map TypeSyntax.bare := by
  induction types with
  | nil => rfl
  | cons t rest ih => rw [bareTypes, List.map_cons, ih]

theorem bareSegments_eq_map (segments : List Segment) :
    bareSegments segments = segments.map Segment.bare := by
  induction segments with
  | nil => rfl
  | cons s rest ih => rw [bareSegments, List.map_cons, ih]

namespace NamedSegment

theorem startsLowercase_iff {name : String} :
    startsLowercase name = true ↔ StartsLowercase name := by
  unfold startsLowercase StartsLowercase
  cases name.toList with
  | nil => simp
  | cons c more =>
      change (decide ('a' ≤ c) && decide (c ≤ 'z')) = true ↔ ∃ d ∈ some c, 'a' ≤ d ∧ d ≤ 'z'
      simp

theorem isPackage_iff {s : NamedSegment} : s.isPackage = true ↔ ¬ s.IsType := by
  rw [isPackage, Bool.and_eq_true, Option.isNone_iff_eq_none, startsLowercase_iff, IsType, not_or,
    not_not, not_not]

end NamedSegment

theorem keptFrom_singleton {s : NamedSegment} {k : Nat} : KeptFrom [s] k ↔ k = 0 := by
  constructor
  · intro h
    cases h with
    | least hs _ _ =>
        obtain ⟨hk, -⟩ := List.getElem?_eq_some_iff.1 hs
        simpa using hk
    | last _ hk => simpa using hk
  · rintro rfl
    by_cases hs : s.IsType
    · exact .least rfl hs (by simp)
    · exact .last (by simpa using hs) rfl

theorem keptFrom_cons_of_isType {s : NamedSegment} {rest : List NamedSegment} {k : Nat}
    (hs : s.IsType) : KeptFrom (s :: rest) k ↔ k = 0 := by
  constructor
  · intro h
    cases h with
    | least _ _ hleast =>
        by_contra hk
        exact hleast 0 (Nat.pos_of_ne_zero hk) s rfl hs
    | last hnone _ => exact absurd hs (hnone s List.mem_cons_self)
  · rintro rfl
    exact .least rfl hs (by simp)

theorem keptFrom_cons_of_not {s : NamedSegment} {rest : List NamedSegment} {k : Nat}
    (hs : ¬ s.IsType) (hrest : rest ≠ []) :
    KeptFrom (s :: rest) k ↔ ∃ j, k = j + 1 ∧ KeptFrom rest j := by
  constructor
  · intro h
    cases k with
    | zero =>
        cases h with
        | least hzero htype _ =>
            cases hzero
            exact absurd htype hs
        | last _ hlength => exact absurd (by simpa using hlength) hrest
    | succ j =>
        refine ⟨j, rfl, ?_⟩
        cases h with
        | least hj htype hleast =>
            exact .least hj htype fun i hi r hr => hleast (i + 1) (by omega) r hr
        | last hnone hlength =>
            exact .last (fun r hr => hnone r (List.mem_cons_of_mem _ hr)) (by simpa using hlength)
  · rintro ⟨j, rfl, h⟩
    cases h with
    | least hj htype hleast =>
        refine .least hj htype fun i hi r hr => ?_
        cases i with
        | zero =>
            cases hr
            exact hs
        | succ i => exact hleast i (by omega) r hr
    | last hnone hlength =>
        exact .last (List.forall_mem_cons.2 ⟨hs, hnone⟩) (by simpa using hlength)

theorem chain_iff {first : NamedSegment} {rest : List NamedSegment} {e : TypeExpr} :
    Chain (first :: rest) e ↔ NamedSegment.chain.nest first rest = e := by
  induction rest generalizing first e with
  | nil =>
      constructor
      · rintro (_ | ⟨⟨⟩⟩)
        rfl
      · rintro rfl
        exact .last
  | cons second rest ih =>
      constructor
      · rintro (_ | h)
        rw [NamedSegment.chain.nest, ih.1 h]
      · rintro rfl
        exact .cons (ih.2 rfl)

theorem chain_eq_iff {first : NamedSegment} {rest : List NamedSegment} {e : TypeExpr} :
    NamedSegment.chain first rest = e ↔
      ∃ k, KeptFrom (first :: rest) k ∧ Chain ((first :: rest).drop k) e := by
  induction rest generalizing first with
  | nil =>
      simp only [keptFrom_singleton, exists_eq_left, List.drop_zero, chain_iff]
      rfl
  | cons second rest ih =>
      rw [NamedSegment.chain]
      split
      · next hpackage =>
          have hnot := NamedSegment.isPackage_iff.1 hpackage
          rw [ih]
          constructor
          · rintro ⟨j, hj, hchain⟩
            exact ⟨j + 1, (keptFrom_cons_of_not hnot (by simp)).2 ⟨j, rfl, hj⟩, hchain⟩
          · rintro ⟨k, hk, hchain⟩
            obtain ⟨j, rfl, hj⟩ := (keptFrom_cons_of_not hnot (by simp)).1 hk
            exact ⟨j, hj, hchain⟩
      · next hpackage =>
          have htype : first.IsType := by
            by_contra hnot
            exact hpackage (NamedSegment.isPackage_iff.2 hnot)
          simp only [keptFrom_cons_of_isType htype, exists_eq_left, List.drop_zero, chain_iff]
          rfl

theorem mapM_ok_iff {α β : Type} {f : α → Except Error β} {g : α → α} {R : α → β → Prop}
    {l : List α} (h : ∀ a ∈ l, ∀ b, f a = .ok b ↔ R (g a) b) (bs : List β) :
    l.mapM f = .ok bs ↔ List.Forall₂ R (l.map g) bs := by
  rw [List.forall₂_map_left_iff]
  have hmembers {S : α → β → Prop} (hall : List.Forall₂ S l bs) :
      List.Forall₂ (fun a b => a ∈ l ∧ S a b) l bs :=
    (List.forall₂_and_left _ _).2 ⟨fun _ ha => ha, hall⟩
  constructor
  · intro hok
    exact (hmembers (forall₂_of_mapM_ok hok)).imp fun a b ⟨ha, hab⟩ => (h a ha b).1 hab
  · intro hall
    exact mapM_ok_of_forall₂ ((hmembers hall).imp fun a b ⟨ha, hab⟩ => (h a ha b).2 hab)

theorem segment_read_iff {s : Segment}
    (h : ∀ types ∈ s.arguments, ∀ t ∈ types, ∀ e, t.read = .ok e ↔ Meaning t.bare e)
    (r : NamedSegment) : s.read = .ok r ↔ SegmentMeaning s.bare r := by
  obtain ⟨names, name, arguments⟩ := s
  cases arguments with
  | none =>
      rw [Segment.read, Segment.bare, Except.ok.injEq]
      constructor
      · rintro rfl
        exact .plain
      · rintro ⟨⟩
        rfl
  | some types =>
      have htypes := mapM_ok_iff (h types rfl)
      rw [Segment.read, Segment.bare, readTypes_eq_mapM, bareTypes_eq_map]
      constructor
      · intro hread
        obtain ⟨es, hes, hread⟩ := bind_eq_ok.1 hread
        cases hread
        exact .generic ((htypes es).1 hes)
      · rintro (_ | hes)
        exact bind_eq_ok.2 ⟨_, (htypes _).2 hes, rfl⟩

theorem dotted_read_iff {first : Segment} {rest : List Segment}
    (h : ∀ s ∈ first :: rest, ∀ types ∈ s.arguments, ∀ t ∈ types, ∀ e,
      t.read = .ok e ↔ Meaning t.bare e) (e : TypeExpr) :
    (TypeSyntax.dotted first rest).read = .ok e ↔ Meaning (TypeSyntax.dotted first rest).bare e := by
  have hsegments := mapM_ok_iff fun s hs => segment_read_iff (h s hs)
  rw [TypeSyntax.read, TypeSyntax.bare, readSegments_eq_mapM, bareSegments_eq_map]
  constructor
  · intro hread
    obtain ⟨s, hs, hread⟩ := bind_eq_ok.1 hread
    obtain ⟨ss, hss, hread⟩ := bind_eq_ok.1 hread
    obtain ⟨k, hk, hchain⟩ := chain_eq_iff.1 (Except.ok.inj hread)
    have hall : (first :: rest).mapM Segment.read = .ok (s :: ss) := by
      rw [List.mapM_cons, hs, hss]
      rfl
    exact .dotted ((hsegments _).1 hall) hk hchain
  · rintro (_ | ⟨hall, hk, hchain⟩)
    have hall := (hsegments _).2 hall
    rw [List.mapM_cons] at hall
    obtain ⟨s, hs, hall⟩ := bind_eq_ok.1 hall
    obtain ⟨ss, hss, hall⟩ := bind_eq_ok.1 hall
    cases hall
    exact bind_eq_ok.2 ⟨s, hs, bind_eq_ok.2 ⟨ss, hss,
      congrArg Except.ok (chain_eq_iff.2 ⟨_, hk, hchain⟩)⟩⟩

theorem read_iff_meaning {t : TypeSyntax} (h : t.Proper) (e : TypeExpr) :
    t.read = .ok e ↔ Meaning t.bare e := by
  induction h generalizing e with
  | void =>
      rw [TypeSyntax.read, TypeSyntax.bare]
      constructor <;> intro h <;> cases h
  | primitive =>
      rw [TypeSyntax.read, TypeSyntax.bare, Except.ok.injEq]
      constructor
      · rintro rfl
        exact .primitive
      · rintro ⟨⟩
        rfl
  | dotted _ _ ih => exact dotted_read_iff ih e
  | @array element brackets _ hbrackets ih =>
      rw [TypeSyntax.read, TypeSyntax.bare, dimensionsOf_proper hbrackets]
      have hlength : (brackets.map fun b => Brackets.mk [] b.size).length = brackets.length :=
        List.length_map _
      constructor
      · intro hread
        obtain ⟨inner, hinner, hread⟩ := bind_eq_ok.1 hread
        cases hread
        rw [← hlength]
        exact .array ((ih inner).1 hinner)
      · rintro (_ | _ | hinner)
        rw [hlength]
        exact bind_eq_ok.2 ⟨_, (ih _).2 hinner, rfl⟩
  | annotated _ ih => exact ih e
  | @wildcard names bound _ ih =>
      cases bound with
      | none =>
          rw [TypeSyntax.read, TypeSyntax.bare, Except.ok.injEq]
          constructor
          · rintro rfl
            exact .object
          · rintro ⟨⟩
            rfl
      | some t =>
          rw [TypeSyntax.read, TypeSyntax.bare, ih t rfl]
          constructor
          · exact .bound
          · rintro ⟨⟩
            assumption

end BridgeTypings.Java
