import BridgeTypings.Java.TypeReading
import BridgeTypings.Proofs.Java.Proper
import BridgeTypings.Proofs.Outcome
import BridgeTypings.Proofs.Types

namespace BridgeTypings

open Java Outcome

namespace TypeExpr

inductive Shaped (IsName : String → Prop) : TypeExpr → Prop
  | primitive {name : String} (count : Nat) :
      name ∈ Keyword.primitives → Shaped IsName ((TypeExpr.primitive name []).array count)
  | chain {first : NamedSegment} {rest : List NamedSegment} (count : Nat) :
      (∀ s ∈ first :: rest, IsName s.name) →
      (∀ s ∈ first :: rest, ∀ types ∈ s.arguments, ∀ t ∈ types, Shaped IsName t) →
      (rest = [] ∨ first.isPackage = false) →
      Shaped IsName ((NamedSegment.chain.nest first rest).array count)

def IsUnsized (t : TypeExpr) : Prop :=
  t.Everywhere (fun t => ∀ d ∈ t.dimensions, d = .unsized)

theorem array_zero (t : TypeExpr) : t.array 0 = t :=
  withDimensions_nil t

theorem array_array (t : TypeExpr) (m n : Nat) : (t.array m).array n = t.array (m + n) := by
  simp only [array, ← withDimensions_append, List.replicate_append_replicate]

variable {IsName : String → Prop}

theorem Shaped.array {t : TypeExpr} (h : t.Shaped IsName) (n : Nat) :
    (t.array n).Shaped IsName := by
  cases h with
  | primitive count hname =>
      rw [array_array]
      exact .primitive _ hname
  | chain count hnames harguments hfirst =>
      rw [array_array]
      exact .chain _ hnames harguments hfirst

theorem Everywhere.array {P : TypeExpr → Prop} {t : TypeExpr} {n : Nat} (h : t.Everywhere P)
    (hhere : P (t.array n)) : (t.array n).Everywhere P := by
  cases h with
  | primitive => exact .primitive hhere
  | named _ harguments hqualifier => exact .named hhere harguments hqualifier

theorem dimensions_nest (first : NamedSegment) (rest : List NamedSegment) :
    (NamedSegment.chain.nest first rest).dimensions = [] := by
  cases rest <;> rfl

theorem isReference_nest (first : NamedSegment) (rest : List NamedSegment) :
    (NamedSegment.chain.nest first rest).isReference = true := by
  cases rest <;> rfl

theorem everywhere_nest {P : TypeExpr → Prop} {first : NamedSegment} {rest : List NamedSegment}
    (hhere : ∀ s ∈ first :: rest, ∀ qualifier : Option TypeExpr,
      (∀ q ∈ qualifier, q.isReference = true ∧ q.dimensions = []) →
        P (.named s.name s.arguments qualifier []))
    (h : ∀ s ∈ first :: rest, ∀ types ∈ s.arguments, ∀ t ∈ types, t.Everywhere P) :
    (NamedSegment.chain.nest first rest).Everywhere P := by
  induction rest generalizing first with
  | nil =>
      exact .named (hhere first List.mem_cons_self none (by simp)) (h first List.mem_cons_self)
        (by simp)
  | cons second rest ih =>
      refine .named (hhere first List.mem_cons_self _ ?_) (h first List.mem_cons_self) ?_
      · rintro q ⟨⟩
        exact ⟨isReference_nest second rest, dimensions_nest second rest⟩
      · rintro t ⟨⟩
        exact ih (fun s hs => hhere s (List.mem_cons_of_mem _ hs))
          fun s hs => h s (List.mem_cons_of_mem _ hs)

theorem isUnsized_array {t : TypeExpr} (h : t.IsUnsized) (n : Nat) : (t.array n).IsUnsized := by
  have hhere : ∀ d ∈ (t.array n).dimensions, d = .unsized := by
    intro d hd
    rw [TypeExpr.array, dimensions_withDimensions] at hd
    rcases List.mem_append.1 hd with hd | hd
    · exact h.here d hd
    · exact List.eq_of_mem_replicate hd
  exact Everywhere.array h hhere

theorem isUnsized_nest {first : NamedSegment} {rest : List NamedSegment}
    (h : ∀ s ∈ first :: rest, ∀ types ∈ s.arguments, ∀ t ∈ types, t.IsUnsized) :
    (NamedSegment.chain.nest first rest).IsUnsized :=
  everywhere_nest (by simp [dimensions]) h

theorem name_array (t : TypeExpr) (n : Nat) : (t.array n).name = t.name := by
  cases t <;> rfl

theorem Shaped.everywhere_name {P : String → Prop} {t : TypeExpr} (h : t.Shaped IsName)
    (hprimitive : ∀ name ∈ Keyword.primitives, P name) (hname : ∀ name, IsName name → P name) :
    t.Everywhere (fun t => P t.name) := by
  induction h with
  | @primitive name count hmem =>
      refine Everywhere.array (.primitive (hprimitive name hmem)) ?_
      rw [name_array]
      exact hprimitive name hmem
  | @chain first rest count hnames _ _ ih =>
      have hnest : (NamedSegment.chain.nest first rest).Everywhere (fun t => P t.name) :=
        everywhere_nest (fun s hs _ _ => hname s.name (hnames s hs)) ih
      refine hnest.array ?_
      rw [name_array]
      exact hnest.here

theorem Shaped.isUnsized {t : TypeExpr} (h : t.Shaped IsName) : t.IsUnsized := by
  induction h with
  | primitive count _ => exact isUnsized_array (.primitive (by simp [dimensions])) count
  | chain count _ _ _ ih => exact isUnsized_array (isUnsized_nest ih) count

theorem shaped_primitive {name : String} (h : name ∈ Keyword.primitives) :
    Shaped IsName (.primitive name []) := by
  rw [← array_zero (TypeExpr.primitive name [])]
  exact .primitive 0 h

theorem shaped_chain {first : NamedSegment} {rest : List NamedSegment}
    (hnames : ∀ s ∈ first :: rest, IsName s.name)
    (harguments : ∀ s ∈ first :: rest, ∀ types ∈ s.arguments, ∀ t ∈ types, Shaped IsName t) :
    (NamedSegment.chain first rest).Shaped IsName := by
  induction rest generalizing first with
  | nil =>
      rw [← array_zero (NamedSegment.chain first [])]
      exact .chain 0 hnames harguments (.inl rfl)
  | cons second rest ih =>
      unfold NamedSegment.chain
      split
      · exact ih (fun s hs => hnames s (List.mem_cons_of_mem _ hs))
          (fun s hs => harguments s (List.mem_cons_of_mem _ hs))
      · next hpackage =>
          rw [← array_zero (TypeExpr.named _ _ _ _)]
          exact .chain 0 hnames harguments (.inr (by simpa using hpackage))

theorem shaped_plain {name : String} (h : IsName name) : (plain name).Shaped IsName :=
  @shaped_chain _ ⟨name, none⟩ [] (by simpa using h) (by simp)

theorem shaped_generic {name : String} {types : List TypeExpr} (h : IsName name)
    (htypes : ∀ t ∈ types, t.Shaped IsName) : (generic name types).Shaped IsName :=
  @shaped_chain _ ⟨name, some types⟩ [] (by simpa using h) (by simpa using htypes)

end TypeExpr

namespace Java

def NotSized (e : Error) : Prop :=
  ∀ text, e ≠ .sizedDimension text

theorem notSized_unsupported (path text : String) : NotSized (.unsupportedType path text) :=
  nofun

abbrev IsReadType (t : TypeExpr) : Prop :=
  t.Shaped (fun name => isIdentifier name = true)

theorem dimensionsOf_proper {brackets : List Brackets} (h : ∀ b ∈ brackets, b.Proper) :
    dimensionsOf brackets = List.replicate brackets.length .unsized := by
  induction brackets with
  | nil => rfl
  | cons b rest ih =>
      obtain ⟨annotations, size⟩ := b
      obtain rfl : size = none := h _ List.mem_cons_self
      rw [dimensionsOf, List.flatMap_cons, ← dimensionsOf,
        ih fun b hb => h b (List.mem_cons_of_mem _ hb)]
      rfl

theorem meets_readTypes {types : List TypeSyntax} {P : TypeExpr → Prop}
    (h : ∀ t ∈ types, Meets NotSized P t.read) :
    Meets NotSized (fun ts => ∀ t ∈ ts, P t) (readTypes types) := by
  induction types with
  | nil => exact fun _ => nofun
  | cons t rest ih =>
      rw [readTypes]
      refine (h t List.mem_cons_self).bind fun first hfirst => ?_
      refine (ih fun t ht => h t (List.mem_cons_of_mem _ ht)).bind fun later hlater => ?_
      exact List.forall_mem_cons.2 ⟨hfirst, hlater⟩

theorem meets_readSegment {s : Segment} {P : TypeExpr → Prop}
    (h : ∀ types ∈ s.arguments, ∀ t ∈ types, Meets NotSized P t.read) :
    Meets NotSized (fun r => r.name = s.name ∧ ∀ ts ∈ r.arguments, ∀ t ∈ ts, P t) s.read := by
  obtain ⟨annotations, name, arguments⟩ := s
  cases arguments with
  | none => exact ⟨rfl, nofun⟩
  | some types =>
      rw [Segment.read]
      refine (meets_readTypes (h types rfl)).bind fun ts hts => ⟨rfl, ?_⟩
      simpa using hts

theorem meets_readSegments {segments : List Segment} {P : TypeExpr → Prop}
    (hnames : ∀ s ∈ segments, isIdentifier s.name = true)
    (h : ∀ s ∈ segments, ∀ types ∈ s.arguments, ∀ t ∈ types, Meets NotSized P t.read) :
    Meets NotSized (fun rs => ∀ r ∈ rs, isIdentifier r.name = true ∧
      ∀ ts ∈ r.arguments, ∀ t ∈ ts, P t) (readSegments segments) := by
  induction segments with
  | nil => exact fun _ => nofun
  | cons s rest ih =>
      rw [readSegments]
      refine (meets_readSegment (h s List.mem_cons_self)).bind fun first hfirst => ?_
      refine (ih (fun s hs => hnames s (List.mem_cons_of_mem _ hs))
        (fun s hs => h s (List.mem_cons_of_mem _ hs))).bind fun later hlater => ?_
      refine List.forall_mem_cons.2 ⟨⟨?_, hfirst.2⟩, hlater⟩
      rw [hfirst.1]
      exact hnames s List.mem_cons_self

theorem meets_read {type : TypeSyntax} (h : type.Proper) :
    Meets NotSized IsReadType type.read := by
  induction h with
  | void => exact notSized_unsupported _ _
  | primitive hname => exact TypeExpr.shaped_primitive hname
  | @dotted first rest hnames _ ih =>
      rw [TypeSyntax.read]
      refine (meets_readSegment (ih first List.mem_cons_self)).bind fun s hs => ?_
      refine (meets_readSegments (fun s hs => hnames s (List.mem_cons_of_mem _ hs))
        (fun s hs => ih s (List.mem_cons_of_mem _ hs))).bind fun ss hss => ?_
      refine TypeExpr.shaped_chain (List.forall_mem_cons.2 ⟨?_, fun s hs => (hss s hs).1⟩)
        (List.forall_mem_cons.2 ⟨hs.2, fun s hs => (hss s hs).2⟩)
      rw [hs.1]
      exact hnames first List.mem_cons_self
  | array _ hbrackets ih =>
      rw [TypeSyntax.read]
      refine ih.bind fun t ht => ?_
      rw [dimensionsOf_proper hbrackets]
      exact ht.array _
  | annotated _ ih => exact ih
  | @wildcard names bound _ ih =>
      cases bound with
      | none =>
          have hname : isIdentifier "Object" = true := by decide
          exact @TypeExpr.shaped_chain _ ⟨"Object", none⟩ [] (by simpa using hname) (by simp)
      | some t => exact ih t rfl

theorem meets_readDeclared {type : TypeSyntax} {d : Declarator} (ht : type.Proper)
    (hd : d.Proper) : Meets NotSized IsReadType (readDeclared type d) := by
  refine (meets_read ht).bind fun t h => ?_
  rw [dimensionsOf_proper hd.brackets]
  exact h.array _

end Java

end BridgeTypings
