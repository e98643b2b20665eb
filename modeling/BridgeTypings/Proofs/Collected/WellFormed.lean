import BridgeTypings.Proofs.Collected
import BridgeTypings.Proofs.Java.Meaning
import BridgeTypings.Proofs.Registration

namespace BridgeTypings

open Java Outcome

namespace TypeExpr

def arguments? : TypeExpr → Option (List TypeExpr)
  | .primitive _ _ => none
  | .named _ arguments _ _ => arguments

inductive Occurs (s : TypeExpr) : TypeExpr → Prop
  | whole : Occurs s s
  | argument {t segment u : TypeExpr} {types : List TypeExpr} :
      segment ∈ t.chain → segment.arguments? = some types → u ∈ types → Occurs s u → Occurs s t

def IsSound : TypeExpr → Prop
  | .primitive name _ =>
      name ∈ ["byte", "short", "int", "long", "char", "float", "double", "boolean"]
  | .named name _ qualifier _ =>
      name ≠ "" ∧ ∀ q ∈ qualifier, q.isReference = true ∧ q.dimensions = []

def BeginsWithType : TypeExpr → Prop
  | .named name arguments (some _) _ => NamedSegment.IsType ⟨name, arguments⟩
  | _ => True

structure WellFormed (t : TypeExpr) : Prop where
  nodes : ∀ s ∈ t.nodes, s.IsSound
  occurrences : ∀ s, Occurs s t → s.BeginsWithType

theorem IsSound.array {t : TypeExpr} (h : t.IsSound) (n : Nat) : (t.array n).IsSound := by
  cases t <;> exact h

theorem BeginsWithType.array {t : TypeExpr} (h : t.BeginsWithType) (n : Nat) :
    (t.array n).BeginsWithType := by
  cases t with
  | primitive name ds => trivial
  | named name arguments qualifier ds => cases qualifier <;> exact h

theorem arguments_chain_array (t : TypeExpr) (n : Nat) :
    (t.array n).chain.map arguments? = t.chain.map arguments? := by
  fun_cases TypeExpr.chain t <;> rfl

theorem arguments_chain_nest (first : NamedSegment) (rest : List NamedSegment) :
    (NamedSegment.chain.nest first rest).chain.map arguments? =
      (first :: rest).map NamedSegment.arguments := by
  induction rest generalizing first with
  | nil => rfl
  | cons second rest ih =>
      rw [NamedSegment.chain.nest, TypeExpr.chain, List.map_cons, ih]
      rfl

theorem beginsWithType_nest {first : NamedSegment} {rest : List NamedSegment}
    (h : rest = [] ∨ first.isPackage = false) :
    (NamedSegment.chain.nest first rest).BeginsWithType := by
  cases rest with
  | nil => trivial
  | cons second rest =>
      have hpackage : ¬ first.isPackage = true := by simpa using h
      rw [NamedSegment.isPackage_iff, not_not] at hpackage
      exact hpackage

section

variable {IsName : String → Prop} {t : TypeExpr}

theorem Shaped.everywhere_isSound (h : t.Shaped IsName) (hname : ∀ name, IsName name → name ≠ "") :
    t.Everywhere IsSound := by
  induction h with
  | @primitive name count hmem =>
      have hsound : (TypeExpr.primitive name []).IsSound := hmem
      exact Everywhere.array (.primitive hsound) (hsound.array count)
  | @chain first rest count hnames _ _ ih =>
      have hnest : (NamedSegment.chain.nest first rest).Everywhere IsSound :=
        everywhere_nest (fun s hs _ hqualifier => ⟨hname s.name (hnames s hs), hqualifier⟩) ih
      exact hnest.array (hnest.here.array count)

theorem Shaped.beginsWithType (h : t.Shaped IsName) : ∀ s, Occurs s t → s.BeginsWithType := by
  induction h with
  | @primitive name count _ =>
      intro s hs
      cases hs with
      | whole => trivial
      | argument hsegment htypes _ _ =>
          obtain rfl := List.mem_singleton.1 hsegment
          cases htypes
  | @chain first rest count _ _ hfirst ih =>
      intro s hs
      cases hs with
      | whole => exact (beginsWithType_nest hfirst).array count
      | @argument _ segment u types hsegment htypes hu hs =>
          -- the arguments on the chain are those of the segments, whatever stands behind it
          have hmem := List.mem_map_of_mem (f := arguments?) hsegment
          rw [arguments_chain_array, arguments_chain_nest, htypes, List.mem_map] at hmem
          obtain ⟨named, hnamed, harguments⟩ := hmem
          exact ih named hnamed types harguments u hu s hs

theorem Shaped.wellFormed (h : t.Shaped IsName) (hname : ∀ name, IsName name → name ≠ "") :
    t.WellFormed where
  nodes := everywhere_iff_nodes.1 (h.everywhere_isSound hname)
  occurrences := h.beginsWithType

end

end TypeExpr

theorem Java.IsReadType.wellFormed {t : TypeExpr} (h : IsReadType t) : t.WellFormed := by
  refine TypeExpr.Shaped.wellFormed h ?_
  rintro name hname rfl
  exact absurd hname (by decide)

namespace Registration

variable {text : String} {pattern : RegistrationPattern} {entries : EntryPoints}

theorem isReference_of_referenceType? {typed : List (String × TypeExpr)} {field : String}
    {t : TypeExpr} (h : referenceType? typed field = some t) : t.isReference = true := by
  obtain ⟨before, behind, hsplit, -⟩ := List.lookup_eq_some_iff.1 h
  have hmem : (field, t) ∈ (typed.filter (fun e => e.2.isReference)).reverse := by
    simp [hsplit]
  exact (List.mem_filter.1 (List.mem_reverse.1 hmem)).2

theorem isReference_of_extract (h : (extract text pattern).result = .ok entries) :
    ∀ e ∈ entries.entries, e.2.isReference = true := by
  obtain ⟨source, hparse⟩ := exists_source_of_extract h
  obtain ⟨r, hr⟩ := exists_extracts pattern source
  rw [result_of_extracts hparse hr] at h
  subst h
  intro e he
  cases hr with
  | entries _ _ _ _ _ _ hget =>
      have hbound := OrderedMap.get?_of_mem he
      rw [hget] at hbound
      obtain ⟨field, -, htype⟩ := Option.bind_eq_some_iff.1 hbound
      exact isReference_of_referenceType? htype

end Registration

theorem wellFormed_of_read :
    (∀ text markers name d, (Exposure.collect text markers).result = .ok (name, d) →
      ∀ t ∈ d.types, t.WellFormed) ∧
    ∀ text pattern entries, (Registration.extract text pattern).result = .ok entries →
      ∀ e ∈ entries.entries, e.2.WellFormed ∧ e.2.isReference = true := by
  constructor
  · intro text markers name d hcollect t ht
    have hread := (Exposure.meets_collect text markers).ok hcollect
    exact (hread.2.types t ht).wellFormed
  · intro text pattern entries hextract e he
    have hread := (Registration.meets_extract text pattern).ok hextract
    exact ⟨(hread e he).wellFormed, Registration.isReference_of_extract hextract e he⟩

def nestedField : String :=
  "class C \x7b @PhonkField a.B<int[], ?>.d<e.F> f[]; int[] g; void m() \x7b i.r(\"b\", f); \x7d \x7d"

theorem wellFormed_nestedField :
    (∃ name d, (Exposure.collect nestedField {}).result = .ok (name, d) ∧
      ∃ t ∈ d.types, t.name = "B" ∧ t.WellFormed) ∧
    ∃ entries, (Registration.extract nestedField ⟨"C", "m", "i", "r"⟩).result = .ok entries ∧
      ∃ e ∈ entries.entries, e.1 = "b" ∧ e.2.WellFormed ∧ e.2.isReference = true := by
  obtain ⟨hcollected, hextracted⟩ := wellFormed_of_read
  constructor
  · obtain ⟨⟨name, d⟩, hcollect, htypes⟩ : ∃ r, (Exposure.collect nestedField {}).result = .ok r ∧
        r.2.types.map TypeExpr.name = ["B"] := exists_ok_of_toOption (by decide +kernel)
    obtain ⟨t, ht, hname⟩ := List.mem_map.1 (htypes ▸ List.mem_singleton_self "B")
    exact ⟨name, d, hcollect, t, ht, hname, hcollected _ _ _ _ hcollect t ht⟩
  · obtain ⟨entries, hextract, hkeys⟩ : ∃ entries,
        (Registration.extract nestedField ⟨"C", "m", "i", "r"⟩).result = .ok entries ∧
        entries.entries.map Prod.fst = ["b"] := exists_ok_of_toOption (by decide +kernel)
    obtain ⟨e, he, hname⟩ := List.mem_map.1 (hkeys ▸ List.mem_singleton_self "b")
    exact ⟨entries, hextract, e, he, hname, hextracted _ _ _ hextract e he⟩

end BridgeTypings
