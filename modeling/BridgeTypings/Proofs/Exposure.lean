import BridgeTypings.Exposure
import BridgeTypings.Proofs.Java.Proper
import BridgeTypings.Proofs.OrderedMap
import BridgeTypings.Proofs.Outcome

namespace BridgeTypings.Exposure

open Java Outcome

inductive Item where
  | field (type : TypeSyntax) (declarator : Declarator)
  | method (method : Java.Method)

def signature (m : Java.Method) : Java.Method :=
  { m with annotations := [], brackets := [], body := none }

def item? (markers : Markers) : Member → Option Item
  | .field ⟨names, t, [d]⟩ => if isMarked names markers.field then some (.field t d) else none
  | .method m =>
      if isMarked m.annotations markers.method then some (.method (signature m)) else none
  | _ => none

def items (markers : Markers) (members : List Member) : List Item :=
  members.filterMap (item? markers)

/-- A receiver declares no parameter. The flag says whether further arguments can follow. -/
def declared? : Java.Parameter → Option (TypeSyntax × Declarator × Bool)
  | .formal t d => some (t, d, false)
  | .spread t d => some (t, d, true)
  | .receiver => none

def readParameter (p : TypeSyntax × Declarator × Bool) : Except Error (String × Parameter) := do
  return (p.2.1.name, ⟨← readDeclared p.1 p.2.1, p.2.2⟩)

def Item.read : Item → Except Error (String × Attribute)
  | .field t d => do return (d.name, .field (← readDeclared t d))
  | .method m => do return (m.name, .method (← readMethod m))

inductive Returns : TypeSyntax → Option TypeExpr → Prop
  | nothing : Returns .void none
  | value {t : TypeSyntax} {type : TypeExpr} : t ≠ .void → t.read = .ok type → Returns t (some type)

/-- Parameters stand at the place of the first of their name, with type and flag of the last. -/
structure HasSignature (m : Java.Method) (r : Method) : Prop where
  returns : Returns m.returns r.returns
  parameters : ∃ ps : List (String × Parameter),
    List.Forall₂ (fun p e => readParameter p = .ok e) (m.parameters.filterMap declared?) ps ∧
      r.parameters.keys = (ps.map Prod.fst).eraseDups ∧
      ∀ name, r.parameters.get? name = ps.reverse.lookup name

inductive Item.Describes : Item → String × Attribute → Prop
  | field {t : TypeSyntax} {d : Declarator} {type : TypeExpr} :
      readDeclared t d = .ok type → Describes (.field t d) (d.name, .field type)
  | method {m : Java.Method} {r : Method} :
      HasSignature m r → Describes (.method m) (m.name, .method r)

theorem readReturn_eq_ok_iff {m : Java.Method} {r : Option TypeExpr} :
    readReturn m = .ok r ↔ Returns m.returns r := by
  unfold readReturn
  split
  · next hvoid =>
      rw [hvoid]
      constructor
      · rintro ⟨⟩
        exact .nothing
      · rintro (_ | ⟨hne, -⟩)
        · rfl
        · exact absurd rfl hne
  · next hne =>
      constructor
      · intro h
        obtain ⟨type, htype, hr⟩ := bind_eq_ok.1 h
        cases hr
        exact .value hne htype
      · intro h
        generalize m.returns = t at h hne
        cases h with
        | nothing => exact absurd rfl hne
        | value _ htype => exact bind_eq_ok.2 ⟨_, htype, rfl⟩

theorem readParameters_eq (acc : OrderedMap Parameter) (parameters : List Java.Parameter) :
    readParameters acc parameters =
      ((parameters.filterMap declared?).mapM readParameter >>= fun ps =>
        pure (acc.insertAll ps)) := by
  induction parameters generalizing acc with
  | nil => rfl
  | cons p rest ih =>
      have hnext (t : TypeSyntax) (d : Declarator) (variadic : Bool) :
          (readDeclared t d >>= fun type =>
              readParameters (acc.insert d.name ⟨type, variadic⟩) rest) =
            (((t, d, variadic) :: rest.filterMap declared?).mapM readParameter >>= fun ps =>
              pure (acc.insertAll ps)) := by
        rw [OrderedMap.mapM_insertAll_cons, readParameter]
        cases readDeclared t d with
        | error e => rfl
        | ok type => exact ih (acc.insert d.name ⟨type, variadic⟩)
      cases p with
      | formal t d => exact hnext t d false
      | spread t d => exact hnext t d true
      | receiver => exact ih acc

theorem readMethod_eq_ok_iff {m : Java.Method} {r : Method} :
    readMethod m = .ok r ↔ HasSignature m r := by
  constructor
  · intro h
    obtain ⟨returns, hreturns, h⟩ := bind_eq_ok.1 h
    obtain ⟨parameters, hparameters, h⟩ := bind_eq_ok.1 h
    cases h
    rw [readParameters_eq] at hparameters
    obtain ⟨ps, hps, h⟩ := bind_eq_ok.1 hparameters
    cases h
    refine ⟨readReturn_eq_ok_iff.1 hreturns, ps, forall₂_of_mapM_ok hps, ?_, ?_⟩
    · exact OrderedMap.keys_ofList ps
    · exact OrderedMap.get?_ofList ps
  · rintro ⟨hreturns, ps, hps, hkeys, hget⟩
    have hparameters : r.parameters = .ofList ps := by
      refine OrderedMap.ext_get? ?_ fun name => ?_
      · rw [hkeys, OrderedMap.keys_ofList]
      · rw [hget, OrderedMap.get?_ofList]
    rw [readMethod, readReturn_eq_ok_iff.2 hreturns, readParameters_eq, mapM_ok_of_forall₂ hps]
    cases r
    cases hparameters
    rfl

theorem Item.read_eq_ok_iff {i : Item} {a : String × Attribute} :
    i.read = .ok a ↔ i.Describes a := by
  constructor
  · intro h
    cases i with
    | field t d =>
        obtain ⟨type, htype, h⟩ := bind_eq_ok.1 h
        cases h
        exact .field htype
    | method m =>
        obtain ⟨r, hr, h⟩ := bind_eq_ok.1 h
        cases h
        exact .method (readMethod_eq_ok_iff.1 hr)
  · intro h
    cases h with
    | field htype => exact bind_eq_ok.2 ⟨_, htype, rfl⟩
    | method hr => exact bind_eq_ok.2 ⟨_, readMethod_eq_ok_iff.2 hr, rfl⟩

theorem result_exposed (markers : Markers) (owner : String) (m : Member) :
    (exposed markers owner m).result =
      match item? markers m with
      | none => .ok none
      | some i => i.read.map some := by
  cases m with
  | field f =>
      obtain ⟨names, t, ds⟩ := f
      cases hmarked : isMarked names markers.field with
      | false =>
          have hnone : item? markers (.field ⟨names, t, ds⟩) = none := by
            unfold item?
            split <;> simp_all
          simp only [exposed, hmarked, hnone]
          rfl
      | true =>
          simp only [exposed, hmarked, if_true]
          match ds with
          | [] => rfl
          | [d] =>
              simp only [item?, hmarked, if_true, Item.read, Run.result_bind, Run.ofExcept]
              cases readDeclared t d <;> rfl
          | _ :: _ :: _ => rfl
  | method m =>
      cases hmarked : isMarked m.annotations markers.method with
      | false =>
          simp only [exposed, item?, hmarked]
          rfl
      | true =>
          simp only [exposed, item?, hmarked, if_true, Item.read, Run.result_bind, Run.ofExcept]
          show (readMethod m).bind _ = _
          rw [show readMethod (signature m) = readMethod m from rfl]
          cases readMethod m <;> rfl
  | other => rfl

theorem result_attributes (markers : Markers) (owner : String) (members : List Member) :
    (attributes markers owner members).result = (items markers members).mapM Item.read := by
  induction members with
  | nil => rfl
  | cons m rest ih =>
      rw [attributes, Run.result_bind, result_exposed]
      cases hitem : item? markers m with
      | none =>
          rw [show items markers (m :: rest) = items markers rest from
            List.filterMap_cons_none hitem, ← ih]
          show ((attributes markers owner rest >>= fun others => _ : Run _)).result = _
          rw [Run.result_bind]
          cases (attributes markers owner rest).result <;> rfl
      | some i =>
          rw [show items markers (m :: rest) = i :: items markers rest from
            List.filterMap_cons_some hitem, List.mapM_cons]
          dsimp only
          cases i.read with
          | error e => rfl
          | ok a =>
              show ((attributes markers owner rest >>= fun others => _ : Run _)).result = _
              rw [Run.result_bind, ih]
              cases (items markers rest).mapM Item.read <;> rfl

theorem result_declaration (markers : Markers) (d : TypeDeclaration) :
    (declaration markers d).result =
      (readHeading d.heading >>= fun heading =>
        (items markers d.members).mapM Item.read >>= fun attributes =>
          pure ⟨heading.1, heading.2, attributes⟩) := by
  unfold declaration
  rw [Run.result_bind]
  cases readHeading d.heading with
  | error e => rfl
  | ok heading =>
      show ((attributes markers d.name d.members >>= fun as => _ : Run _)).result = _
      rw [Run.result_bind, result_attributes]
      cases (items markers d.members).mapM Item.read <;> rfl

theorem result_collect {text : String} {source : Source} {first : TypeDeclaration}
    {others : List TypeDeclaration} (hparse : Source.parse text = some source)
    (hfirst : source.preorder = first :: others) (markers : Markers) :
    (collect text markers).result =
      (declaration markers first).result.map (Prod.mk first.name) := by
  unfold collect
  simp only [hparse, hfirst, Run.result_bind]
  cases (declaration markers first).result <;> rfl

inductive Ignored (markers : Markers) : Member → Prop
  | other : Ignored markers .other
  | unmarkedField {f : Java.Field} : isMarked f.annotations markers.field = false →
      Ignored markers (.field f)
  | severalDeclarators {f : Java.Field} : f.declarators.length ≠ 1 → Ignored markers (.field f)
  | unmarkedMethod {m : Java.Method} : isMarked m.annotations markers.method = false →
      Ignored markers (.method m)

inductive SameExposure (markers : Markers) : List Member → List Member → Prop
  | nil : SameExposure markers [] []
  | left {m : Member} {ms ms' : List Member} :
      Ignored markers m → SameExposure markers ms ms' → SameExposure markers (m :: ms) ms'
  | right {m : Member} {ms ms' : List Member} :
      Ignored markers m → SameExposure markers ms ms' → SameExposure markers ms (m :: ms')
  | field {names names' : List AnnotationName} {type : TypeSyntax} {ds : List Declarator}
      {ms ms' : List Member} :
      isMarked names markers.field = isMarked names' markers.field →
      SameExposure markers ms ms' →
      SameExposure markers (.field ⟨names, type, ds⟩ :: ms) (.field ⟨names', type, ds⟩ :: ms')
  | method {m m' : Java.Method} {ms ms' : List Member} :
      isMarked m.annotations markers.method = isMarked m'.annotations markers.method →
      m.name = m'.name → m.returns = m'.returns → m.parameters = m'.parameters →
      SameExposure markers ms ms' →
      SameExposure markers (.method m :: ms) (.method m' :: ms')

theorem item?_eq_none {markers : Markers} {m : Member} (h : Ignored markers m) :
    item? markers m = none := by
  cases h with
  | other => rfl
  | @unmarkedField f hmarked =>
      unfold item?
      split <;> simp_all
  | @severalDeclarators f hlength =>
      unfold item?
      split <;> simp_all
  | unmarkedMethod hmarked => simp [item?, hmarked]

theorem items_eq_of_sameExposure {markers : Markers} {ms ms' : List Member}
    (h : SameExposure markers ms ms') : items markers ms = items markers ms' := by
  induction h with
  | nil => rfl
  | left hm _ ih => exact (List.filterMap_cons_none (item?_eq_none hm)).trans ih
  | right hm _ ih => exact ih.trans (List.filterMap_cons_none (item?_eq_none hm)).symm
  | @field names names' type ds ms ms' hmarked _ ih =>
      have hitem : item? markers (.field ⟨names, type, ds⟩) =
          item? markers (.field ⟨names', type, ds⟩) := by
        match ds with
        | [] => rfl
        | [d] => simp only [item?, hmarked]
        | _ :: _ :: _ => rfl
      simp only [items, List.filterMap_cons, hitem] at ih ⊢
      rw [ih]
  | @method m m' ms ms' hmarked hname hreturns hparameters _ ih =>
      have hitem : item? markers (.method m) = item? markers (.method m') := by
        simp only [item?, signature, hmarked, hname, hreturns, hparameters]
      simp only [items, List.filterMap_cons, hitem] at ih ⊢
      rw [ih]

theorem result_collect_congr {text text' : String} {source source' : Source}
    {first first' : TypeDeclaration} {others others' : List TypeDeclaration} {markers : Markers}
    (hparse : Source.parse text = some source) (hparse' : Source.parse text' = some source')
    (hfirst : source.preorder = first :: others) (hfirst' : source'.preorder = first' :: others')
    (hheading : first.heading = first'.heading) (hname : first.name = first'.name)
    (hmembers : SameExposure markers first.members first'.members) :
    (collect text markers).result = (collect text' markers).result := by
  rw [result_collect hparse hfirst, result_collect hparse' hfirst', result_declaration,
    result_declaration, hheading, hname, items_eq_of_sameExposure hmembers]

theorem source_of_collect {text name : String} {markers : Markers} {d : Declaration}
    (h : (collect text markers).result = .ok (name, d)) :
    ∃ source first rest, Source.parse text = some source ∧ source.preorder = first :: rest ∧
      name = first.name ∧ (declaration markers first).result = .ok d := by
  unfold collect at h
  split at h
  · cases h
  · next source hparse =>
      split at h
      · cases h
      · next first rest hpreorder =>
          obtain ⟨declared, hdeclared, heq⟩ := run_bind_eq_ok.1 h
          cases heq
          exact ⟨source, first, rest, hparse, hpreorder, rfl, hdeclared⟩

structure Exposes (markers : Markers) (first : TypeDeclaration) (d : Declaration) : Prop where
  heading : readHeading first.heading = .ok (d.kind, d.extends?)
  attributes : List.Forall₂ Item.Describes (items markers first.members) d.attributes

theorem declaration_eq_ok_iff {markers : Markers} {first : TypeDeclaration} {d : Declaration} :
    (declaration markers first).result = .ok d ↔ Exposes markers first d := by
  rw [result_declaration]
  constructor
  · intro h
    obtain ⟨heading, hheading, h⟩ := bind_eq_ok.1 h
    obtain ⟨attributes, hattributes, h⟩ := bind_eq_ok.1 h
    cases h
    exact ⟨hheading, (forall₂_of_mapM_ok hattributes).imp fun i a => Item.read_eq_ok_iff.1⟩
  · rintro ⟨hheading, hattributes⟩
    have hread := mapM_ok_of_forall₂ (hattributes.imp fun i a => Item.read_eq_ok_iff.2)
    exact bind_eq_ok.2 ⟨_, hheading, bind_eq_ok.2 ⟨_, hread, rfl⟩⟩

theorem collect_eq_ok_iff {text name : String} {markers : Markers} {d : Declaration} :
    (collect text markers).result = .ok (name, d) ↔ ∃ source first others,
      Source.parse text = some source ∧ source.preorder = first :: others ∧ name = first.name ∧
        Exposes markers first d := by
  constructor
  · intro h
    obtain ⟨source, first, others, hparse, hfirst, hname, hdeclared⟩ := source_of_collect h
    exact ⟨source, first, others, hparse, hfirst, hname, declaration_eq_ok_iff.1 hdeclared⟩
  · rintro ⟨source, first, others, hparse, hfirst, rfl, hexposes⟩
    rw [result_collect hparse hfirst, declaration_eq_ok_iff.2 hexposes]
    rfl

theorem collect_exposes (text : String) (markers : Markers) :
    (∀ name d, (collect text markers).result = .ok (name, d) ↔ ∃ source first others,
      Source.parse text = some source ∧ source.preorder = first :: others ∧ name = first.name ∧
        Exposes markers first d) ∧
    ∀ text' source source' first first' others others', Source.parse text = some source →
      Source.parse text' = some source' → source.preorder = first :: others →
      source'.preorder = first' :: others' → first.heading = first'.heading →
      first.name = first'.name → SameExposure markers first.members first'.members →
      (collect text markers).result = (collect text' markers).result :=
  ⟨fun _ _ => collect_eq_ok_iff, fun _ _ _ _ _ _ _ => result_collect_congr⟩

def enclosedClass : String :=
  "enum E \x7b X; class P \x7b @M void f(int a, T... a) \x7b\x7d @F int b, c; int d;" ++
    " @F int[] e[]; @M T f(P this); \x7d \x7d"

theorem collect_enclosedClass :
    ∃ name d source first others, (collect enclosedClass ⟨"F", "M"⟩).result = .ok (name, d) ∧
      Source.parse enclosedClass = some source ∧ source.preorder = first :: others ∧
      name = first.name ∧ name = "P" ∧ d.attributes.map Prod.fst = ["f", "e", "f"] ∧
      Exposes ⟨"F", "M"⟩ first d := by
  obtain ⟨⟨name, d⟩, hcollect, hview⟩ : ∃ r, (collect enclosedClass ⟨"F", "M"⟩).result = .ok r ∧
      (r.1, r.2.attributes.map Prod.fst) = ("P", ["f", "e", "f"]) :=
    exists_ok_of_toOption (by decide +kernel)
  obtain ⟨hname, hattributes⟩ := Prod.mk.inj hview
  obtain ⟨hexact, -⟩ := collect_exposes enclosedClass ⟨"F", "M"⟩
  obtain ⟨source, first, others, hparse, hfirst, hfirstName, hexposes⟩ :=
    (hexact name d).1 hcollect
  exact ⟨name, d, source, first, others, hcollect, hparse, hfirst, hfirstName, hname, hattributes,
    hexposes⟩

end BridgeTypings.Exposure
