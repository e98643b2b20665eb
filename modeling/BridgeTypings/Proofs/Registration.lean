import BridgeTypings.Proofs.Java.Void
import BridgeTypings.Proofs.OrderedMap
import BridgeTypings.Registration

namespace BridgeTypings.Registration

open Java Outcome

def separateField? : Member → Option (TypeSyntax × Declarator)
  | .field ⟨_, t, [d]⟩ => some (t, d)
  | _ => none

def method? : Member → Option Java.Method
  | .method m => some m
  | _ => none

def typedField (f : TypeSyntax × Declarator) : Except Error (String × TypeExpr) := do
  return (f.2.name, ← readDeclared f.1 f.2)

def FieldTypes (members : List Member) : List (String × TypeExpr) → Prop :=
  List.Forall₂ (fun f e => typedField f = .ok e) (members.filterMap separateField?)

def referenceType? (typed : List (String × TypeExpr)) (field : String) : Option TypeExpr :=
  (typed.filter (fun e => e.2.isReference)).reverse.lookup field

inductive Registers (pattern : RegistrationPattern) : Statement → String × String → Prop
  | mk {literal binding field text : String} : StringLiteral.decode literal = some binding →
      Registers pattern (.expression (.call (some (.name pattern.receiver)) pattern.registerMethod
        [.string literal, .name field]) text) (binding, field)

inductive Registrations (pattern : RegistrationPattern) :
    List Statement → List (String × String) → Prop
  | nil : Registrations pattern [] []
  | register {s : Statement} {r : String × String} {rest : List Statement}
      {rs : List (String × String)} :
      Registers pattern s r → Registrations pattern rest rs →
      Registrations pattern (s :: rest) (r :: rs)
  | skip {s : Statement} {rest : List Statement} {rs : List (String × String)} :
      (∀ r, ¬ Registers pattern s r) → Registrations pattern rest rs →
      Registrations pattern (s :: rest) rs

def IsRunner (pattern : RegistrationPattern) (d : TypeDeclaration) : Prop :=
  d.isClass = true ∧ d.name = pattern.className

inductive Extracts (pattern : RegistrationPattern) (source : Source) :
    Except Error EntryPoints → Prop
  | noClass : (∀ d ∈ source.preorder, ¬ IsRunner pattern d) →
      Extracts pattern source (.error (.runnerClassNotFound pattern.className))
  | unsupportedField {runner : TypeDeclaration} :
      IsFirst (IsRunner pattern) source.preorder runner →
      (∃ f ∈ runner.members.filterMap separateField?, f.1.HasVoid) →
      Extracts pattern source (.error (.unsupportedType "" "void"))
  | noMethod {runner : TypeDeclaration} {typed : List (String × TypeExpr)} :
      IsFirst (IsRunner pattern) source.preorder runner → FieldTypes runner.members typed →
      (∀ m, .method m ∈ runner.members → m.name ≠ pattern.initMethod) →
      Extracts pattern source (.error (.initMethodNotFound pattern.className pattern.initMethod))
  | unknownField {runner : TypeDeclaration} {typed : List (String × TypeExpr)} {init : Java.Method}
      {rs : List (String × String)} {binding field : String} :
      IsFirst (IsRunner pattern) source.preorder runner → FieldTypes runner.members typed →
      IsFirst (fun m => m.name = pattern.initMethod) (runner.members.filterMap method?) init →
      Registrations pattern (init.body.getD []) rs →
      IsFirst (fun r => referenceType? typed r.2 = none) rs (binding, field) →
      Extracts pattern source (.error (.unknownEntryField binding field))
  | entries {runner : TypeDeclaration} {typed : List (String × TypeExpr)} {init : Java.Method}
      {rs : List (String × String)} {entries : EntryPoints} :
      IsFirst (IsRunner pattern) source.preorder runner → FieldTypes runner.members typed →
      IsFirst (fun m => m.name = pattern.initMethod) (runner.members.filterMap method?) init →
      Registrations pattern (init.body.getD []) rs →
      (∀ r ∈ rs, referenceType? typed r.2 ≠ none) →
      entries.keys = (rs.map Prod.fst).eraseDups →
      (∀ name, entries.get? name = (rs.reverse.lookup name).bind (referenceType? typed)) →
      Extracts pattern source (.ok entries)

variable {pattern : RegistrationPattern}

theorem isRunner_iff {d : TypeDeclaration} : isRunner pattern d = true ↔ IsRunner pattern d := by
  simp [isRunner, IsRunner]

theorem find?_isRunner {source : Source} {runner : TypeDeclaration} :
    source.preorder.find? (isRunner pattern) = some runner ↔
      IsFirst (IsRunner pattern) source.preorder runner := by
  rw [find?_eq_some_iff_isFirst]
  simp only [isRunner_iff]

theorem findMethod_eq_find? (name : String) (members : List Member) :
    findMethod name members = (members.filterMap method?).find? (fun m => m.name = name) := by
  fun_induction findMethod name members with
  | case1 => rfl
  | case2 m rest hname => simp [method?, hname]
  | case3 m rest hname ih => simp [method?, hname, ih]
  | case4 m rest hm ih =>
      have hnone : method? m = none := by
        cases m with
        | method m => exact absurd rfl (hm m)
        | _ => rfl
      rw [List.filterMap_cons_none hnone, ih]

theorem findMethod_eq_none_iff {name : String} {members : List Member} :
    findMethod name members = none ↔ ∀ m, .method m ∈ members → m.name ≠ name := by
  have hmember (m : Java.Method) : m ∈ members.filterMap method? ↔ .method m ∈ members := by
    rw [List.mem_filterMap]
    constructor
    · rintro ⟨member, hmem, hm⟩
      cases member with
      | method m' =>
          cases hm
          exact hmem
      | _ => cases hm
    · intro hmem
      exact ⟨_, hmem, rfl⟩
  rw [findMethod_eq_find?, List.find?_eq_none]
  simp only [hmember, decide_eq_true_eq]

theorem findMethod_eq_some_iff {name : String} {members : List Member} {m : Java.Method} :
    findMethod name members = some m ↔
      IsFirst (fun m => m.name = name) (members.filterMap method?) m := by
  rw [findMethod_eq_find?, find?_eq_some_iff_isFirst]
  simp only [decide_eq_true_eq]

theorem referenceFields_cons_of_none {m : Member} (h : separateField? m = none)
    (acc : OrderedMap TypeExpr) (rest : List Member) :
    referenceFields acc (m :: rest) = referenceFields acc rest := by
  rcases m with ⟨annotations, t, _ | ⟨d, _ | ⟨d', ds⟩⟩⟩ | m | _
  · rfl
  · cases h
  · rfl
  · rfl
  · rfl

theorem field_of_separateField? {m : Member} {f : TypeSyntax × Declarator}
    (h : separateField? m = some f) : ∃ annotations, m = .field ⟨annotations, f.1, [f.2]⟩ := by
  rcases m with ⟨annotations, t, _ | ⟨d, _ | ⟨d', ds⟩⟩⟩ | m | _ <;> cases h
  exact ⟨annotations, rfl⟩

theorem referenceFields_eq (acc : OrderedMap TypeExpr) (members : List Member) :
    referenceFields acc members =
      ((members.filterMap separateField?).mapM typedField >>= fun typed =>
        pure (acc.insertAll (typed.filter (fun e => e.2.isReference)))) := by
  induction members generalizing acc with
  | nil => rfl
  | cons m rest ih =>
      cases hfield : separateField? m with
      | none => rw [referenceFields_cons_of_none hfield, List.filterMap_cons_none hfield, ih]
      | some f =>
          obtain ⟨annotations, rfl⟩ := field_of_separateField? hfield
          rw [List.filterMap_cons_some hfield, List.mapM_cons, typedField, referenceFields]
          cases readDeclared f.1 f.2 with
          | error e => rfl
          | ok type =>
              refine (ih _).trans ?_
              cases (rest.filterMap separateField?).mapM typedField with
              | error e => rfl
              | ok typed =>
                  refine congrArg Except.ok ?_
                  cases hreference : type.isReference with
                  | true => simp [hreference, OrderedMap.insertAll]
                  | false => simp [hreference]

theorem failsIff_typedField (f : TypeSyntax × Declarator) :
    FailsIff voidError f.1.HasVoid (typedField f) :=
  (failsIff_readDeclared f.1 f.2).map (Prod.mk f.2.name)

theorem registrationCall?_eq_some_iff {value : Expression} {literal field : String} :
    registrationCall? pattern value = some (literal, field) ↔
      value = .call (some (.name pattern.receiver)) pattern.registerMethod
        [.string literal, .name field] := by
  constructor
  · intro h
    unfold registrationCall? at h
    split at h
    · split at h
      · next hnames =>
          obtain ⟨rfl, rfl⟩ := hnames
          cases h
          rfl
      · cases h
    · cases h
  · rintro rfl
    simp [registrationCall?]

theorem result_registration_of_registers {s : Statement} {r : String × String}
    (h : Registers pattern s r) : (registration? pattern s).result = .ok (some r) := by
  cases h with
  | @mk literal binding field text hdecode =>
      simp only [registration?, registrationCall?_eq_some_iff.2 rfl, hdecode]
      rfl

theorem result_registration_of_not_registers {s : Statement} (h : ∀ r, ¬ Registers pattern s r) :
    (registration? pattern s).result = .ok none := by
  unfold registration?
  split
  · next value text =>
      cases hcall : registrationCall? pattern value with
      | none => rfl
      | some found =>
          obtain ⟨literal, field⟩ := found
          cases hdecode : StringLiteral.decode literal with
          | none => simp only [hdecode]; rfl
          | some binding =>
              obtain rfl := registrationCall?_eq_some_iff.1 hcall
              exact absurd (.mk hdecode) (h (binding, field))
  · rfl

theorem result_noteOther (s : Statement) : (noteOther s).result = .ok () := by
  cases s <;> rfl

theorem exists_registrations (pattern : RegistrationPattern) (statements : List Statement) :
    ∃ rs, Registrations pattern statements rs := by
  induction statements with
  | nil => exact ⟨[], .nil⟩
  | cons s rest ih =>
      obtain ⟨rs, hrs⟩ := ih
      by_cases h : ∃ r, Registers pattern s r
      · obtain ⟨r, hr⟩ := h
        exact ⟨r :: rs, .register hr hrs⟩
      · exact ⟨rs, .skip (not_exists.1 h) hrs⟩

def boundType (fields : OrderedMap TypeExpr) (r : String × String) :
    Except Error (String × TypeExpr) :=
  match fields.get? r.2 with
  | none => .error (.unknownEntryField r.1 r.2)
  | some t => .ok (r.1, t)

theorem result_register {statements : List Statement} {rs : List (String × String)}
    (h : Registrations pattern statements rs) (fields : OrderedMap TypeExpr) (acc : EntryPoints) :
    (register pattern fields acc statements).result =
      (rs.mapM (boundType fields) >>= fun items => pure (acc.insertAll items)) := by
  induction h generalizing acc with
  | nil => rfl
  | @register s r rest rs hs _ ih =>
      obtain ⟨binding, field⟩ := r
      rw [register, Run.result_bind, result_registration_of_registers hs,
        OrderedMap.mapM_insertAll_cons, boundType]
      show Run.result (match fields.get? field with | none => _ | some t => _) = _
      cases fields.get? field with
      | none => rfl
      | some t => exact ih (acc.insert binding t)
  | skip hs _ ih =>
      rw [register, Run.result_bind, result_registration_of_not_registers hs]
      show (noteOther _ >>= fun _ => register pattern fields acc _ : Run EntryPoints).result = _
      rw [Run.result_bind, result_noteOther]
      exact ih acc

section

variable {fields : OrderedMap TypeExpr}

theorem boundType_eq_ok_iff {r : String × String} {e : String × TypeExpr} :
    boundType fields r = .ok e ↔ e.1 = r.1 ∧ fields.get? r.2 = some e.2 := by
  obtain ⟨name, type⟩ := e
  unfold boundType
  cases fields.get? r.2 with
  | none => simp
  | some t => simp [eq_comm]

theorem boundType_eq_error_iff {r : String × String} {e : Error} :
    boundType fields r = .error e ↔
      fields.get? r.2 = none ∧ e = .unknownEntryField r.1 r.2 := by
  unfold boundType
  cases fields.get? r.2 with
  | none => simp [eq_comm]
  | some t => simp

theorem keys_bound {rs : List (String × String)} {items : List (String × TypeExpr)}
    (h : List.Forall₂ (fun r e => boundType fields r = .ok e) rs items) :
    items.map Prod.fst = rs.map Prod.fst := by
  induction h with
  | nil => rfl
  | cons hfirst _ ih =>
      rw [List.map_cons, List.map_cons, ih, (boundType_eq_ok_iff.1 hfirst).1]

theorem lookup_bound {rs : List (String × String)} {items : List (String × TypeExpr)}
    (h : List.Forall₂ (fun r e => boundType fields r = .ok e) rs items) (name : String) :
    items.lookup name = (rs.lookup name).bind fields.get? := by
  induction h with
  | nil => rfl
  | @cons r e rs items hfirst _ ih =>
      obtain ⟨binding, field⟩ := r
      obtain ⟨key, type⟩ := e
      obtain ⟨hkey, htype⟩ := boundType_eq_ok_iff.1 hfirst
      dsimp only at hkey htype
      rw [hkey]
      by_cases hname : name = binding
      · simp [hname, htype]
      · have hne : (name == binding) = false := by simp [hname]
        simp only [List.lookup_cons, hne, ih]

theorem result_register_ok {statements : List Statement} {rs : List (String × String)}
    (h : Registrations pattern statements rs) (hbound : ∀ r ∈ rs, fields.get? r.2 ≠ none) :
    ∃ entries, (register pattern fields .empty statements).result = .ok entries ∧
      entries.keys = (rs.map Prod.fst).eraseDups ∧
      ∀ name, entries.get? name = (rs.reverse.lookup name).bind fields.get? := by
  obtain ⟨items, hitems⟩ : ∃ items, rs.mapM (boundType fields) = .ok items := by
    refine mapM_ok fun r hr => ?_
    obtain ⟨type, htype⟩ := Option.ne_none_iff_exists'.1 (hbound r hr)
    exact ⟨(r.1, type), boundType_eq_ok_iff.2 ⟨rfl, htype⟩⟩
  have hrelated := forall₂_of_mapM_ok hitems
  refine ⟨.ofList items, ?_, ?_, fun name => ?_⟩
  · rw [result_register h, hitems]
    rfl
  · rw [OrderedMap.keys_ofList, keys_bound hrelated]
  · rw [OrderedMap.get?_ofList]
    exact lookup_bound (List.rel_reverse hrelated) name

theorem result_register_error {statements : List Statement} {rs : List (String × String)}
    {r : String × String} (h : Registrations pattern statements rs)
    (hr : IsFirst (fun r => fields.get? r.2 = none) rs r) (acc : EntryPoints) :
    (register pattern fields acc statements).result = .error (.unknownEntryField r.1 r.2) := by
  have hfails : IsFirst (fun r => ∃ e, boundType fields r = .error e) rs r := by
    simpa [boundType_eq_error_iff] using hr
  obtain ⟨-, -, -, -, hmissing⟩ := hr
  rw [result_register h, mapM_eq_error_iff.2 ⟨r, hfails, boundType_eq_error_iff.2 ⟨hmissing, rfl⟩⟩]
  rfl

end

section

variable {text : String} {source : Source} {runner : TypeDeclaration}
  {typed : List (String × TypeExpr)}

theorem result_extract (hparse : Source.parse text = some source)
    (hrunner : IsFirst (IsRunner pattern) source.preorder runner) :
    (extract text pattern).result = (entryPoints pattern runner).result := by
  unfold extract
  simp only [hparse, find?_isRunner.2 hrunner]

theorem exists_source_of_extract {entries : EntryPoints}
    (h : (extract text pattern).result = .ok entries) :
    ∃ source, Source.parse text = some source := by
  unfold extract at h
  split at h
  · cases h
  · next source hparse => exact ⟨source, hparse⟩

theorem exists_fieldTypes (h : ∀ f ∈ runner.members.filterMap separateField?, ¬ f.1.HasVoid) :
    ∃ typed, FieldTypes runner.members typed := by
  obtain ⟨typed, htyped⟩ := mapM_ok fun f hf => (failsIff_typedField f).ok_iff.2 (h f hf)
  exact ⟨typed, forall₂_of_mapM_ok htyped⟩

theorem result_entryPoints_unsupported
    (h : ∃ f ∈ runner.members.filterMap separateField?, f.1.HasVoid) :
    (entryPoints pattern runner).result = .error voidError := by
  have hfails := FailsIff.mapM fun f (_ : f ∈ runner.members.filterMap separateField?) =>
    failsIff_typedField f
  have hfields : referenceFields .empty runner.members = .error voidError := by
    rw [referenceFields_eq, hfails.error_iff.2 ⟨h, rfl⟩]
    rfl
  rw [entryPoints, hfields]
  rfl

theorem result_entryPoints (h : FieldTypes runner.members typed) :
    (entryPoints pattern runner).result =
      match findMethod pattern.initMethod runner.members with
      | none => .error (.initMethodNotFound pattern.className pattern.initMethod)
      | some init => (register pattern (.ofList (typed.filter (fun e => e.2.isReference))) .empty
          (init.body.getD [])).result := by
  have hfields : referenceFields .empty runner.members =
      .ok (.ofList (typed.filter (fun e => e.2.isReference))) := by
    rw [referenceFields_eq, mapM_ok_of_forall₂ h]
    rfl
  rw [entryPoints, hfields]
  show Run.result (match findMethod pattern.initMethod runner.members with
    | none => _ | some init => _) = _
  cases findMethod pattern.initMethod runner.members <;> rfl

theorem get?_referenceFields (typed : List (String × TypeExpr)) :
    (OrderedMap.ofList (typed.filter (fun e => e.2.isReference))).get? = referenceType? typed :=
  funext (OrderedMap.get?_ofList _)

theorem result_of_extracts (hparse : Source.parse text = some source)
    {r : Except Error EntryPoints} (h : Extracts pattern source r) :
    (extract text pattern).result = r := by
  cases h with
  | noClass hnone =>
      have hfind : source.preorder.find? (isRunner pattern) = none := by
        rw [List.find?_eq_none]
        intro d hd
        rw [isRunner_iff]
        exact hnone d hd
      unfold extract
      simp only [hparse, hfind]
      rfl
  | unsupportedField hrunner hvoid =>
      rw [result_extract hparse hrunner]
      exact result_entryPoints_unsupported hvoid
  | noMethod hrunner htyped hnone =>
      rw [result_extract hparse hrunner, result_entryPoints htyped, findMethod_eq_none_iff.2 hnone]
  | unknownField hrunner htyped hinit hregistered hfirst =>
      rw [result_extract hparse hrunner, result_entryPoints htyped, findMethod_eq_some_iff.2 hinit]
      rw [← get?_referenceFields] at hfirst
      exact result_register_error hregistered hfirst .empty
  | entries hrunner htyped hinit hregistered hbound hkeys hget =>
      rw [result_extract hparse hrunner, result_entryPoints htyped, findMethod_eq_some_iff.2 hinit]
      rw [← get?_referenceFields] at hbound hget
      obtain ⟨entries, hresult, hkeys', hget'⟩ := result_register_ok hregistered hbound
      dsimp only
      rw [hresult, OrderedMap.ext_get? (hkeys'.trans hkeys.symm)
        fun name => (hget' name).trans (hget name).symm]

theorem exists_extracts (pattern : RegistrationPattern) (source : Source) :
    ∃ r, Extracts pattern source r := by
  cases hfind : source.preorder.find? (isRunner pattern) with
  | none =>
      refine ⟨_, .noClass fun d hd => ?_⟩
      rw [← isRunner_iff]
      exact List.find?_eq_none.1 hfind d hd
  | some runner =>
      have hrunner := find?_isRunner.1 hfind
      by_cases hvoid : ∃ f ∈ runner.members.filterMap separateField?, f.1.HasVoid
      · exact ⟨_, .unsupportedField hrunner hvoid⟩
      obtain ⟨typed, htyped⟩ := exists_fieldTypes fun f hf hf' => hvoid ⟨f, hf, hf'⟩
      cases hmethod : findMethod pattern.initMethod runner.members with
      | none => exact ⟨_, .noMethod hrunner htyped (findMethod_eq_none_iff.1 hmethod)⟩
      | some init =>
          have hinit := findMethod_eq_some_iff.1 hmethod
          obtain ⟨rs, hrs⟩ := exists_registrations pattern (init.body.getD [])
          by_cases hbound : ∀ r ∈ rs, referenceType? typed r.2 ≠ none
          · have hget := get?_referenceFields typed
            obtain ⟨entries, -, hkeys, hlookup⟩ := result_register_ok hrs (hget.symm ▸ hbound)
            exact ⟨_, .entries hrunner htyped hinit hrs hbound hkeys (hget ▸ hlookup)⟩
          · have hmissing : ∃ r ∈ rs, referenceType? typed r.2 = none := by
              simpa using hbound
            obtain ⟨⟨binding, field⟩, hfirst⟩ := exists_isFirst hmissing
            exact ⟨_, .unknownField hrunner htyped hinit hrs hfirst⟩

theorem result_extract_iff (hparse : Source.parse text = some source)
    (r : Except Error EntryPoints) :
    (extract text pattern).result = r ↔ Extracts pattern source r := by
  constructor
  · rintro rfl
    obtain ⟨r, hr⟩ := exists_extracts pattern source
    rw [result_of_extracts hparse hr]
    exact hr
  · exact result_of_extracts hparse

end

def shortPattern : RegistrationPattern :=
  ⟨"R", "m", "i", "r"⟩

def nestedRunner : String :=
  "interface R \x7b class R \x7b A a; A b; M<A, int[]> a; void m() \x7b i.r(\"x\", b); i.s();" ++
    " i.r(\"y\", b); i.r(\"\\170\", a); \x7d \x7d \x7d"

theorem extracts_nestedRunner :
    ∃ source entries, Source.parse nestedRunner = some source ∧
      Extracts shortPattern source (.ok entries) ∧ entries.keys = ["x", "y"] ∧
      (entries.get? "x").map TypeExpr.name = some "M" := by
  obtain ⟨entries, hentries, hview⟩ : ∃ entries,
      (extract nestedRunner shortPattern).result = .ok entries ∧
      (entries.keys, (entries.get? "x").map TypeExpr.name) = (["x", "y"], some "M") :=
    exists_ok_of_toOption (by decide +kernel)
  obtain ⟨hkeys, htype⟩ := Prod.mk.inj hview
  obtain ⟨source, hsource⟩ := exists_source_of_extract hentries
  exact ⟨source, entries, hsource, (result_extract_iff hsource _).1 hentries, hkeys, htype⟩

end BridgeTypings.Registration
