import BridgeTypings.Generation
import BridgeTypings.Proofs.Java.Parsing.Sources
import BridgeTypings.Proofs.Java.Shape
import BridgeTypings.Proofs.OrderedMap

namespace BridgeTypings

open Java Outcome

def IsReadParameter (p : String × Parameter) : Prop :=
  isIdentifier p.1 = true ∧ IsReadType p.2.type

structure IsReadMethod (m : Method) : Prop where
  returns : ∀ t ∈ m.returns, IsReadType t
  parameters : ∀ p ∈ m.parameters.entries, IsReadParameter p

def IsReadAttribute (a : String × Attribute) : Prop :=
  isIdentifier a.1 = true ∧
    match a.2 with
    | .field t => IsReadType t
    | .method m => IsReadMethod m

structure IsReadDeclaration (d : Declaration) : Prop where
  parent : ∀ t ∈ d.extends?, IsReadType t
  implements : ∀ t ∈ d.implements, IsReadType t
  attributes : ∀ a ∈ d.attributes, IsReadAttribute a

theorem IsReadDeclaration.types {d : Declaration} (h : IsReadDeclaration d) :
    ∀ t ∈ d.types, IsReadType t := by
  intro t ht
  simp only [Declaration.types, List.mem_append, List.mem_flatMap] at ht
  rcases ht with (ht | ht) | ⟨⟨name, item⟩, ha, ht⟩
  · exact h.parent t (by simpa using ht)
  · exact h.implements t ht
  · obtain ⟨-, hitem⟩ := h.attributes _ ha
    cases item with
    | field type =>
        obtain rfl := List.mem_singleton.1 ht
        exact hitem
    | method m =>
        rcases List.mem_append.1 ht with ht | ht
        · obtain ⟨p, hp, rfl⟩ := List.mem_map.1 ht
          exact (hitem.parameters p hp).2
        · exact hitem.returns t (by simpa using ht)

theorem meets_ofRead {α : Type} {x : Except ReadFailure α} {f : ReadFailure → Error}
    (hf : ∀ cause, NotSized (f cause)) : Meets NotSized (fun _ => True) (x.mapError f) := by
  cases x with
  | error cause => exact hf cause
  | ok a => trivial

theorem notSized_inFile {e : Error} (h : NotSized e) (path : String) :
    NotSized (e.inFile path) := by
  cases e with
  | sizedDimension text => exact absurd rfl (h text)
  | _ => exact nofun

namespace Exposure

theorem meets_readReturn {m : Java.Method} (h : m.returns.Proper) :
    Meets NotSized (fun returns => ∀ t ∈ returns, IsReadType t) (readReturn m) := by
  unfold readReturn
  split
  · exact nofun
  · refine (meets_read h).bind fun t ht => ?_
    rintro t' ⟨⟩
    exact ht

theorem meets_readParameters {parameters : List Java.Parameter} (h : ∀ p ∈ parameters, p.Proper)
    {acc : OrderedMap Parameter} (hacc : ∀ e ∈ acc.entries, IsReadParameter e) :
    Meets NotSized (fun m => ∀ e ∈ m.entries, IsReadParameter e)
      (readParameters acc parameters) := by
  induction parameters generalizing acc with
  | nil => exact hacc
  | cons p rest ih =>
      obtain ⟨hp, hrest⟩ := List.forall_mem_cons.1 h
      cases p with
      | formal t d =>
          exact (meets_readDeclared hp.1 hp.2).bind fun type htype =>
            ih hrest (OrderedMap.forall_insert hacc ⟨hp.2.name, htype⟩)
      | spread t d =>
          exact (meets_readDeclared hp.1 hp.2).bind fun type htype =>
            ih hrest (OrderedMap.forall_insert hacc ⟨hp.2.name, htype⟩)
      | receiver => exact ih hrest hacc

theorem meets_readMethod {m : Java.Method} (h : m.Proper) :
    Meets NotSized IsReadMethod (readMethod m) := by
  have hempty : ∀ e ∈ (OrderedMap.empty : OrderedMap Parameter).entries, IsReadParameter e := nofun
  exact (meets_readReturn h.returns).bind fun returns hreturns =>
    (meets_readParameters h.parameters hempty).bind fun parameters hparameters =>
      ⟨hreturns, hparameters⟩

theorem meets_exposed (markers : Markers) (owner : String) {m : Member} (h : m.Proper) :
    Meets NotSized (fun a => ∀ e ∈ a, IsReadAttribute e) (exposed markers owner m).result := by
  cases m with
  | field f =>
      simp only [exposed]
      split
      · split
        · next d hd =>
            have hproper : d.Proper := h.declarators d (by simp [hd])
            refine meets_run_bind (meets_readDeclared h.type hproper) fun t ht => ?_
            rintro a ⟨⟩
            exact ⟨hproper.name, ht⟩
        · exact nofun
      · exact nofun
  | method m =>
      simp only [exposed]
      split
      · refine meets_run_bind (meets_readMethod h) fun method hmethod => ?_
        rintro a ⟨⟩
        exact ⟨h.name, hmethod⟩
      · exact nofun
  | other => exact nofun

theorem meets_attributes (markers : Markers) (owner : String) {members : List Member}
    (h : ∀ m ∈ members, m.Proper) :
    Meets NotSized (fun as => ∀ a ∈ as, IsReadAttribute a)
      (attributes markers owner members).result := by
  induction members with
  | nil => exact nofun
  | cons m rest ih =>
      obtain ⟨hm, hrest⟩ := List.forall_mem_cons.1 h
      refine meets_run_bind (meets_exposed markers owner hm) fun first hfirst => ?_
      refine meets_run_bind (ih hrest) fun others hothers => ?_
      refine List.forall_mem_append.2 ⟨fun a ha => hfirst a (by simpa using ha), hothers⟩

theorem meets_readHeading {heading : Heading} (h : ∀ t ∈ heading.types, t.Proper) :
    Meets NotSized (fun r => (∀ t ∈ r.1.implements, IsReadType t) ∧ ∀ t ∈ r.2, IsReadType t)
      (readHeading heading) := by
  have hread : ∀ t ∈ heading.types, Meets NotSized IsReadType t.read := fun t ht =>
    meets_read (h t ht)
  rcases heading with ⟨_ | superclass, interfaces⟩ | parents
  · exact (meets_readTypes hread).bind fun types htypes => ⟨htypes, nofun⟩
  · obtain ⟨hsuper, hinterfaces⟩ := List.forall_mem_cons.1 hread
    refine hsuper.bind fun t ht => (meets_readTypes hinterfaces).bind fun types htypes => ?_
    refine ⟨htypes, ?_⟩
    rintro t' ⟨⟩
    exact ht
  · refine (meets_readTypes hread).bind fun types htypes => ⟨nofun, fun t ht => ?_⟩
    exact htypes t (List.mem_of_mem_head? ht)

theorem meets_declaration (markers : Markers) {d : TypeDeclaration} (h : d.Proper) :
    Meets NotSized IsReadDeclaration (declaration markers d).result := by
  cases h with
  | mk hheading _ hmembers _ =>
      refine meets_run_bind (meets_readHeading hheading) fun ⟨kind, parent⟩ hread => ?_
      refine meets_run_bind (meets_attributes markers _ hmembers) fun as has => ?_
      exact ⟨hread.2, hread.1, has⟩

theorem meets_collect (text : String) (markers : Markers) :
    Meets NotSized (fun r => isIdentifier r.1 = true ∧ IsReadDeclaration r.2)
      (collect text markers).result := by
  unfold collect
  split
  · exact nofun
  · next source hparse =>
      split
      · exact nofun
      · next d rest hpreorder =>
          have hproper : d.Proper := Source.proper_of_mem_preorder hparse d (by simp [hpreorder])
          refine meets_run_bind (meets_declaration markers hproper) fun declared hread => ?_
          cases hproper with
          | mk _ hname _ _ => exact ⟨hname, hread⟩

end Exposure

namespace Registration

theorem meets_referenceFields {members : List Member} (h : ∀ m ∈ members, m.Proper)
    {acc : OrderedMap TypeExpr} (hacc : ∀ e ∈ acc.entries, IsReadType e.2) :
    Meets NotSized (fun fields => ∀ e ∈ fields.entries, IsReadType e.2)
      (referenceFields acc members) := by
  fun_induction referenceFields acc members with
  | case1 acc => exact hacc
  | case2 acc annotations t d rest ih =>
      obtain ⟨hfield, hrest⟩ := List.forall_mem_cons.1 h
      have hdeclared := meets_readDeclared hfield.type (hfield.declarators d List.mem_cons_self)
      refine hdeclared.bind fun type htype => ih type hrest ?_
      split
      · exact OrderedMap.forall_insert hacc htype
      · exact hacc
  | case3 acc m rest _ ih => exact ih (List.forall_mem_cons.1 h).2 hacc

theorem meets_registration (pattern : RegistrationPattern) (s : Statement) :
    Meets NotSized (fun _ => True) (registration? pattern s).result := by
  unfold registration?
  split
  · split
    · trivial
    · split
      · trivial
      · trivial
  · trivial

theorem meets_register (pattern : RegistrationPattern) {fields : OrderedMap TypeExpr}
    (hfields : ∀ e ∈ fields.entries, IsReadType e.2) {acc : EntryPoints}
    (hacc : ∀ e ∈ acc.entries, IsReadType e.2) (statements : List Statement) :
    Meets NotSized (fun entries => ∀ e ∈ entries.entries, IsReadType e.2)
      (register pattern fields acc statements).result := by
  induction statements generalizing acc with
  | nil => exact hacc
  | cons s rest ih =>
      refine meets_run_bind (meets_registration pattern s) fun registered _ => ?_
      cases registered with
      | none =>
          have hnote : Meets NotSized (fun _ => True) (noteOther s).result := by
            cases s <;> trivial
          exact meets_run_bind hnote fun _ _ => ih hacc
      | some binding =>
          obtain ⟨name, field⟩ := binding
          dsimp only
          split
          · exact nofun
          · next t hget =>
              have hreport : Meets NotSized (fun _ => True)
                  (Run.report .debug "entry point" [("binding", name), ("field", field)]).result :=
                trivial
              refine meets_run_bind hreport fun _ _ => ih (OrderedMap.forall_insert hacc ?_)
              exact OrderedMap.forall_of_get? hfields hget

theorem meets_extract (text : String) (pattern : RegistrationPattern) :
    Meets NotSized (fun entries => ∀ e ∈ entries.entries, IsReadType e.2)
      (extract text pattern).result := by
  unfold extract
  split
  · exact nofun
  · next source hparse =>
      split
      · exact nofun
      · next runner hfind =>
          have hproper : runner.Proper :=
            Source.proper_of_mem_preorder hparse runner (List.mem_of_find?_eq_some hfind)
          cases hproper with
          | mk _ _ hmembers _ =>
              have hempty : ∀ e ∈ (OrderedMap.empty : EntryPoints).entries, IsReadType e.2 := nofun
              refine meets_run_bind (meets_referenceFields hmembers hempty) fun fields hfields => ?_
              split
              · exact nofun
              · exact meets_register pattern hfields hempty _

end Registration

namespace SourceScan

theorem meets_collectFile (scan : SourceScan) (path : String) (content : ByteArray) :
    Meets NotSized (fun r => isIdentifier r.1 = true ∧ IsReadDeclaration r.2)
      (scan.collectFile path content).result := by
  refine meets_run_bind (meets_ofRead fun _ => nofun) fun text _ => ?_
  have hcollect := (Exposure.meets_collect text scan.markers).mapError
    fun e he => notSized_inFile he path
  refine meets_run_bind (x := (Exposure.collect text scan.markers).mapError (.inFile path))
    hcollect fun ⟨name, d⟩ hread => ?_
  exact hread

theorem meets_collectFiles (scan : SourceScan) {E : Error → Prop}
    {P : String × Declaration → Prop} (files : List (String × ByteArray))
    (hfiles : ∀ file ∈ files, Meets E P (scan.collectFile file.1 file.2).result)
    {acc : Declarations} (hacc : ∀ e ∈ acc.entries, P e) :
    Meets E (fun ds => ∀ e ∈ ds.entries, P e) (scan.collectFiles acc files).result := by
  induction files generalizing acc with
  | nil => exact hacc
  | cons file rest ih =>
      have hrest : ∀ f ∈ rest, Meets E P (scan.collectFile f.1 f.2).result := fun f hf =>
        hfiles f (List.mem_cons_of_mem _ hf)
      exact meets_run_bind (hfiles file List.mem_cons_self) fun ⟨name, d⟩ hread =>
        ih hrest (OrderedMap.forall_insert hacc hread)

theorem meets_collect (scan : SourceScan) (fs : FileSystem) :
    Meets NotSized
      (fun ds => ∀ e ∈ ds.entries, isIdentifier e.1 = true ∧ IsReadDeclaration e.2)
      (scan.collect fs).result := by
  have hfiles : Meets NotSized (fun _ => True) (fs.filesUnder scan.dir) := by
    unfold FileSystem.filesUnder
    split
    · exact nofun
    · split
      · exact nofun
      · trivial
      · trivial
    · trivial
  refine meets_run_bind (x := .ofExcept (fs.filesUnder scan.dir)) hfiles fun files _ => ?_
  have hempty : ∀ e ∈ (OrderedMap.empty : Declarations).entries,
      isIdentifier e.1 = true ∧ IsReadDeclaration e.2 := nofun
  have hcollected := scan.meets_collectFiles (files.filter scan.selects)
    (fun file _ => scan.meets_collectFile file.1 file.2) hempty
  refine meets_run_bind hcollected fun ds hds => ?_
  exact hds

end SourceScan

theorem Generation.meets_readRunner (fs : FileSystem) (path : String)
    (pattern : RegistrationPattern) :
    Meets NotSized (fun entries => ∀ e ∈ entries.entries, IsReadType e.2)
      (readRunner fs path pattern).result := by
  refine meets_run_bind (P := fun _ => True) trivial fun _ _ => ?_
  refine meets_run_bind (x := .ofExcept ((fs.read path).mapError (.read path)))
    (meets_ofRead fun _ => nofun) fun text _ => ?_
  have hextract := (Registration.meets_extract text pattern).mapError
    fun e he => notSized_inFile he path
  refine meets_run_bind (x := (Registration.extract text pattern).mapError (.inFile path))
    hextract fun entries hentries => ?_
  exact hentries

end BridgeTypings
