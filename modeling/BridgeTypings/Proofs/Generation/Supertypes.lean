import BridgeTypings.Proofs.Exposure
import BridgeTypings.Proofs.Generation
import BridgeTypings.Proofs.Output.Supertypes
import BridgeTypings.Proofs.Scan.Collection

namespace BridgeTypings

open Java Outcome Emission

namespace Exposure

theorem kind_of_readHeading {heading : Heading} {kind : Kind} {parent : Option TypeExpr}
    (h : readHeading heading = .ok (kind, parent)) :
    match heading with
    | .classHeading _ interfaces =>
        ∃ types, readTypes interfaces = .ok types ∧ kind = .classKind types
    | .interfaceHeading _ => kind = .interfaceKind := by
  rcases heading with ⟨_ | superclass, interfaces⟩ | parents
  · obtain ⟨types, htypes, heq⟩ := bind_eq_ok.1 h
    cases heq
    exact ⟨types, htypes, rfl⟩
  · obtain ⟨t, -, h⟩ := bind_eq_ok.1 h
    obtain ⟨types, htypes, heq⟩ := bind_eq_ok.1 h
    cases heq
    exact ⟨types, htypes, rfl⟩
  · obtain ⟨types, -, heq⟩ := bind_eq_ok.1 h
    cases heq
    rfl

end Exposure

namespace SourceScan

variable {scan : SourceScan}

def Finds (scan : SourceScan) (fs : FileSystem) (first : TypeDeclaration) : Prop :=
  ∃ files file text source rest, fs.filesUnder scan.dir = .ok files ∧ file ∈ files ∧
    scan.selects file = true ∧ FileSystem.decode file.2 = .ok text ∧
    Source.parse text = some source ∧ source.preorder = first :: rest

structure Declares (scan : SourceScan) (fs : FileSystem) (source : TypeDeclaration)
    (e : String × Declaration) : Prop where
  found : scan.Finds fs source
  name : e.1 = source.name
  heading : Exposure.readHeading source.heading = .ok (e.2.kind, e.2.extends?)

theorem declares_of_collectFile {fs : FileSystem} {files : List (String × ByteArray)}
    (hfiles : fs.filesUnder scan.dir = .ok files) {file : String × ByteArray}
    (hfile : file ∈ files.filter scan.selects) {item : String × Declaration}
    (h : (scan.collectFile file.1 file.2).result = .ok item) :
    ∃ source, scan.Declares fs source item := by
  obtain ⟨hmem, hselected⟩ := List.mem_filter.1 hfile
  obtain ⟨text, htext, hcollect⟩ := scan.collect_of_collectFile h
  obtain ⟨source, first, rest, hparse, hpreorder, hname, hdeclaration⟩ :=
    Exposure.source_of_collect hcollect
  have hfound : scan.Finds fs first :=
    ⟨files, file, text, source, rest, hfiles, hmem, hselected, htext, hparse, hpreorder⟩
  exact ⟨first, hfound, hname, (Exposure.declaration_eq_ok_iff.1 hdeclaration).heading⟩

theorem declares_of_collect {fs : FileSystem} {declarations : Declarations}
    (h : (scan.collect fs).result = .ok declarations) :
    ∀ e ∈ declarations.entries, ∃ source, scan.Declares fs source e := by
  obtain ⟨files, hfiles, h⟩ := run_bind_eq_ok.1 h
  obtain ⟨collected, hcollected, h⟩ := run_bind_eq_ok.1 h
  obtain ⟨_, -, heq⟩ := run_bind_eq_ok.1 h
  cases heq
  have hempty : ∀ e ∈ (OrderedMap.empty : Declarations).entries,
      ∃ source, scan.Declares fs source e := nofun
  have hmeets := scan.meets_collectFiles (files.filter scan.selects)
    (fun file hfile => .of_ok fun item => declares_of_collectFile hfiles hfile) hempty
  exact hmeets.ok hcollected

end SourceScan

namespace Generation

def ImplementsAs (r : Renderer) (declarations : Declarations) (heading : Heading)
    (d : DeclarationOutline) : Prop :=
  match heading with
  | .classHeading _ interfaces =>
      d.keyword = "class" ∧ ∃ types texts, readTypes interfaces = .ok types ∧
        types.mapM r.renderType = .ok texts ∧ d.implements = texts.filter declarations.contains
  | .interfaceHeading _ => d.keyword = "interface" ∧ d.implements = []

theorem implementsAs_of_header {r : Renderer} {declarations : Declarations} {heading : Heading}
    {e : String × Declaration} {d : DeclarationOutline} (hheader : HeaderOf r declarations e d)
    (hheading : Exposure.readHeading heading = .ok (e.2.kind, e.2.extends?)) :
    ImplementsAs r declarations heading d := by
  obtain ⟨texts, htexts, himplements⟩ := hheader.implements
  have hkeyword := hheader.keyword
  have hkind := Exposure.kind_of_readHeading hheading
  cases heading with
  | classHeading superclass interfaces =>
      obtain ⟨types, htypes, hclass⟩ := hkind
      rw [hclass] at hkeyword
      rw [Declaration.implements, hclass] at htexts
      exact ⟨hkeyword, types, texts, htypes, htexts, himplements⟩
  | interfaceHeading parents =>
      rw [hkind] at hkeyword
      rw [Declaration.implements, hkind] at htexts
      cases htexts
      exact ⟨hkeyword, himplements⟩

theorem run_supertypes {fs : FileSystem} {root : String} {settings : Settings} {g : Generation}
    (h : (run fs root settings).result = .ok g) :
    ∃ o : Outline, g.output = o.text ∧
      o.declarations.map DeclarationOutline.name = g.declarations.keys ∧
      ∀ d ∈ o.declarations, isIdentifier d.name = true ∧
        (∀ text ∈ d.parents ++ d.implements, ∃ other ∈ o.declarations, other.name = text) ∧
        ∃ declared source, (d.name, declared) ∈ g.declarations.entries ∧
          (settings.sourceScan root).Declares fs source (d.name, declared) ∧
          ImplementsAs settings.renderer g.declarations source.heading d := by
  obtain ⟨-, hcollect, hemit⟩ := stages_of_run h
  rw [result_emit] at hemit
  obtain ⟨o, houtline, htext⟩ := map_eq_ok.1 hemit
  have hheaders := headers_of_outline houtline
  have hnames := names_of_headers hheaders
  refine ⟨o, htext.symm, hnames, fun d hd => ?_⟩
  obtain ⟨e, he, hheader⟩ := exists_of_mem_right hheaders hd
  have hread := ((settings.sourceScan root).meets_collect fs).ok hcollect e he
  obtain ⟨source, hsource⟩ := SourceScan.declares_of_collect hcollect e he
  refine ⟨?_, ?_, e.2, source, ?_, ?_, implementsAs_of_header hheader hsource.heading⟩
  · rw [hheader.name]
    exact hread.1
  · intro text hshown
    have hkey : text ∈ o.declarations.map DeclarationOutline.name := by
      rw [hnames]
      exact hheader.declared text hshown
    simpa using hkey
  · rw [hheader.name]
    exact he
  · rw [hheader.name]
    exact hsource

def implementingCheckout : FileSystem where
  root := [("R.java", .file "class R \x7b void m() \x7b\x7d \x7d".toUTF8),
    ("api", .directory [("A.java", .file "class A extends L implements A, L, A \x7b\x7d".toUTF8)])]

def implementingSettings : Settings where
  runner := { path := some "R.java", className := some "R", initMethod := some "m" }
  api := { dir := some "api" }

theorem run_implementing :
    ∃ g o, (run implementingCheckout "" implementingSettings).result = .ok g ∧
      g.output = "declare class A implements A, A \x7b\n\x7d\n" ∧ g.output = Outline.text o ∧
      o.declarations.map DeclarationOutline.name = ["A"] ∧
      ∀ d ∈ o.declarations, ∀ text ∈ d.parents ++ d.implements, text = "A" := by
  obtain ⟨g, hg, hview⟩ : ∃ g, (run implementingCheckout "" implementingSettings).result = .ok g ∧
      (g.declarations.keys, g.output) = (["A"], "declare class A implements A, A \x7b\n\x7d\n") :=
    exists_ok_of_toOption (by decide +kernel)
  obtain ⟨hkeys, houtput⟩ := Prod.mk.inj hview
  obtain ⟨o, htext, hnames, hheaders⟩ := run_supertypes hg
  refine ⟨g, o, hg, houtput, htext, hnames.trans hkeys, fun d hd text hshown => ?_⟩
  obtain ⟨other, hother, rfl⟩ := (hheaders d hd).2.1 text hshown
  have hname : other.name ∈ g.declarations.keys := by
    rw [← hnames]
    exact List.mem_map_of_mem hother
  simpa [hkeys] using hname

end Generation

end BridgeTypings
