import BridgeTypings.Proofs.Generation
import BridgeTypings.Proofs.Output.Growth
import BridgeTypings.Proofs.Scan.Additions

namespace BridgeTypings.Generation

open Outcome Emission FileTree

variable {fs fs' : FileSystem} {root : String} {settings : Settings} {g g' : Generation}

theorem text_of_readRunner {path : String} {pattern : RegistrationPattern} {entries : EntryPoints}
    (h : (readRunner fs path pattern).result = .ok entries) : ∃ text, fs.read path = .ok text := by
  obtain ⟨_, -, h⟩ := run_bind_eq_ok.1 h
  obtain ⟨text, htext, -⟩ := run_bind_eq_ok.1 h
  exact ⟨text, mapError_eq_ok.1 htext⟩

theorem readRunner_grown {path : String} {pattern : RegistrationPattern} {entries : EntryPoints}
    (hgrown : fs.Grown fs') (named' : WellNamed (.directory fs'.root))
    (h : (readRunner fs path pattern).result = .ok entries) :
    (readRunner fs' path pattern).result = .ok entries := by
  obtain ⟨text, htext⟩ := text_of_readRunner h
  have htext' := hgrown.read named' htext
  unfold readRunner at h ⊢
  rw [htext']
  rw [htext] at h
  exact h

theorem outline_of_run (h : (run fs root settings).result = .ok g) :
    ∃ o, outline settings.renderer g.declarations g.entries = .ok o ∧ g.output = o.text := by
  obtain ⟨-, -, hemit⟩ := stages_of_run h
  rw [result_emit] at hemit
  obtain ⟨o, houtline, htext⟩ := map_eq_ok.1 hemit
  exact ⟨o, houtline, htext.symm⟩

theorem run_grown (hgrown : fs.Grown fs') (named : WellNamed (.directory fs.root))
    (named' : WellNamed (.directory fs'.root))
    (hfresh : (settings.sourceScan root).AddsFresh fs fs')
    (h : (run fs root settings).result = .ok g) (h' : (run fs' root settings).result = .ok g') :
    ∃ o o', outline settings.renderer g.declarations g.entries = .ok o ∧
      outline settings.renderer g'.declarations g'.entries = .ok o' ∧
      g.output = o.text ∧ g'.output = o'.text ∧
      o.declarations.map DeclarationOutline.name = g.declarations.keys ∧
      List.SublistForall₂ DeclarationOutline.Extended o.declarations o'.declarations ∧
      o'.entries = o.entries := by
  obtain ⟨hentries, hcollect, -⟩ := stages_of_run h
  obtain ⟨hentries', hcollect', -⟩ := stages_of_run h'
  obtain ⟨o, houtline, htext⟩ := outline_of_run h
  obtain ⟨o', houtline', htext'⟩ := outline_of_run h'
  have hsame : g'.entries = g.entries :=
    Except.ok.inj (hentries'.symm.trans (readRunner_grown hgrown named' hentries))
  have hpart := SourceScan.collect_grown hgrown named named' hfresh hcollect hcollect'
  have hnames := names_of_headers (headers_of_outline houtline)
  obtain ⟨hblocks, hbound⟩ := outline_grown hpart houtline (hsame ▸ houtline')
  exact ⟨o, o', houtline, houtline', htext, htext', hnames, hblocks, hbound⟩

def loneSource : Entries :=
  [("B.java", .file "class B extends A implements I \x7b\x7d".toUTF8)]

def joinedSources : Entries :=
  [("sub", .directory [("I.java", .file "interface I \x7b\x7d".toUTF8)]),
    ("B.java", .file "class B extends A implements I \x7b\x7d".toUTF8),
    ("A.java", .file "class A \x7b\x7d".toUTF8)]

def growingText : String :=
  "class R \x7b B b; void m() \x7b i.r(\"b\", b); \x7d \x7d"

def growingCheckout (sources : Entries) : FileSystem where
  root := [("R.java", .file growingText.toUTF8), ("api", .directory sources)]

def growingSettings : Settings where
  runner := ⟨some "R.java", some "R", some "m", some "i", some "r"⟩
  api := { dir := some "api" }

theorem growingCheckout_grown :
    (growingCheckout loneSource).Grown (growingCheckout joinedSources) where
  root := by
    refine .directory (fun e => if e.1 = "api" then .directory joinedSources else e.2) ?_ ?_
    · simp [growingCheckout]
    · simp only [growingCheckout, List.forall_mem_cons]
      refine ⟨.file _, .directory Prod.snd ?_ ?_, nofun⟩
      · simp [loneSource, joinedSources]
      · simp only [loneSource, List.forall_mem_cons]
        exact ⟨.file _, nofun⟩
  directory := rfl
  current := ⟨_, rfl⟩

theorem wellNamed_growingCheckout {sources : Entries} (h : WellNamed (.directory sources)) :
    WellNamed (.directory (growingCheckout sources).root) := by
  simp only [growingCheckout, wellNamed_cons]
  exact ⟨⟨by simp, Path.isEntryName (by decide), .file _⟩,
    ⟨by simp, Path.isEntryName (by decide), h⟩, wellNamed_nil⟩

theorem wellNamed_loneSource : WellNamed (.directory loneSource) := by
  simp only [loneSource, wellNamed_cons]
  exact ⟨⟨by simp, Path.isEntryName (by decide), .file _⟩, wellNamed_nil⟩

theorem wellNamed_joinedSources : WellNamed (.directory joinedSources) := by
  simp only [joinedSources, wellNamed_cons]
  exact ⟨⟨by decide, Path.isEntryName (by decide),
      ⟨by simp, Path.isEntryName (by decide), .file _⟩, wellNamed_nil⟩,
    ⟨by decide, Path.isEntryName (by decide), .file _⟩,
    ⟨by simp, Path.isEntryName (by decide), .file _⟩, wellNamed_nil⟩

theorem declared_joinedSources : (regularFilesIn joinedSources).map
    (fun f => ((growingSettings.sourceScan "").declared? f).map Prod.fst) =
      [some "I", some "B", some "A"] := by
  decide +kernel

theorem collects_joinedSources : ∀ f ∈ regularFilesIn joinedSources,
    ((growingSettings.sourceScan "").declared? f).isSome := by
  intro f hf
  have hmem : ((growingSettings.sourceScan "").declared? f).map Prod.fst ∈
      [some "I", some "B", some "A"] := by
    rw [← declared_joinedSources]
    exact List.mem_map_of_mem hf
  cases hdeclared : (growingSettings.sourceScan "").declared? f with
  | none => simp [hdeclared] at hmem
  | some item => rfl

theorem addsFresh_joinedSources : (growingSettings.sourceScan "").AddsFresh
    (growingCheckout loneSource) (growingCheckout joinedSources) := by
  have hnames : ((regularFilesIn joinedSources).map
      (fun f => ((growingSettings.sourceScan "").declared? f).map Prod.fst)).Nodup := by
    rw [declared_joinedSources]
    decide
  intro es es' _ hstart' f hf _ g hg hne a b ha hb hname
  cases hstart'
  have hsame := List.inj_on_of_nodup_map hnames (SourceScan.mem_sources _ |>.1 hg).1
    (SourceScan.mem_sources _ |>.1 hf).1 (by simp [ha, hb, hname])
  exact hne hsame

theorem run_grown_joined :
    ∃ (g g' : Generation) (o o' : Outline),
      (run (growingCheckout loneSource) "" growingSettings).result = .ok g ∧
      (run (growingCheckout joinedSources) "" growingSettings).result = .ok g' ∧
      g.output = o.text ∧ g'.output = o'.text ∧
      o.declarations.map DeclarationOutline.name = ["B"] ∧
      List.SublistForall₂ DeclarationOutline.Extended o.declarations o'.declarations ∧
      o'.entries = o.entries := by
  obtain ⟨g, hg, hkeys⟩ : ∃ g, (run (growingCheckout loneSource) "" growingSettings).result =
      .ok g ∧ g.declarations.keys = ["B"] := exists_ok_of_toOption (by decide +kernel)
  have hnamed := wellNamed_growingCheckout wellNamed_loneSource
  have hnamed' := wellNamed_growingCheckout wellNamed_joinedSources
  obtain ⟨g', hg'⟩ : ∃ g', (run (growingCheckout joinedSources) "" growingSettings).result =
      .ok g' := by
    have hcontent : (growingCheckout joinedSources).read (growingSettings.runnerFile "") =
        .ok growingText := eq_ok_of_toOption (by decide +kernel)
    obtain ⟨entries, hentries, -⟩ : ∃ entries,
        (Registration.extract growingText growingSettings.runner.pattern).result = .ok entries ∧
        entries.keys = ["b"] := exists_ok_of_toOption (by decide +kernel)
    have hstart : (growingCheckout joinedSources).resolve true (growingSettings.sourceScan "").dir =
        .ok (.directory joinedSources) := rfl
    have hcollected := (growingSettings.sourceScan "").result_collect hnamed' hstart
      fun f hf => collects_joinedSources f (SourceScan.mem_sources _ |>.1 hf).1
    obtain ⟨output, hrun⟩ := run_ok hcontent hentries hcollected
    exact ⟨_, hrun⟩
  obtain ⟨o, o', -, -, htext, htext', hnames, hblocks, hbound⟩ :=
    run_grown growingCheckout_grown hnamed hnamed' addsFresh_joinedSources hg hg'
  exact ⟨g, g', o, o', hg, hg', htext, htext', hnames.trans hkeys, hblocks, hbound⟩

end BridgeTypings.Generation
