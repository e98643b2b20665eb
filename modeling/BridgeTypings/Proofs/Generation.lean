import BridgeTypings.Proofs.Collected
import BridgeTypings.Proofs.Output.Sizes

namespace BridgeTypings.Generation

open Java Outcome

theorem emit_ok_of_read (r : Renderer) {entries : EntryPoints} {declarations : Declarations}
    (hentries : ∀ e ∈ entries.entries, IsReadType e.2)
    (hdeclarations : ∀ e ∈ declarations.entries, IsReadDeclaration e.2) :
    ∃ output, (Emission.emit r declarations entries).result = .ok output :=
  Emission.emit_ok r (fun e he t ht => ((hdeclarations e he).types t ht).isUnsized)
    fun e he => (hentries e he).isUnsized

theorem meets_run (fs : FileSystem) (root : String) (settings : Settings) :
    Meets NotSized (fun _ => True) (run fs root settings).result := by
  refine meets_run_bind (meets_readRunner fs _ _) fun entries hentries => ?_
  refine meets_run_bind (SourceScan.meets_collect _ fs) fun declarations hdeclarations => ?_
  obtain ⟨output, houtput⟩ := emit_ok_of_read settings.renderer hentries
    fun e he => (hdeclarations e he).2
  rw [Run.result_bind, houtput]
  trivial

theorem stages_of_run {fs : FileSystem} {root : String} {settings : Settings} {g : Generation}
    (h : (run fs root settings).result = .ok g) :
    (readRunner fs (settings.runnerFile root) settings.runner.pattern).result = .ok g.entries ∧
      ((settings.sourceScan root).collect fs).result = .ok g.declarations ∧
      (Emission.emit settings.renderer g.declarations g.entries).result = .ok g.output := by
  obtain ⟨entries, hentries, h⟩ := run_bind_eq_ok.1 h
  obtain ⟨declarations, hdeclarations, h⟩ := run_bind_eq_ok.1 h
  obtain ⟨output, houtput, h⟩ := run_bind_eq_ok.1 h
  cases h
  exact ⟨hentries, hdeclarations, houtput⟩

theorem run_ok {fs : FileSystem} {root : String} {settings : Settings} {content : String}
    {entries : EntryPoints} {declarations : Declarations}
    (hcontent : fs.read (settings.runnerFile root) = .ok content)
    (hextract : (Registration.extract content settings.runner.pattern).result = .ok entries)
    (hcollect : ((settings.sourceScan root).collect fs).result = .ok declarations) :
    ∃ output, (run fs root settings).result = .ok ⟨entries, declarations, output⟩ := by
  have hentries := (Registration.meets_extract content settings.runner.pattern).ok hextract
  have hdeclarations := ((settings.sourceScan root).meets_collect fs).ok hcollect
  obtain ⟨output, houtput⟩ := emit_ok_of_read settings.renderer hentries
    fun e he => (hdeclarations e he).2
  have hrunner :
      (readRunner fs (settings.runnerFile root) settings.runner.pattern).result = .ok entries := by
    simp [readRunner, Run.result_bind, Run.ofExcept, Run.mapError, Run.report, hcontent, hextract,
      Except.bind, Run.mapError_ok, pure]
  refine ⟨output, ?_⟩
  simp [run, Run.result_bind, hrunner, hcollect, houtput, Except.bind, pure]

theorem run_unsized (fs : FileSystem) (root : String) (settings : Settings) :
    (∀ text, (run fs root settings).result ≠ .error (.sizedDimension text)) ∧
      (∀ content entries declarations,
        fs.read (settings.runnerFile root) = .ok content →
        (Registration.extract content settings.runner.pattern).result = .ok entries →
        ((settings.sourceScan root).collect fs).result = .ok declarations →
        ∃ output, (run fs root settings).result = .ok ⟨entries, declarations, output⟩) ∧
      (∀ text pattern entries, (Registration.extract text pattern).result = .ok entries →
        ∀ e ∈ entries.entries, e.2.IsUnsized) ∧
      ∀ text markers name d, (Exposure.collect text markers).result = .ok (name, d) →
        ∀ t ∈ d.types, t.IsUnsized := by
  refine ⟨?_, fun content entries declarations => run_ok, ?_, ?_⟩
  · intro text herror
    exact (meets_run fs root settings).error herror text rfl
  · intro text pattern entries hextract e he
    exact ((Registration.meets_extract text pattern).ok hextract e he).isUnsized
  · intro text markers name d hcollect t ht
    exact (((Exposure.meets_collect text markers).ok hcollect).2.types t ht).isUnsized

def runnerText : String :=
  "class AppRunner \x7b Api[] api; void initInterpreter() \x7b" ++
    " interp.addJavaObjectToJs(\"api\", api); \x7d \x7d"

def checkout : FileSystem where
  root := [("App.java", .file runnerText.toUTF8),
    ("api", .directory [("Api.java", .file "class Api \x7b @PhonkField int[] grid[]; \x7d".toUTF8)])]

def checkoutSettings : Settings where
  runner := { path := some "App.java" }
  api := { dir := some "api" }

theorem run_checkout :
    ∃ g, (run checkout "" checkoutSettings).result = .ok g ∧ g.entries.keys = ["api"] ∧
      g.declarations.keys = ["Api"] := by
  obtain ⟨-, hrun, -⟩ := run_unsized checkout "" checkoutSettings
  have hcontent : checkout.read (checkoutSettings.runnerFile "") = .ok runnerText :=
    eq_ok_of_toOption (by decide +kernel)
  obtain ⟨entries, hentries, hbound⟩ :
      ∃ entries, (Registration.extract runnerText checkoutSettings.runner.pattern).result =
        .ok entries ∧ entries.keys = ["api"] := exists_ok_of_toOption (by decide +kernel)
  obtain ⟨declarations, hdeclarations, hdeclared⟩ :
      ∃ declarations, ((checkoutSettings.sourceScan "").collect checkout).result =
        .ok declarations ∧ declarations.keys = ["Api"] := exists_ok_of_toOption (by decide +kernel)
  obtain ⟨output, houtput⟩ := hrun runnerText entries declarations hcontent hentries hdeclarations
  exact ⟨_, houtput, hbound, hdeclared⟩

end BridgeTypings.Generation
