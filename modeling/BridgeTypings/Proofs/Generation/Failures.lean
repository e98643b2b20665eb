import BridgeTypings.Proofs.Generation
import BridgeTypings.Proofs.Registration
import BridgeTypings.Proofs.Scan.Collection
import BridgeTypings.Proofs.Scan.Failures

namespace BridgeTypings

open Java Outcome

namespace Registration

theorem file?_inFile_of_extract {text : String} {pattern : RegistrationPattern} {e : Error}
    (h : (extract text pattern).result = .error e) (path : String) :
    ∀ p ∈ (e.inFile path).file?, p = path := by
  cases hparse : Source.parse text with
  | none =>
      unfold extract at h
      simp only [hparse] at h
      cases h
      simp [Error.inFile, Error.file?]
  | some source =>
      obtain ⟨r, hr⟩ := exists_extracts pattern source
      rw [result_of_extracts hparse hr] at h
      subst h
      cases hr <;> simp [Error.inFile, Error.file?]

end Registration

namespace Generation

variable {fs : FileSystem} {root : String} {settings : Settings} {e : Error}

def RunnerRefused (fs : FileSystem) (root : String) (settings : Settings) : Error → Prop :=
  Refused (fs.read (settings.runnerFile root)) (Registration.extract · settings.runner.pattern)
    (settings.runnerFile root)

structure StartMissing (fs : FileSystem) (root : String) (settings : Settings) (e : Error) :
    Prop where
  runner : ∀ e', ¬ RunnerRefused fs root settings e'
  cause : ∃ cause, fs.resolve true (settings.sourceScan root).dir = .error cause ∧
    e = .walk (settings.sourceScan root).dir cause

structure SourceRefused (fs : FileSystem) (root : String) (settings : Settings)
    (front : List (String × ByteArray)) (file : String × ByteArray) (e : Error) : Prop where
  runner : ∀ e', ¬ RunnerRefused fs root settings e'
  visited : (settings.sourceScan root).VisitsFirst fs (front ++ [file])
  accepted : ∀ f ∈ front, ∀ e', ¬ (settings.sourceScan root).Refuses f e'
  refused : (settings.sourceScan root).Refuses file e

theorem readRunner_eq_error_iff :
    (readRunner fs (settings.runnerFile root) settings.runner.pattern).result = .error e ↔
      RunnerRefused fs root settings e := by
  rw [readRunner, Run.result_bind]
  exact refused_iff fun entries => ⟨entries, rfl⟩

theorem run_eq_error_iff_stages :
    (run fs root settings).result = .error e ↔ RunnerRefused fs root settings e ∨
      (∀ e', ¬ RunnerRefused fs root settings e') ∧
        ((settings.sourceScan root).collect fs).result = .error e := by
  rw [← readRunner_eq_error_iff, run, Run.result_bind]
  simp only [← readRunner_eq_error_iff]
  cases hentries : (readRunner fs (settings.runnerFile root) settings.runner.pattern).result with
  | error e' => simp [Except.bind]
  | ok entries =>
      show (((settings.sourceScan root).collect fs) >>= _).result = _ ↔ _
      rw [Run.result_bind]
      cases hdeclarations : ((settings.sourceScan root).collect fs).result with
      | error e' => simp [Except.bind]
      | ok declarations =>
          have hread := (meets_readRunner fs _ _).ok hentries
          have hcollected := ((settings.sourceScan root).meets_collect fs).ok hdeclarations
          obtain ⟨output, houtput⟩ := emit_ok_of_read settings.renderer hread
            fun e he => (hcollected e he).2
          simp [Except.bind, Run.result_bind, houtput, pure]

theorem run_eq_error_iff :
    (run fs root settings).result = .error e ↔ RunnerRefused fs root settings e ∨
      StartMissing fs root settings e ∨
      ∃ front file, SourceRefused fs root settings front file e := by
  rw [run_eq_error_iff_stages, SourceScan.collect_eq_error_iff]
  refine or_congr_right ?_
  constructor
  · rintro ⟨hrunner, hcause | ⟨front, file, hvisited, hfront, hfile⟩⟩
    · exact .inl ⟨hrunner, hcause⟩
    · exact .inr ⟨front, file, hrunner, hvisited, hfront, hfile⟩
  · rintro (⟨hrunner, hcause⟩ | ⟨front, file, hrunner, hvisited, hfront, hfile⟩)
    · exact ⟨hrunner, .inl hcause⟩
    · exact ⟨hrunner, .inr ⟨front, file, hvisited, hfront, hfile⟩⟩

theorem RunnerRefused.located (h : RunnerRefused fs root settings e) :
    ∀ path ∈ e.file?, path = settings.runnerFile root := by
  cases h with
  | unreadable _ => simp [Error.file?]
  | rejected _ he => exact Registration.file?_inFile_of_extract he _

theorem RunnerRefused.placed (h : RunnerRefused fs root settings e) : e.Placed := by
  refine Refused.placed h fun text htext hpath => ?_
  rw [hpath] at htext
  cases htext

theorem SourceRefused.placed {front : List (String × ByteArray)} {file : String × ByteArray}
    (h : SourceRefused fs root settings front file e) : e.Placed :=
  h.refused.placed fun _ _ => h.visited.path_ne_empty file (by simp)

theorem placed_of_run (h : (run fs root settings).result = .error e) : e.Placed := by
  rcases run_eq_error_iff.1 h with hrunner | ⟨-, cause, -, rfl⟩ | ⟨front, file, hsource⟩
  · exact hrunner.placed
  · trivial
  · exact hsource.placed

theorem run_fails_iff (fs : FileSystem) (root : String) (settings : Settings) (e : Error) :
    ((run fs root settings).result = .error e ↔ RunnerRefused fs root settings e ∨
      StartMissing fs root settings e ∨
      ∃ front file, SourceRefused fs root settings front file e) ∧
    (RunnerRefused fs root settings e →
      (∀ path ∈ e.file?, path = settings.runnerFile root) ∧
      ∀ fs', fs'.read (settings.runnerFile root) = fs.read (settings.runnerFile root) →
        (run fs' root settings).result = .error e) ∧
    (∀ front file, SourceRefused fs root settings front file e → e.file? = some file.1 ∧
      ∀ fs', (∀ e', ¬ RunnerRefused fs' root settings e') →
        (settings.sourceScan root).VisitsFirst fs' (front ++ [file]) →
        (run fs' root settings).result = .error e) ∧
    ((run fs root settings).result = .error e → e.Placed) := by
  refine ⟨run_eq_error_iff, fun hrefused => ⟨hrefused.located, fun fs' hread => ?_⟩,
    fun front file hsource => ⟨hsource.refused.file?, fun fs' hrunner hvisited => ?_⟩,
    placed_of_run⟩
  · refine run_eq_error_iff.2 (.inl ?_)
    rw [RunnerRefused, hread]
    exact hrefused
  · refine run_eq_error_iff.2 (.inr (.inr ⟨front, file, ?_⟩))
    exact ⟨hrunner, hvisited, hsource.accepted, hsource.refused⟩

def brokenSources : FileTree.Entries :=
  [("C.java", .file ⟨#[255]⟩), ("B.java", .file "import b;".toUTF8),
    ("A.java", .file "class A \x7b\x7d".toUTF8)]

def brokenCheckout : FileSystem where
  root := [("R.java", .file "class R \x7b void m() \x7b\x7d \x7d".toUTF8),
    ("api", .directory brokenSources)]

def brokenSettings : Settings where
  runner := { path := some "R.java", className := some "R", initMethod := some "m" }
  api := { dir := some "api" }

theorem visitsFirst_broken : (brokenSettings.sourceScan "").VisitsFirst brokenCheckout
    ([("api/A.java", "class A \x7b\x7d".toUTF8)] ++ [("api/B.java", "import b;".toUTF8)]) := by
  have hBC : FileSystem.nameLE "C.java" "B.java" = false := by
    simp only [FileSystem.nameLE, FileSystem.toList_eq_data]
    decide
  have hAB : FileSystem.nameLE "B.java" "A.java" = false := by
    simp only [FileSystem.nameLE, FileSystem.toList_eq_data]
    decide
  have hsorted : brokenSources.mergeSort (fun d e => FileSystem.nameLE d.1 e.1) =
      brokenSources.reverse := by
    simp [brokenSources, List.mergeSort, List.MergeSort.Internal.splitInTwo, hBC, hAB]
  have hstart : brokenCheckout.resolve true (brokenSettings.sourceScan "").dir =
      .ok (.directory brokenSources) := rfl
  refine ⟨_, FileSystem.filesUnder_directory hstart, [("api/C.java", ⟨#[255]⟩)], ?_⟩
  rw [FileSystem.files_directory, hsorted]
  decide +kernel

theorem sourceRefused_broken : SourceRefused brokenCheckout "" brokenSettings
    [("api/A.java", "class A \x7b\x7d".toUTF8)] ("api/B.java", "import b;".toUTF8)
    (.noDeclaration "api/B.java") where
  runner := by
    obtain ⟨entries, hentries, -⟩ : ∃ entries, (readRunner brokenCheckout
        (brokenSettings.runnerFile "") brokenSettings.runner.pattern).result = .ok entries ∧
        entries.keys = [] := exists_ok_of_toOption (by decide +kernel)
    intro e
    rw [← readRunner_eq_error_iff, hentries]
    exact nofun
  visited := visitsFirst_broken
  accepted := by
    obtain ⟨item, hitem, -⟩ : ∃ item, ((brokenSettings.sourceScan "").collectFile "api/A.java"
        "class A \x7b\x7d".toUTF8).result = .ok item ∧ item.1 = "A" :=
      exists_ok_of_toOption (by decide +kernel)
    intro f hf e
    rw [List.mem_singleton.1 hf, ← SourceScan.collectFile_eq_error_iff, hitem]
    exact nofun
  refused := SourceScan.collectFile_eq_error_iff.1 (eq_error_of_failure? (by decide +kernel))

theorem run_fails_firstSource :
    (run brokenCheckout "" brokenSettings).result = .error (.noDeclaration "api/B.java") ∧
      ∀ fs', fs'.read "R.java" = brokenCheckout.read "R.java" →
        (brokenSettings.sourceScan "").VisitsFirst fs'
          ([("api/A.java", "class A \x7b\x7d".toUTF8)] ++ [("api/B.java", "import b;".toUTF8)]) →
        (run fs' "" brokenSettings).result = .error (.noDeclaration "api/B.java") := by
  obtain ⟨hfails, -, hsource, -⟩ :=
    run_fails_iff brokenCheckout "" brokenSettings (.noDeclaration "api/B.java")
  obtain ⟨-, hdecides⟩ := hsource _ _ sourceRefused_broken
  refine ⟨hfails.2 (.inr (.inr ⟨_, _, sourceRefused_broken⟩)), fun fs' hread hvisited => ?_⟩
  have hrunner : ∀ e, ¬ RunnerRefused fs' "" brokenSettings e := by
    intro e he
    have hpath : brokenSettings.runnerFile "" = "R.java" := rfl
    refine sourceRefused_broken.runner e ?_
    rw [RunnerRefused, hpath] at he ⊢
    rwa [hread] at he
  exact hdecides fs' hrunner hvisited

end Generation

end BridgeTypings
