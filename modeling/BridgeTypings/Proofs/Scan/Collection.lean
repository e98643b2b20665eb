import BridgeTypings.Generation
import BridgeTypings.Proofs.OrderedMap
import BridgeTypings.Proofs.Outcome
import BridgeTypings.Proofs.Scan.Resolution

namespace BridgeTypings

namespace FileTree

def hasExtension (extension : String) (file : Located) : Bool :=
  file.1.getLast?.bind Path.nameExtension? == some extension

theorem mem_regularFiles_named {node : FileTree} (named : WellNamed node) :
    ∀ f ∈ regularFiles node, ∀ name ∈ f.1, Path.IsEntryName name := by
  induction named with
  | file content => simp [regularFiles]
  | link target => simp [regularFiles]
  | directory _ entryNamed _ ih =>
      intro f hf name hname
      obtain ⟨e, he, g, hg, rfl⟩ := mem_regularFilesIn.1 hf
      rcases List.mem_cons.1 hname with rfl | hname
      · exact entryNamed e he
      · exact ih e he g hg name hname

theorem path_ne_nil {entries : Entries} {f : Located} (hf : f ∈ regularFilesIn entries) :
    f.1 ≠ [] := by
  obtain ⟨e, _, g, _, rfl⟩ := mem_regularFilesIn.1 hf
  simp [beneath]

end FileTree

namespace FileSystem

open FileTree

theorem extension?_locate {entries : Entries} (named : WellNamed (.directory entries))
    {f : Located} (hf : f ∈ regularFilesIn entries) (path : String) :
    Path.extension? (locate path f).1 = f.1.getLast?.bind Path.nameExtension? := by
  obtain ⟨front, name, hsplit⟩ :=
    List.eq_nil_or_concat f.1 |>.resolve_left (path_ne_nil hf)
  have hname : Path.IsEntryName name :=
    mem_regularFiles_named named f hf name (by simp [hsplit])
  simp [locate, hsplit, Path.extension?_join _ hname]

end FileSystem

namespace SourceScan

open FileTree FileSystem Outcome

variable (scan : SourceScan)

def sources (entries : Entries) : List Located :=
  ((regularFilesIn entries).filter (hasExtension scan.extension)).mergeSort inOrder

def declared? (file : Located) : Option (String × Declaration) :=
  match decode file.2 with
  | .error _ => none
  | .ok text => (Exposure.collect text scan.markers).result.toOption

theorem result_collectFile {path : String} {file : Located} {item : String × Declaration}
    (h : scan.declared? file = some item) :
    (scan.collectFile path file.2).result = .ok item := by
  unfold declared? at h
  cases htext : decode file.2 with
  | error cause => simp [htext] at h
  | ok text =>
      simp only [htext] at h
      cases hcollect : (Exposure.collect text scan.markers).result with
      | error e => simp [hcollect, Except.toOption] at h
      | ok found =>
          have hitem : found = item := by simpa [hcollect, Except.toOption] using h
          simp [collectFile, Run.result_bind, Run.ofExcept, Run.mapError, Run.report, htext,
            hcollect, hitem, Run.mapError_ok, Except.bind, pure]

theorem collect_of_collectFile {path : String} {content : ByteArray} {item : String × Declaration}
    (h : (scan.collectFile path content).result = .ok item) :
    ∃ text, decode content = .ok text ∧
      (Exposure.collect text scan.markers).result = .ok item := by
  obtain ⟨text, htext, h⟩ := run_bind_eq_ok.1 h
  obtain ⟨⟨name, d⟩, hcollect, h⟩ := run_bind_eq_ok.1 h
  obtain ⟨_, -, heq⟩ := run_bind_eq_ok.1 h
  cases heq
  exact ⟨text, mapError_eq_ok.1 htext, mapError_eq_ok.1 hcollect⟩

theorem declared?_of_collectFile {path : String} {file : Located} {item : String × Declaration}
    (h : (scan.collectFile path file.2).result = .ok item) : scan.declared? file = some item := by
  obtain ⟨text, htext, hcollect⟩ := scan.collect_of_collectFile h
  simp [declared?, htext, hcollect, Except.toOption]

theorem result_collectFiles (path : String) {files : List Located}
    (h : ∀ f ∈ files, (scan.declared? f).isSome) (acc : Declarations) :
    (scan.collectFiles acc (files.map (locate path))).result =
      .ok (acc.insertAll (files.filterMap scan.declared?)) := by
  induction files generalizing acc with
  | nil => rfl
  | cons f rest ih =>
      obtain ⟨item, hitem⟩ := Option.isSome_iff_exists.1 (h f List.mem_cons_self)
      have hrest : ∀ g ∈ rest, (scan.declared? g).isSome := fun g hg =>
        h g (List.mem_cons_of_mem _ hg)
      have hfile : (scan.collectFile (locate path f).1 f.2).result = .ok item :=
        scan.result_collectFile hitem
      simp only [List.map_cons, collectFiles, Run.result_bind, locate] at hfile ⊢
      rw [hfile, List.filterMap_cons_some hitem]
      exact ih hrest _

theorem selects_locate {entries : Entries} (named : WellNamed (.directory entries)) {f : Located}
    (hf : f ∈ regularFilesIn entries) (path : String) :
    scan.selects (locate path f) = hasExtension scan.extension f := by
  simp only [selects, hasExtension, extension?_locate named hf]

theorem mem_sources {entries : Entries} {f : Located} :
    f ∈ scan.sources entries ↔
      f ∈ regularFilesIn entries ∧ hasExtension scan.extension f = true := by
  simp [sources]

theorem filter_files {entries : Entries} (named : WellNamed (.directory entries)) (path : String) :
    (files path (.directory entries)).filter scan.selects =
      (scan.sources entries).map (locate path) := by
  have hsorted : ((regularFilesIn entries).mergeSort inOrder).filter
      (hasExtension scan.extension) = scan.sources entries := by
    refine named.eq_sorted (fun f hf => (List.mem_filter.1 hf).1) ?_ ?_
    · exact (List.mergeSort_perm _ inOrder).filter _
    · exact (pairwise_sorted _).filter _
  rw [files_eq_sorted named, regularFiles, List.filter_map, ← hsorted]
  refine congrArg _ (List.filter_congr fun f hf => ?_)
  exact scan.selects_locate named (List.mem_mergeSort.1 hf) path

theorem result_collect {fs : FileSystem} {entries : Entries}
    (named : WellNamed (.directory fs.root))
    (start : fs.resolve true scan.dir = .ok (.directory entries))
    (collects : ∀ f ∈ scan.sources entries, (scan.declared? f).isSome) :
    (scan.collect fs).result = .ok (.ofList ((scan.sources entries).filterMap scan.declared?)) := by
  have hfiles := scan.filter_files (wellNamed_of_resolve named start) scan.dir
  have hresult := scan.result_collectFiles scan.dir collects .empty
  simp [collect, Run.result_bind, Run.ofExcept, Run.report, filesUnder_directory start, hfiles,
    hresult, Except.bind, pure, OrderedMap.ofList]

theorem sources_of_perm {entries entries' : Entries} (named : WellNamed (.directory entries))
    (h : ((regularFilesIn entries').filter (hasExtension scan.extension)).Perm
      ((regularFilesIn entries).filter (hasExtension scan.extension))) :
    scan.sources entries' = scan.sources entries := by
  refine named.eq_sorted (fun f hf => (List.mem_filter.1 hf).1) ?_ (pairwise_sorted _)
  exact (List.mergeSort_perm _ inOrder).trans h

theorem collect_reordered {fs fs' : FileSystem} (h : fs.Reordered fs')
    (named : WellNamed (.directory fs.root)) : scan.collect fs' = scan.collect fs := by
  simp only [collect, h.filesUnder named]

theorem collect_of_sources {fs : FileSystem} {entries : Entries}
    (named : WellNamed (.directory fs.root))
    (start : fs.resolve true scan.dir = .ok (.directory entries))
    (collects : ∀ f ∈ regularFilesIn entries, hasExtension scan.extension f = true →
      (scan.declared? f).isSome) :
    ∃ declarations, (scan.collect fs).result = .ok declarations ∧
      declarations.keys =
        (((scan.sources entries).filterMap scan.declared?).map Prod.fst).eraseDups ∧
      (∀ name, declarations.get? name =
        ((scan.sources entries).filterMap scan.declared?).reverse.lookup name) ∧
      (∀ fs', fs.Reordered fs' → (scan.collect fs').result = .ok declarations) ∧
      ∀ fs' entries', WellNamed (.directory fs'.root) →
        fs'.resolve true scan.dir = .ok (.directory entries') →
        ((regularFilesIn entries').filter (hasExtension scan.extension)).Perm
          ((regularFilesIn entries).filter (hasExtension scan.extension)) →
        (scan.collect fs').result = .ok declarations := by
  have hcollects : ∀ f ∈ scan.sources entries, (scan.declared? f).isSome := by
    intro f hf
    obtain ⟨hfile, hextension⟩ := scan.mem_sources.1 hf
    exact collects f hfile hextension
  have hresult := scan.result_collect named start hcollects
  refine ⟨_, hresult, OrderedMap.keys_ofList _, OrderedMap.get?_ofList _, ?_, ?_⟩
  · intro fs' hreordered
    rw [scan.collect_reordered hreordered named, hresult]
  · intro fs' entries' named' start' hperm
    have hsources := scan.sources_of_perm (wellNamed_of_resolve named start) hperm
    rw [scan.result_collect named' start' (hsources ▸ hcollects), hsources]

def sampleEntries : Entries :=
  [("PA.java", .file "class P {}".toUTF8), ("PB.java", .link "PA.java"),
    ("PA", .directory [("Q.java", .file "interface Q {}".toUTF8),
      ("P.java", .file "interface P {}".toUTF8)]),
    ("notes.txt", .file "-".toUTF8)]

def sampleFiles : FileSystem :=
  ⟨[("api", .directory sampleEntries)], []⟩

def sampleScan : SourceScan :=
  ⟨"api", "java", {}⟩

theorem sampleFiles_wellNamed : WellNamed (.directory sampleFiles.root) := by
  simp only [sampleFiles, sampleEntries, wellNamed_cons]
  refine ⟨⟨by decide, Path.isEntryName (by decide), ?_⟩, wellNamed_nil⟩
  refine ⟨⟨by decide, Path.isEntryName (by decide), .file _⟩,
    ⟨by decide, Path.isEntryName (by decide), .link _⟩,
    ⟨by decide, Path.isEntryName (by decide), ?_⟩,
    ⟨by decide, Path.isEntryName (by decide), .file _⟩, wellNamed_nil⟩
  exact ⟨⟨by decide, Path.isEntryName (by decide), .file _⟩,
    ⟨by decide, Path.isEntryName (by decide), .file _⟩, wellNamed_nil⟩

theorem sampleScan_sources : sampleScan.sources sampleEntries =
    [(["PA", "P.java"], "interface P {}".toUTF8), (["PA", "Q.java"], "interface Q {}".toUTF8),
      (["PA.java"], "class P {}".toUTF8)] := by
  have hstart : sampleFiles.resolve true "api" = .ok (.directory sampleEntries) := rfl
  have hnamed := wellNamed_of_resolve sampleFiles_wellNamed hstart
  have hfiles : nameLE "P.java" "Q.java" = true := by
    simp only [nameLE, toList_eq_data]
    decide
  have hdirectory : nameLE "PA" "PA.java" = true := by
    simp only [nameLE, toList_eq_data]
    decide
  refine (hnamed.eq_sorted (fun f hf => (List.mem_filter.1 hf).1) ?_ ?_).symm
  · decide +kernel
  · simp [inOrder, pathLE, hfiles, hdirectory]

theorem collect_sampleFiles :
    ∃ declarations, (sampleScan.collect sampleFiles).result = .ok declarations ∧
      declarations.keys = ["P", "Q"] ∧
      (declarations.get? "P").map (fun d => d.kind.keyword) = some "class" := by
  have hstart : sampleFiles.resolve true sampleScan.dir = .ok (.directory sampleEntries) := rfl
  obtain ⟨declarations, hresult, hkeys, hget, -⟩ := sampleScan.collect_of_sources
    sampleFiles_wellNamed hstart (by decide +kernel)
  refine ⟨declarations, hresult, ?_, ?_⟩
  · rw [hkeys, sampleScan_sources]
    decide +kernel
  · rw [hget, sampleScan_sources]
    decide +kernel

end SourceScan

end BridgeTypings
