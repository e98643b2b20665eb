import BridgeTypings.Proofs.Scan.Collection
import BridgeTypings.Proofs.Scan.Failures
import BridgeTypings.Proofs.Scan.Growth

namespace BridgeTypings

namespace FileTree

theorem beneath_injective (name : String) : Function.Injective (beneath name) := by
  rintro ⟨path, content⟩ ⟨path', content'⟩ h
  simpa [beneath] using h

theorem WellNamed.nodup_regularFiles {node : FileTree} (h : WellNamed node) :
    (regularFiles node).Nodup := by
  induction h with
  | file content => simp [regularFiles]
  | link target => simp [regularFiles]
  | directory distinct _ _ ih =>
      rw [regularFiles, regularFilesIn_eq_flatMap, List.nodup_flatMap]
      refine ⟨fun e he => (ih e he).map (beneath_injective e.1), ?_⟩
      refine (List.pairwise_map.1 distinct).imp fun {d e} hne f hf hf' => hne ?_
      obtain ⟨g, -, rfl⟩ := List.mem_map.1 hf
      obtain ⟨g', -, heq⟩ := List.mem_map.1 hf'
      exact (List.cons.inj (Prod.mk.inj heq).1).1.symm

end FileTree

namespace SourceScan

open FileTree FileSystem Outcome

variable {scan : SourceScan}

theorem nodup_sources {entries : Entries} (named : WellNamed (.directory entries)) :
    (scan.sources entries).Nodup :=
  (List.mergeSort_perm _ inOrder).nodup_iff.2 (named.nodup_regularFiles.filter _)

theorem sources_subset {es es' : Entries} (h : Grown (.directory es) (.directory es')) :
    ∀ f ∈ scan.sources es, f ∈ scan.sources es' := by
  intro f hf
  obtain ⟨hfile, hextension⟩ := scan.mem_sources.1 hf
  exact scan.mem_sources.2 ⟨h.regularFiles_subset f hfile, hextension⟩

open scoped Classical in
theorem sources_grown {es es' : Entries} (named : WellNamed (.directory es))
    (named' : WellNamed (.directory es')) (h : Grown (.directory es) (.directory es')) :
    (scan.sources es').filter (fun f => decide (f ∈ scan.sources es)) = scan.sources es := by
  refine named.eq_sorted (fun f hf => (List.mem_filter.1 hf).1) ?_ ((pairwise_sorted _).filter _)
  refine List.Perm.trans ?_ (List.mergeSort_perm _ inOrder)
  refine (List.perm_ext_iff_of_nodup ((nodup_sources named').filter _) (nodup_sources named)).2 ?_
  intro f
  simpa using sources_subset h f

def AddsFresh (scan : SourceScan) (fs fs' : FileSystem) : Prop :=
  ∀ es es', fs.resolve true scan.dir = .ok (.directory es) →
    fs'.resolve true scan.dir = .ok (.directory es') →
    ∀ f ∈ scan.sources es', f ∉ scan.sources es → ∀ g ∈ scan.sources es', g ≠ f →
      ∀ a b, scan.declared? f = some a → scan.declared? g = some b → a.1 ≠ b.1

theorem collect_eq_ofList {fs : FileSystem} {entries : Entries} {declarations : Declarations}
    (named : WellNamed (.directory fs.root))
    (start : fs.resolve true scan.dir = .ok (.directory entries))
    (h : (scan.collect fs).result = .ok declarations) :
    declarations = .ofList ((scan.sources entries).filterMap scan.declared?) := by
  have hcollects : ∀ f ∈ scan.sources entries, (scan.declared? f).isSome := by
    intro f hf
    have hresult := h
    rw [result_collect_eq, filesUnder_directory start] at hresult
    obtain ⟨files, hfiles, hresult⟩ := bind_eq_ok.1 hresult
    cases hfiles
    rw [scan.filter_files (wellNamed_of_resolve named start)] at hresult
    obtain ⟨items, hitems, -⟩ := bind_eq_ok.1 hresult
    obtain ⟨item, -, hitem⟩ :=
      exists_of_mem_left (forall₂_of_mapM_ok hitems) (List.mem_map_of_mem hf)
    exact Option.isSome_iff_exists.2 ⟨item, scan.declared?_of_collectFile hitem⟩
  rw [scan.result_collect named start hcollects] at h
  exact (Except.ok.inj h).symm

theorem filterMap_filter_eq {α β : Type} {f : α → Option β} {p : α → Bool} {q : β → Bool}
    {l : List α} (h : ∀ a ∈ l, ∀ b, f a = some b → q b = p a) :
    (l.filterMap f).filter q = (l.filter p).filterMap f := by
  rw [List.filter_filterMap, List.filterMap_filter]
  refine List.filterMap_congr fun a ha => ?_
  cases hb : f a with
  | none => simp
  | some b => simp [Option.filter, h a ha b hb]

theorem contains_declared {fs fs' : FileSystem} {es es' : Entries}
    (hfresh : scan.AddsFresh fs fs') (start : fs.resolve true scan.dir = .ok (.directory es))
    (start' : fs'.resolve true scan.dir = .ok (.directory es'))
    (hes : Grown (.directory es) (.directory es')) {f : Located} (hf : f ∈ scan.sources es')
    {item : String × Declaration} (hitem : scan.declared? f = some item) :
    (OrderedMap.ofList ((scan.sources es).filterMap scan.declared?)).contains item.1 = true ↔
      f ∈ scan.sources es := by
  rw [OrderedMap.contains_ofList]
  constructor
  · rintro ⟨other, hother, hname⟩
    obtain ⟨g, hg, hdeclared⟩ := List.mem_filterMap.1 hother
    by_contra hnew
    have hne : g ≠ f := by
      rintro rfl
      exact hnew hg
    exact hfresh es es' start start' f hf hnew g (sources_subset hes g hg) hne item other hitem
      hdeclared hname.symm
  · intro hold
    exact ⟨item, List.mem_filterMap.2 ⟨f, hold, hitem⟩, rfl⟩

theorem collect_grown {fs fs' : FileSystem} {declarations declarations' : Declarations}
    (hgrown : fs.Grown fs') (named : WellNamed (.directory fs.root))
    (named' : WellNamed (.directory fs'.root)) (hfresh : scan.AddsFresh fs fs')
    (h : (scan.collect fs).result = .ok declarations)
    (h' : (scan.collect fs').result = .ok declarations') :
    declarations'.restrict declarations.contains = declarations := by
  classical
  obtain ⟨files, hfiles, -⟩ := bind_eq_ok.1 (scan.result_collect_eq fs ▸ h)
  rcases hgrown.filesUnder named' hfiles with hsame | ⟨es, es', start, start', hes⟩
  · rw [result_collect_eq, hfiles] at h
    rw [result_collect_eq, hsame, h] at h'
    cases h'
    exact declarations.restrict_contains
  · rw [collect_eq_ofList named start h, collect_eq_ofList named' start' h',
      OrderedMap.restrict_ofList]
    refine congrArg OrderedMap.ofList ?_
    conv_rhs => rw [← sources_grown (wellNamed_of_resolve named start)
      (wellNamed_of_resolve named' start') hes]
    refine filterMap_filter_eq fun f hf item hitem => ?_
    rw [Bool.eq_iff_iff, decide_eq_true_eq]
    exact contains_declared hfresh start start' hes hf hitem

end SourceScan

end BridgeTypings
