import BridgeTypings.Generation
import BridgeTypings.Proofs.Exposure.Refusals
import BridgeTypings.Proofs.Scan.Resolution

namespace BridgeTypings

open Outcome

def Error.file? : Error → Option String
  | .read path _ => some path
  | .walk path _ => some path
  | .parse path => some path
  | .config path _ => some path
  | .noDeclaration path => some path
  | .unsupportedType path _ => some path
  | _ => none

def Error.Placed : Error → Prop
  | .parse path => path ≠ ""
  | .noDeclaration path => path ≠ ""
  | .unsupportedType path _ => path ≠ ""
  | _ => True

inductive Refused {α : Type} (content : Except ReadFailure String) (reader : String → Run α)
    (path : String) : Error → Prop
  | unreadable {cause : ReadFailure} :
      content = .error cause → Refused content reader path (.read path cause)
  | rejected {text : String} {e : Error} :
      content = .ok text → (reader text).result = .error e →
      Refused content reader path (e.inFile path)

theorem refused_iff {α β : Type} {content : Except ReadFailure String} {reader : String → Run α}
    {path : String} {rest : α → Run β} (hrest : ∀ a, ∃ b, (rest a).result = .ok b) {e : Error} :
    (Run.ofExcept (content.mapError (.read path)) >>= fun text =>
      (reader text).mapError (.inFile path) >>= rest).result = .error e ↔
      Refused content reader path e := by
  constructor
  · intro h
    rcases run_bind_eq_error.1 h with h | ⟨text, htext, h⟩
    · obtain ⟨cause, hcause, rfl⟩ := mapError_eq_error.1 h
      exact .unreadable hcause
    · rcases run_bind_eq_error.1 h with h | ⟨a, -, h⟩
      · obtain ⟨e', he', rfl⟩ := mapError_eq_error.1 h
        exact .rejected (mapError_eq_ok.1 htext) he'
      · obtain ⟨b, hb⟩ := hrest a
        rw [hb] at h
        cases h
  · intro h
    cases h with
    | unreadable hcause => exact run_bind_eq_error.2 (.inl (mapError_eq_error.2 ⟨_, hcause, rfl⟩))
    | rejected htext he =>
        refine run_bind_eq_error.2 (.inr ⟨_, mapError_eq_ok.2 htext, ?_⟩)
        exact run_bind_eq_error.2 (.inl (mapError_eq_error.2 ⟨_, he, rfl⟩))

theorem Error.placed_inFile {path : String} (h : path ≠ "") (e : Error) :
    (e.inFile path).Placed := by
  cases e <;> first | exact h | trivial

theorem Refused.placed {α : Type} {content : Except ReadFailure String} {reader : String → Run α}
    {path : String} {e : Error} (h : Refused content reader path e)
    (hpath : ∀ text, content = .ok text → path ≠ "") : e.Placed := by
  cases h with
  | unreadable _ => trivial
  | rejected htext _ => exact Error.placed_inFile (hpath _ htext) _

theorem Exposure.Refuses.file?_inFile {markers : Markers} {text : String} {e : Error}
    (h : Refuses markers text e) (path : String) : (e.inFile path).file? = some path := by
  cases h <;> rfl

namespace FileSystem

open FileTree

variable {fs : FileSystem}

mutual

theorem files_path_ne_empty (node : FileTree) {path : String} (h : path ≠ "") :
    ∀ file ∈ files path node, file.1 ≠ "" := by
  cases node with
  | file content => simpa [files] using h
  | link target => simp [files]
  | directory entries =>
      simp only [files, List.mem_flatMap, List.mem_mergeSort]
      rintro file ⟨group, hgroup, hfile⟩
      exact filesIn_path_ne_empty entries h group hgroup file hfile

theorem filesIn_path_ne_empty (entries : Entries) {path : String} (h : path ≠ "") :
    ∀ group ∈ filesIn path entries, ∀ file ∈ group.2, file.1 ≠ "" := by
  cases entries with
  | nil => simp [filesIn]
  | cons e rest =>
      obtain ⟨name, node⟩ := e
      rw [filesIn, List.forall_mem_cons]
      exact ⟨files_path_ne_empty node (Path.join_ne_empty h name), filesIn_path_ne_empty rest h⟩

end

theorem filesUnder_path_ne_empty {path : String} {files : List (String × ByteArray)}
    (h : fs.filesUnder path = .ok files) : ∀ file ∈ files, file.1 ≠ "" := by
  have hpath : path ≠ "" := by
    rintro rfl
    have herror : fs.filesUnder "" = .error (.walk "" .notFound) :=
      filesUnder_eq_error_iff.2 ⟨_, rfl, rfl⟩
    rw [herror] at h
    cases h
  unfold filesUnder at h
  split at h
  · cases h
  · split at h
    · cases h
    · cases h
      exact files_path_ne_empty _ hpath
    · cases h
      exact nofun
  · cases h
    exact files_path_ne_empty _ hpath

end FileSystem

namespace SourceScan

variable {scan : SourceScan}

def Refuses (scan : SourceScan) (file : String × ByteArray) : Error → Prop :=
  Refused (FileSystem.decode file.2) (Exposure.collect · scan.markers) file.1

def VisitsFirst (scan : SourceScan) (fs : FileSystem) (front : List (String × ByteArray)) : Prop :=
  ∃ files, fs.filesUnder scan.dir = .ok files ∧ front <+: files.filter scan.selects

theorem collectFile_eq_error_iff {file : String × ByteArray} {e : Error} :
    (scan.collectFile file.1 file.2).result = .error e ↔ scan.Refuses file e :=
  refused_iff fun item => ⟨item, rfl⟩

theorem Refuses.file? {file : String × ByteArray} {e : Error} (h : scan.Refuses file e) :
    e.file? = some file.1 := by
  cases h with
  | unreadable _ => rfl
  | rejected _ he => exact (Exposure.refuses_of_error he).file?_inFile file.1

theorem result_collectFiles_eq (acc : Declarations) (files : List (String × ByteArray)) :
    (scan.collectFiles acc files).result =
      (files.mapM (fun file => (scan.collectFile file.1 file.2).result) >>= fun items =>
        pure (acc.insertAll items)) := by
  induction files generalizing acc with
  | nil => rfl
  | cons file rest ih =>
      rw [collectFiles, Run.result_bind, OrderedMap.mapM_insertAll_cons]
      exact congrArg _ (funext fun item => ih _)

theorem result_collect_eq (fs : FileSystem) :
    (scan.collect fs).result =
      (fs.filesUnder scan.dir >>= fun files =>
        (files.filter scan.selects).mapM (fun file => (scan.collectFile file.1 file.2).result)
          >>= fun items => pure (.ofList items)) := by
  rw [collect, Run.result_bind]
  show (fs.filesUnder scan.dir).bind _ = (fs.filesUnder scan.dir).bind _
  cases fs.filesUnder scan.dir with
  | error e => rfl
  | ok files =>
      show (scan.collectFiles .empty (files.filter scan.selects) >>= _).result =
        ((files.filter scan.selects).mapM _ >>= _)
      rw [Run.result_bind, result_collectFiles_eq]
      cases (files.filter scan.selects).mapM
        (fun file => (scan.collectFile file.1 file.2).result) <;> rfl

theorem collect_eq_error_iff {fs : FileSystem} {e : Error} :
    (scan.collect fs).result = .error e ↔
      (∃ cause, fs.resolve true scan.dir = .error cause ∧ e = .walk scan.dir cause) ∨
        ∃ front file, scan.VisitsFirst fs (front ++ [file]) ∧
          (∀ f ∈ front, ∀ e', ¬ scan.Refuses f e') ∧ scan.Refuses file e := by
  rw [result_collect_eq, bind_eq_error, FileSystem.filesUnder_eq_error_iff]
  refine or_congr_right ?_
  constructor
  · rintro ⟨files, hfiles, h⟩
    rcases bind_eq_error.1 h with h | ⟨_, -, hpure⟩
    · obtain ⟨file, ⟨front, behind, hsplit, hfront, -⟩, hfile⟩ := mapM_eq_error_iff.1 h
      refine ⟨front, file, ⟨files, hfiles, behind, ?_⟩, ?_, collectFile_eq_error_iff.1 hfile⟩
      · rw [hsplit, List.append_assoc, List.singleton_append]
      · intro f hf e' he'
        exact hfront f hf ⟨e', collectFile_eq_error_iff.2 he'⟩
    · cases hpure
  · rintro ⟨front, file, ⟨files, hfiles, behind, hsplit⟩, hfront, hfile⟩
    have hfails := collectFile_eq_error_iff.2 hfile
    refine ⟨files, hfiles, bind_eq_error.2 (.inl (mapM_eq_error_iff.2 ⟨file, ?_, hfails⟩))⟩
    refine ⟨front, behind, ?_, ?_, e, hfails⟩
    · rw [← hsplit, List.append_assoc, List.singleton_append]
    · rintro f hf ⟨e', he'⟩
      exact hfront f hf e' (collectFile_eq_error_iff.1 he')

theorem VisitsFirst.path_ne_empty {fs : FileSystem} {front : List (String × ByteArray)}
    (h : scan.VisitsFirst fs front) : ∀ file ∈ front, file.1 ≠ "" := by
  obtain ⟨files, hfiles, hfront⟩ := h
  intro file hfile
  have hmem : file ∈ files := (List.mem_filter.1 (hfront.subset hfile)).1
  exact FileSystem.filesUnder_path_ne_empty hfiles file hmem

end SourceScan

end BridgeTypings
