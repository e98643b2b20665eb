import BridgeTypings.FileTree
import BridgeTypings.Proofs.Path
import Mathlib.Data.List.Perm.Basic
import Mathlib.Data.List.Sort

namespace BridgeTypings

namespace FileSystem

theorem toList_loop_eq (bytes : ByteArray) (i : Nat) (front : List UInt8) :
    ByteArray.toList.loop bytes i front = front.reverse ++ bytes.data.toList.drop i := by
  fun_induction ByteArray.toList.loop bytes i front with
  | case1 i front h ih =>
      have hi : i < bytes.data.toList.length := by simpa using h
      have hbyte : bytes.get! i = bytes.data.toList[i] := getElem!_pos bytes.data i h
      rw [ih, List.drop_eq_getElem_cons hi, hbyte]
      simp
  | case2 i front h =>
      have hi : bytes.data.toList.length ≤ i := by simpa using h
      simp [List.drop_eq_nil_of_le hi]

theorem toList_eq_data (bytes : ByteArray) : bytes.toList = bytes.data.toList := by
  simp [ByteArray.toList, toList_loop_eq]

theorem toUTF8_toList_injective {a b : String} (h : a.toUTF8.toList = b.toUTF8.toList) : a = b := by
  rw [toList_eq_data, toList_eq_data] at h
  have hdata : a.toUTF8.data = b.toUTF8.data := Array.toList_inj.1 h
  exact String.toByteArray_inj.1 (ByteArray.ext hdata)

theorem nameLE_total (a b : String) : (nameLE a b || nameLE b a) = true := by
  simp only [nameLE, Bool.or_eq_true, decide_eq_true_eq]
  exact List.le_total _ _

theorem nameLE_trans {a b c : String} (hab : nameLE a b = true) (hbc : nameLE b c = true) :
    nameLE a c = true := by
  simp only [nameLE, decide_eq_true_eq] at *
  exact List.le_trans hab hbc

theorem nameLE_antisymm {a b : String} (hab : nameLE a b = true) (hba : nameLE b a = true) :
    a = b := by
  simp only [nameLE, decide_eq_true_eq] at hab hba
  exact toUTF8_toList_injective (List.le_antisymm hab hba)

end FileSystem

namespace FileTree

open FileSystem

abbrev Located := List String × ByteArray

def beneath (name : String) (file : Located) : Located :=
  (name :: file.1, file.2)

mutual

def regularFiles : FileTree → List Located
  | .file content => [([], content)]
  | .link _ => []
  | .directory entries => regularFilesIn entries

def regularFilesIn : Entries → List Located
  | [] => []
  | (name, node) :: rest => (regularFiles node).map (beneath name) ++ regularFilesIn rest

end

def pathLE : List String → List String → Bool
  | [], _ => true
  | _ :: _, [] => false
  | a :: as, b :: bs => if a = b then pathLE as bs else nameLE a b

def inOrder (a b : Located) : Bool :=
  pathLE a.1 b.1

inductive WellNamed : FileTree → Prop
  | file (content : ByteArray) : WellNamed (.file content)
  | link (target : String) : WellNamed (.link target)
  | directory {entries : Entries} (distinct : (entries.map Prod.fst).Nodup)
      (named : ∀ e ∈ entries, Path.IsEntryName e.1) (below : ∀ e ∈ entries, WellNamed e.2) :
      WellNamed (.directory entries)

theorem pathLE_total (as bs : List String) : (pathLE as bs || pathLE bs as) = true := by
  induction as generalizing bs with
  | nil => simp [pathLE]
  | cons a as ih =>
      cases bs with
      | nil => simp [pathLE]
      | cons b bs =>
          by_cases h : a = b
          · simpa [pathLE, h] using ih bs
          · have h' : ¬ b = a := fun he => h he.symm
            simpa [pathLE, h, h'] using nameLE_total a b

theorem pathLE_trans {as bs cs : List String} (hab : pathLE as bs = true)
    (hbc : pathLE bs cs = true) : pathLE as cs = true := by
  induction as generalizing bs cs with
  | nil => simp [pathLE]
  | cons a as ih =>
      cases bs with
      | nil => simp [pathLE] at hab
      | cons b bs =>
          cases cs with
          | nil => simp [pathLE] at hbc
          | cons c cs =>
              simp only [pathLE] at hab hbc ⊢
              split at hab
              · next hab' =>
                  subst hab'
                  split at hbc
                  · next hbc' => simpa [hbc'] using ih hab hbc
                  · next hbc' => simpa [hbc'] using hbc
              · next hab' =>
                  split at hbc
                  · next hbc' => subst hbc'; simpa [hab'] using hab
                  · have hac : a ≠ c := by
                      rintro rfl
                      exact hab' (nameLE_antisymm hab hbc)
                    simpa [hac] using nameLE_trans hab hbc

theorem pathLE_antisymm {as bs : List String} (hab : pathLE as bs = true)
    (hba : pathLE bs as = true) : as = bs := by
  induction as generalizing bs with
  | nil =>
      cases bs with
      | nil => rfl
      | cons b bs => simp [pathLE] at hba
  | cons a as ih =>
      cases bs with
      | nil => simp [pathLE] at hab
      | cons b bs =>
          by_cases h : a = b
          · subst h
            simp only [pathLE, if_true] at hab hba
            rw [ih hab hba]
          · have h' : ¬ b = a := fun he => h he.symm
            simp only [pathLE, h, h', if_false] at hab hba
            exact absurd (nameLE_antisymm hab hba) h

theorem regularFilesIn_eq_flatMap (entries : Entries) :
    regularFilesIn entries = entries.flatMap (fun e => (regularFiles e.2).map (beneath e.1)) := by
  induction entries with
  | nil => rfl
  | cons e rest ih => simp [regularFilesIn, ih]

theorem mem_regularFilesIn {entries : Entries} {f : Located} :
    f ∈ regularFilesIn entries ↔
      ∃ e ∈ entries, ∃ g ∈ regularFiles e.2, beneath e.1 g = f := by
  simp [regularFilesIn_eq_flatMap]

theorem WellNamed.eq_of_path_eq {node : FileTree} (h : WellNamed node) :
    ∀ f ∈ regularFiles node, ∀ g ∈ regularFiles node, f.1 = g.1 → f = g := by
  induction h with
  | file content => simp [regularFiles]
  | link target => simp [regularFiles]
  | directory distinct _ _ ih =>
      intro f hf g hg hpath
      obtain ⟨d, hd, f', hf', rfl⟩ := mem_regularFilesIn.1 hf
      obtain ⟨e, he, g', hg', rfl⟩ := mem_regularFilesIn.1 hg
      simp only [beneath, List.cons.injEq] at hpath
      have hde : d = e := List.inj_on_of_nodup_map distinct hd he hpath.1
      subst hde
      rw [ih d hd f' hf' g' hg' hpath.2]

theorem WellNamed.eq_of_inOrder {node : FileTree} (h : WellNamed node) {f g : Located}
    (hf : f ∈ regularFiles node) (hg : g ∈ regularFiles node) (hfg : inOrder f g = true)
    (hgf : inOrder g f = true) : f = g :=
  h.eq_of_path_eq f hf g hg (pathLE_antisymm hfg hgf)

theorem inOrder_trans {f g h : Located} (hfg : inOrder f g = true) (hgh : inOrder g h = true) :
    inOrder f h = true :=
  pathLE_trans hfg hgh

theorem pairwise_sorted (files : List Located) :
    (files.mergeSort inOrder).Pairwise (fun f g => inOrder f g = true) :=
  @List.pairwise_mergeSort _ inOrder (fun _ _ _ => inOrder_trans)
    (fun f g => pathLE_total f.1 g.1) files

theorem WellNamed.eq_sorted {node : FileTree} (h : WellNamed node) {files sorted : List Located}
    (hsub : ∀ f ∈ files, f ∈ regularFiles node) (hperm : sorted.Perm files)
    (hsorted : sorted.Pairwise (fun f g => inOrder f g = true)) :
    sorted = files.mergeSort inOrder := by
  have hperm' := hperm.trans (List.mergeSort_perm files inOrder).symm
  refine List.Perm.eq_of_pairwise (fun f g hf hg => ?_) hsorted (pairwise_sorted files) hperm'
  exact h.eq_of_inOrder (hsub f (hperm.mem_iff.1 hf)) (hsub g (List.mem_mergeSort.1 hg))

theorem perm_regularFilesIn {entries sorted : Entries} (h : sorted.Perm entries) :
    (sorted.flatMap (fun e =>
      ((regularFiles e.2).mergeSort inOrder).map (beneath e.1))).Perm (regularFilesIn entries) := by
  rw [regularFilesIn_eq_flatMap]
  refine (h.flatMap_right _).trans (List.Perm.flatMap_left _ ?_)
  intro e _
  exact (List.mergeSort_perm _ _).map _

theorem inOrder_beneath (name : String) {f g : Located} (h : inOrder f g = true) :
    inOrder (beneath name f) (beneath name g) = true := by
  simpa [inOrder, beneath, pathLE] using h

theorem inOrder_of_nameLE {a b : String} (hne : a ≠ b) (h : nameLE a b = true) (f g : Located) :
    inOrder (beneath a f) (beneath b g) = true := by
  simpa [inOrder, beneath, pathLE, hne] using h

theorem pairwise_walk {sorted : Entries} (distinct : (sorted.map Prod.fst).Nodup)
    (hsorted : sorted.Pairwise (fun d e => nameLE d.1 e.1 = true)) :
    (sorted.flatMap (fun e => ((regularFiles e.2).mergeSort inOrder).map (beneath e.1))).Pairwise
      (fun f g => inOrder f g = true) := by
  rw [List.pairwise_flatMap]
  constructor
  · intro e _
    rw [List.pairwise_map]
    exact (pairwise_sorted _).imp (inOrder_beneath e.1)
  · refine (hsorted.and (List.pairwise_map.1 distinct)).imp ?_
    rintro d e ⟨hle, hne⟩ x hx y hy
    obtain ⟨f, _, rfl⟩ := List.mem_map.1 hx
    obtain ⟨g, _, rfl⟩ := List.mem_map.1 hy
    exact inOrder_of_nameLE hne hle f g

end FileTree

namespace FileSystem

open FileTree

def locate (path : String) (file : Located) : String × ByteArray :=
  (file.1.foldl Path.join path, file.2)

theorem filesIn_eq_map (path : String) (entries : Entries) :
    filesIn path entries = entries.map (fun e => (e.1, files (Path.join path e.1) e.2)) := by
  induction entries with
  | nil => rfl
  | cons e rest ih => simp [filesIn, ih]

theorem files_directory (path : String) (entries : Entries) :
    files path (.directory entries) =
      (entries.mergeSort (fun d e => nameLE d.1 e.1)).flatMap
        (fun e => files (Path.join path e.1) e.2) := by
  have hsort := List.map_mergeSort (r := fun d e => nameLE d.1 e.1)
    (s := fun a b => nameLE a.1 b.1)
    (f := fun e : String × FileTree => (e.1, files (Path.join path e.1) e.2)) (l := entries)
    (fun _ _ _ _ => rfl)
  rw [files, filesIn_eq_map, ← hsort, List.flatMap_map]

theorem files_eq_sorted {node : FileTree} (h : WellNamed node) (path : String) :
    files path node = ((regularFiles node).mergeSort inOrder).map (locate path) := by
  induction h generalizing path with
  | file content => simp [files, regularFiles, locate]
  | link target => simp [files, regularFiles]
  | @directory entries distinct named below ih =>
      have hperm := List.mergeSort_perm entries (fun d e => nameLE d.1 e.1)
      have hsorted := @List.pairwise_mergeSort _ (fun d e : String × FileTree => nameLE d.1 e.1)
        (fun _ _ _ => nameLE_trans) (fun d e => nameLE_total d.1 e.1) entries
      have hwalk := pairwise_walk ((hperm.map Prod.fst).nodup_iff.2 distinct) hsorted
      have hflat := (WellNamed.directory distinct named below).eq_sorted (fun _ hf => hf)
        (perm_regularFilesIn hperm) hwalk
      rw [← hflat, files_directory, List.map_flatMap]
      refine List.flatMap_congr fun e he => ?_
      rw [ih e (hperm.mem_iff.1 he), List.map_map]
      rfl

end FileSystem

end BridgeTypings
