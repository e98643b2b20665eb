import BridgeTypings.Path

namespace BridgeTypings.Path

structure IsEntryName (name : String) : Prop where
  nonempty : name ≠ ""
  notHere : name ≠ "."
  notAbove : name ≠ ".."
  noSlash : '/' ∉ name.toList

theorem isEntryName {name : String}
    (h : name ≠ "" ∧ name ≠ "." ∧ name ≠ ".." ∧ '/' ∉ name.toList) : IsEntryName name :=
  ⟨h.1, h.2.1, h.2.2.1, h.2.2.2⟩

theorem split_ne_nil (cs : List Char) : split cs ≠ [] := by
  cases cs with
  | nil => simp [split]
  | cons c rest =>
      simp only [split]
      split
      · simp
      · split <;> simp

theorem split_of_noSlash {cs : List Char} (h : '/' ∉ cs) : split cs = [cs] := by
  induction cs with
  | nil => rfl
  | cons c rest ih =>
      simp only [List.mem_cons, not_or] at h
      obtain ⟨hc, hrest⟩ := h
      have hne : ¬ c = '/' := fun he => hc he.symm
      simp [split, hne, ih hrest]

theorem split_append_slash (front behind : List Char) :
    split (front ++ '/' :: behind) = split front ++ split behind := by
  induction front with
  | nil => simp [split]
  | cons c rest ih =>
      by_cases hc : c = '/'
      · simp [split, hc, ih]
      · obtain ⟨part, parts, hparts⟩ := List.exists_cons_of_ne_nil (split_ne_nil rest)
        simp [split, hc, ih, hparts]

theorem parts_of_split_append {path name : String} (front : List (List Char))
    (h : split path.toList = front ++ [name.toList]) :
    parts path = front.map String.ofList ++ [name] := by
  simp [parts, h]

theorem parts_join (base : String) {name : String} (h : IsEntryName name) :
    ∃ front, parts (join base name) = front ++ [name] := by
  have habsolute : isAbsolute name = false := by
    cases hcs : name.toList with
    | nil => simp [isAbsolute, hcs]
    | cons c rest =>
        have hc : c ≠ '/' := fun he => h.noSlash (by simp [hcs, he])
        simp [isAbsolute, hcs, hc]
  have hname := split_of_noSlash h.noSlash
  unfold join
  split
  · exact ⟨[], parts_of_split_append [] (by simpa using hname)⟩
  · split
    · next hlast =>
        obtain ⟨front, hfront⟩ := List.getLast?_eq_some_iff.1 hlast
        refine ⟨(split front).map String.ofList, parts_of_split_append _ ?_⟩
        rw [String.toList_append, hfront, List.append_assoc, List.singleton_append,
          split_append_slash, hname]
    · refine ⟨(split base.toList).map String.ofList, parts_of_split_append _ ?_⟩
      have htext : (base ++ "/" ++ name).toList = base.toList ++ '/' :: name.toList := by simp
      rw [htext, split_append_slash, hname]

theorem extension?_join (base : String) {name : String} (h : IsEntryName name) :
    extension? (join base name) = nameExtension? name := by
  obtain ⟨front, hparts⟩ := parts_join base h
  have hkept : [name].filter (fun p => p != "" && p != ".") = [name] := by
    simp [h.nonempty, h.notHere]
  have hname : fileName? (join base name) = some name := by
    unfold fileName?
    rw [hparts, List.filter_append, hkept, List.getLast?_append]
    simp [h.notAbove]
  simp [extension?, hname]

theorem join_ne_empty {base : String} (h : base ≠ "") (rest : String) :
    join base rest ≠ "" := by
  unfold Path.join
  split
  · next hrest =>
      have habsolute : isAbsolute rest = true := by simpa [h] using hrest
      rintro rfl
      cases habsolute
  · split <;> simp [h]

end BridgeTypings.Path
