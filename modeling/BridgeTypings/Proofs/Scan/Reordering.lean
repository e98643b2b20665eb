import BridgeTypings.Proofs.Scan.Listing

namespace BridgeTypings

namespace FileTree

inductive Reordered : Entries → Entries → Prop
  | nil : Reordered [] []
  | keep {es es' : Entries} (name : String) (node : FileTree) :
      Reordered es es' → Reordered ((name, node) :: es) ((name, node) :: es')
  | inside {ds ds' es es' : Entries} (name : String) :
      Reordered ds ds' → Reordered es es' →
      Reordered ((name, .directory ds) :: es) ((name, .directory ds') :: es')
  | swap (d e : String × FileTree) (es : Entries) : Reordered (d :: e :: es) (e :: d :: es)
  | trans {es ms es' : Entries} : Reordered es ms → Reordered ms es' → Reordered es es'

inductive SameNode : FileTree → FileTree → Prop
  | refl (node : FileTree) : SameNode node node
  | directory {es es' : Entries} : Reordered es es' → SameNode (.directory es) (.directory es')

theorem Reordered.refl (es : Entries) : Reordered es es := by
  induction es with
  | nil => exact .nil
  | cons e rest ih => exact .keep e.1 e.2 ih

theorem SameNode.trans {a b c : FileTree} (hab : SameNode a b) (hbc : SameNode b c) :
    SameNode a c := by
  cases hab with
  | refl => exact hbc
  | directory h =>
      cases hbc with
      | refl => exact .directory h
      | directory h' => exact .directory (h.trans h')

theorem WellNamed.distinct {entries : Entries} (h : WellNamed (.directory entries)) :
    (entries.map Prod.fst).Nodup := by
  cases h with
  | directory distinct _ _ => exact distinct

theorem WellNamed.of_lookup {entries : Entries} (h : WellNamed (.directory entries)) {name : String}
    {node : FileTree} (hlookup : entries.lookup name = some node) : WellNamed node := by
  obtain ⟨front, behind, hsplit, _⟩ := List.lookup_eq_some_iff.1 hlookup
  cases h with
  | directory _ _ below => exact below (name, node) (by simp [hsplit])

theorem wellNamed_nil : WellNamed (.directory []) :=
  .directory .nil nofun nofun

theorem wellNamed_cons {name : String} {node : FileTree} {rest : Entries} :
    WellNamed (.directory ((name, node) :: rest)) ↔
      (name ∉ rest.map Prod.fst ∧ Path.IsEntryName name ∧ WellNamed node) ∧
        WellNamed (.directory rest) := by
  constructor
  · intro h
    cases h with
    | directory distinct named below =>
        obtain ⟨hname, hrest⟩ := List.nodup_cons.1 distinct
        simp only [List.forall_mem_cons] at named below
        exact ⟨⟨hname, named.1, below.1⟩, .directory hrest named.2 below.2⟩
  · rintro ⟨⟨hname, hentry, hnode⟩, hrest⟩
    cases hrest with
    | directory distinct named below =>
        exact .directory (List.nodup_cons.2 ⟨hname, distinct⟩)
          (List.forall_mem_cons.2 ⟨hentry, named⟩) (List.forall_mem_cons.2 ⟨hnode, below⟩)

theorem Reordered.perm_names {es es' : Entries} (h : Reordered es es') :
    (es.map Prod.fst).Perm (es'.map Prod.fst) := by
  induction h with
  | nil => exact .nil
  | keep name node _ ih => exact ih.cons name
  | inside name _ _ _ ih => exact ih.cons name
  | swap d e es => exact .swap e.1 d.1 _
  | trans _ _ ih ih' => exact ih.trans ih'

theorem Reordered.wellNamed {es es' : Entries} (h : Reordered es es')
    (hes : WellNamed (.directory es)) : WellNamed (.directory es') := by
  induction h with
  | nil => exact hes
  | keep name node hrest ih =>
      obtain ⟨⟨hname, hentry, hnode⟩, hes⟩ := wellNamed_cons.1 hes
      refine wellNamed_cons.2 ⟨⟨?_, hentry, hnode⟩, ih hes⟩
      exact fun hmem => hname (hrest.perm_names.mem_iff.2 hmem)
  | inside name _ hrest ihd ih =>
      obtain ⟨⟨hname, hentry, hnode⟩, hes⟩ := wellNamed_cons.1 hes
      refine wellNamed_cons.2 ⟨⟨?_, hentry, ihd hnode⟩, ih hes⟩
      exact fun hmem => hname (hrest.perm_names.mem_iff.2 hmem)
  | swap d e es =>
      obtain ⟨⟨hd, hdentry, hdnode⟩, htail⟩ := wellNamed_cons.1 hes
      obtain ⟨⟨he, heentry, henode⟩, hes⟩ := wellNamed_cons.1 htail
      simp only [List.map_cons, List.mem_cons, not_or] at hd
      refine wellNamed_cons.2 ⟨⟨?_, heentry, henode⟩, wellNamed_cons.2 ⟨⟨hd.2, hdentry, hdnode⟩, hes⟩⟩
      simp only [List.map_cons, List.mem_cons, not_or]
      exact ⟨fun heq => hd.1 heq.symm, he⟩
  | trans _ _ ih ih' => exact ih' (ih hes)

theorem Reordered.perm_regularFilesIn {es es' : Entries} (h : Reordered es es') :
    (regularFilesIn es).Perm (regularFilesIn es') := by
  induction h with
  | nil => exact .nil
  | keep name node _ ih => exact ih.append_left _
  | inside name _ _ ihd ih => exact (ihd.map _).append ih
  | swap d e es =>
      simp only [regularFilesIn]
      rw [← List.append_assoc, ← List.append_assoc]
      exact List.perm_append_comm.append_right _
  | trans _ _ ih ih' => exact ih.trans ih'

theorem optionRel_sameNode_refl (a : Option FileTree) : Option.Rel SameNode a a := by
  cases a with
  | none => exact .none
  | some node => exact .some (.refl node)

theorem optionRel_sameNode_trans {a b c : Option FileTree} (hab : Option.Rel SameNode a b)
    (hbc : Option.Rel SameNode b c) : Option.Rel SameNode a c := by
  cases hab with
  | none => exact hbc
  | some h =>
      cases hbc with
      | some h' => exact .some (h.trans h')

theorem Reordered.lookup {es es' : Entries} (h : Reordered es es')
    (distinct : (es.map Prod.fst).Nodup) (name : String) :
    Option.Rel SameNode (es.lookup name) (es'.lookup name) := by
  induction h with
  | nil => exact .none
  | keep key node _ ih =>
      by_cases hk : name = key
      · simpa [List.lookup_cons, hk] using optionRel_sameNode_refl (some node)
      · have hne : (name == key) = false := by simp [hk]
        simpa [List.lookup_cons, hne] using ih (List.nodup_cons.1 distinct).2
  | inside key hd _ _ ih =>
      by_cases hk : name = key
      · simpa [List.lookup_cons, hk] using Option.Rel.some (SameNode.directory hd)
      · have hne : (name == key) = false := by simp [hk]
        simpa [List.lookup_cons, hne] using ih (List.nodup_cons.1 distinct).2
  | swap d e es =>
      -- only here can the first hit change, and two entries of one name would make it
      obtain ⟨dname, dnode⟩ := d
      obtain ⟨ename, enode⟩ := e
      have hne : dname ≠ ename := by
        simp only [List.map_cons, List.nodup_cons, List.mem_cons, not_or] at distinct
        exact distinct.1.1
      have hswap : List.lookup name ((dname, dnode) :: (ename, enode) :: es) =
          List.lookup name ((ename, enode) :: (dname, dnode) :: es) := by
        by_cases hd : name = dname
        · subst hd
          have he : (name == ename) = false := by simp [hne]
          simp [List.lookup_cons, he]
        · have hd' : (name == dname) = false := by simp [hd]
          simp [List.lookup_cons, hd']
      rw [hswap]
      exact optionRel_sameNode_refl _
  | trans h _ ih ih' =>
      exact optionRel_sameNode_trans (ih distinct) (ih' (h.perm_names.nodup_iff.1 distinct))

end FileTree

end BridgeTypings
