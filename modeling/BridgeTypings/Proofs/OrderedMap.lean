import BridgeTypings.OrderedMap

namespace BridgeTypings.OrderedMap

variable {β : Type}

theorem eraseDups_eq_self {keys : List String} (h : keys.Nodup) : keys.eraseDups = keys := by
  induction keys with
  | nil => rfl
  | cons k rest ih =>
      obtain ⟨hk, hrest⟩ := List.nodup_cons.1 h
      have hfilter : rest.filter (fun b => !b == k) = rest := by
        rw [List.filter_eq_self]
        intro b hb
        have : b ≠ k := fun he => hk (he ▸ hb)
        simp [this]
      rw [List.eraseDups_cons, hfilter, ih hrest]

theorem eraseDups_skip {keys : List String} {k : String} (h : k ∈ keys) (rest : List String) :
    (keys ++ k :: rest).eraseDups = (keys ++ rest).eraseDups := by
  rw [List.eraseDups_append, List.eraseDups_append]
  simp [List.removeAll, h]

theorem forall_insert {P : String × β → Prop} {m : OrderedMap β} {key : String} {value : β}
    (h : ∀ e ∈ m.entries, P e) (hnew : P (key, value)) : ∀ e ∈ (m.insert key value).entries, P e := by
  have hentries (entries : List (String × β)) (h : ∀ e ∈ entries, P e) :
      ∀ e ∈ insertEntry key value entries, P e := by
    induction entries with
    | nil => simpa [insertEntry] using hnew
    | cons e rest ih =>
        obtain ⟨k, v⟩ := e
        obtain ⟨hfirst, hrest⟩ := List.forall_mem_cons.1 h
        unfold insertEntry
        split
        · next hk => exact List.forall_mem_cons.2 ⟨hk ▸ hnew, hrest⟩
        · exact List.forall_mem_cons.2 ⟨hfirst, ih hrest⟩
  exact hentries m.entries h

theorem mem_of_get? {m : OrderedMap β} {key : String} {value : β} (h : m.get? key = some value) :
    (key, value) ∈ m.entries := by
  obtain ⟨before, after, hsplit, -⟩ := List.lookup_eq_some_iff.1 h
  simp [hsplit]

theorem forall_of_get? {P : β → Prop} {m : OrderedMap β} {key : String} {value : β}
    (h : ∀ e ∈ m.entries, P e.2) (hget : m.get? key = some value) : P value :=
  h (key, value) (mem_of_get? hget)

theorem keys_insertAll (m : OrderedMap β) (items : List (String × β)) :
    (m.insertAll items).keys = (m.keys ++ items.map Prod.fst).eraseDups := by
  induction items generalizing m with
  | nil =>
      have hkeys : m.keys.eraseDups = m.keys := eraseDups_eq_self m.nodup
      simp [insertAll, hkeys]
  | cons e rest ih =>
      have hstep : m.insertAll (e :: rest) = (m.insert e.1 e.2).insertAll rest := rfl
      rw [hstep, ih, keys_insert, List.map_cons]
      split
      · next h => exact (eraseDups_skip h _).symm
      · simp

theorem get?_insertAll (m : OrderedMap β) (items : List (String × β)) (k : String) :
    (m.insertAll items).get? k = (items.reverse.lookup k).or (m.get? k) := by
  induction items generalizing m with
  | nil => simp [insertAll]
  | cons e rest ih =>
      have hstep : m.insertAll (e :: rest) = (m.insert e.1 e.2).insertAll rest := rfl
      rw [hstep, ih, get?_insert, List.reverse_cons, List.lookup_append, Option.or_assoc]
      obtain ⟨key, value⟩ := e
      by_cases h : k = key
      · simp [h]
      · have hne : (k == key) = false := by simp [h]
        simp [h, List.lookup_cons, hne]

theorem get?_of_mem {m : OrderedMap β} {key : String} {value : β} (h : (key, value) ∈ m.entries) :
    m.get? key = some value := by
  obtain ⟨before, after, hsplit⟩ := List.append_of_mem h
  refine List.lookup_eq_some_iff.2 ⟨before, after, hsplit, fun p hp => ?_⟩
  have hnodup := m.nodup
  rw [hsplit, List.map_append, List.map_cons, List.nodup_append] at hnodup
  have hne : p.1 ≠ key := hnodup.2.2 p.1 (List.mem_map_of_mem hp) key List.mem_cons_self
  simpa using hne.symm

theorem ext_get? {m n : OrderedMap β} (hkeys : m.keys = n.keys)
    (hget : ∀ k, m.get? k = n.get? k) : m = n := by
  have hview (m : OrderedMap β) :
      m.entries.map (fun e => (e.1, some e.2)) = m.keys.map (fun k => (k, m.get? k)) := by
    rw [keys, List.map_map]
    refine List.map_congr_left fun e he => ?_
    simp [get?_of_mem he]
  have hentries : m.entries.map (fun e => (e.1, some e.2)) =
      n.entries.map (fun e => (e.1, some e.2)) := by
    rw [hview, hview, hkeys]
    simp [hget]
  have hsame : m.entries = n.entries := by
    refine (List.map_inj_right fun e e' heq => ?_).1 hentries
    simpa [Prod.ext_iff] using heq
  cases m
  cases n
  simpa using hsame

theorem lookup_reverse (m : OrderedMap β) (k : String) : m.entries.reverse.lookup k = m.get? k := by
  have hreverse : (m.entries.reverse.map Prod.fst).Nodup := by
    rw [List.map_reverse]
    exact List.pairwise_reverse.2 (m.nodup.imp Ne.symm)
  cases hget : m.get? k with
  | none =>
      rw [get?, List.lookup_eq_none_iff] at hget
      rw [List.lookup_eq_none_iff]
      simpa using hget
  | some value =>
      obtain ⟨before, after, hsplit, -⟩ := List.lookup_eq_some_iff.1 hget
      exact get?_of_mem (m := ⟨m.entries.reverse, hreverse⟩) (by simp [hsplit])

theorem get?_insertAll_entries (m n : OrderedMap β) (k : String) :
    (m.insertAll n.entries).get? k = (n.get? k).or (m.get? k) := by
  rw [get?_insertAll, lookup_reverse]

theorem keys_insertAll_entries (m n : OrderedMap β) :
    (m.insertAll n.entries).keys = m.keys ++ n.keys.filter (fun k => !m.keys.contains k) := by
  have hold : m.keys.Nodup := m.nodup
  have hnew : (n.keys.filter (fun k => !m.keys.contains k)).Nodup := n.nodup.filter _
  rw [keys_insertAll, List.eraseDups_append, eraseDups_eq_self hold]
  exact congrArg _ (eraseDups_eq_self hnew)

theorem insertAll_assoc (a b c : OrderedMap β) :
    (a.insertAll b.entries).insertAll c.entries = a.insertAll (b.insertAll c.entries).entries := by
  refine ext_get? ?_ fun k => ?_
  -- either way, a key of the last map is new if neither of the others has it
  · simp only [keys_insertAll_entries, List.append_assoc, List.filter_append, List.filter_filter]
    congr 2
    refine List.filter_congr fun k _ => ?_
    by_cases ha : k ∈ a.keys <;> by_cases hb : k ∈ b.keys <;> simp [ha, hb]
  · simp only [get?_insertAll_entries, Option.or_assoc]

theorem empty_insertAll (m : OrderedMap β) : empty.insertAll m.entries = m := by
  refine ext_get? ?_ fun k => ?_
  · rw [keys_insertAll_entries]
    simp [keys, empty]
  · rw [get?_insertAll_entries]
    exact Option.or_none

theorem entries_ofList {items : List (String × β)} (h : (items.map Prod.fst).Nodup) :
    (ofList items).entries = items :=
  congrArg entries (empty_insertAll ⟨items, h⟩)

theorem keys_ofList (items : List (String × β)) :
    (ofList items).keys = (items.map Prod.fst).eraseDups := by
  exact keys_insertAll empty items

theorem get?_ofList (items : List (String × β)) (k : String) :
    (ofList items).get? k = items.reverse.lookup k := by
  have h := get?_insertAll (β := β) empty items k
  have hempty : (empty : OrderedMap β).get? k = none := rfl
  rw [ofList, h, hempty, Option.or_none]

theorem mapM_insertAll_cons {ε α : Type} (f : α → Except ε (String × β)) (m : OrderedMap β) (a : α)
    (rest : List α) :
    ((a :: rest).mapM f >>= fun items => pure (m.insertAll items)) =
      (f a >>= fun e => rest.mapM f >>= fun items =>
        pure ((m.insert e.1 e.2).insertAll items)) := by
  rw [List.mapM_cons]
  cases f a with
  | error _ => rfl
  | ok e => cases rest.mapM f <;> rfl

def restrict (p : String → Bool) (m : OrderedMap β) : OrderedMap β :=
  ⟨m.entries.filter (fun e => p e.1), (List.filter_sublist.map Prod.fst).nodup m.nodup⟩

theorem filter_insertEntry (p : String → Bool) (key : String) (value : β)
    (entries : List (String × β)) :
    (insertEntry key value entries).filter (fun e => p e.1) =
      if p key then insertEntry key value (entries.filter (fun e => p e.1))
      else entries.filter (fun e => p e.1) := by
  induction entries with
  | nil => cases hp : p key <;> simp [insertEntry, hp]
  | cons e rest ih =>
      obtain ⟨k, v⟩ := e
      by_cases hk : k = key
      · subst hk
        cases hp : p k <;> simp [insertEntry, hp]
      · cases hpk : p k with
        | true => cases hp : p key <;> simp [insertEntry, hk, hpk, hp, ih]
        | false => simp [insertEntry, hk, hpk, ih]

theorem restrict_insert (p : String → Bool) (m : OrderedMap β) (key : String) (value : β) :
    (m.insert key value).restrict p =
      if p key then (m.restrict p).insert key value else m.restrict p := by
  have hentries := filter_insertEntry p key value m.entries
  split
  · next hp =>
      rw [if_pos hp] at hentries
      simpa only [restrict, insert, mk.injEq] using hentries
  · next hp =>
      rw [if_neg hp] at hentries
      simpa only [restrict, insert, mk.injEq] using hentries

theorem restrict_insertAll (p : String → Bool) (m : OrderedMap β) (items : List (String × β)) :
    (m.insertAll items).restrict p = (m.restrict p).insertAll (items.filter (fun e => p e.1)) := by
  induction items generalizing m with
  | nil => rfl
  | cons e rest ih =>
      have hstep : m.insertAll (e :: rest) = (m.insert e.1 e.2).insertAll rest := rfl
      rw [hstep, ih, restrict_insert, List.filter_cons]
      split <;> rfl

theorem restrict_ofList (p : String → Bool) (items : List (String × β)) :
    (ofList items).restrict p = ofList (items.filter (fun e => p e.1)) :=
  restrict_insertAll p empty items

theorem contains_ofList {items : List (String × β)} {key : String} :
    (ofList items).contains key = true ↔ ∃ e ∈ items, e.1 = key := by
  simp [contains, keys_ofList]

theorem restrict_contains (m : OrderedMap β) : m.restrict m.contains = m := by
  have hentries : m.entries.filter (fun e => m.contains e.1) = m.entries := by
    rw [List.filter_eq_self]
    intro e he
    have hkey : e.1 ∈ m.keys := List.mem_map_of_mem he
    simpa [contains] using hkey
  cases m
  simpa only [restrict, mk.injEq] using hentries

end BridgeTypings.OrderedMap
