namespace BridgeTypings

structure OrderedMap (β : Type) where
  entries : List (String × β)
  nodup : (entries.map Prod.fst).Nodup
deriving Repr

namespace OrderedMap

variable {β : Type}

def insertEntry (key : String) (value : β) : List (String × β) → List (String × β)
  | [] => [(key, value)]
  | (k, v) :: rest => if k = key then (k, value) :: rest else (k, v) :: insertEntry key value rest

theorem map_fst_insertEntry (key : String) (value : β) (entries : List (String × β)) :
    (insertEntry key value entries).map Prod.fst =
      if key ∈ entries.map Prod.fst then entries.map Prod.fst
      else entries.map Prod.fst ++ [key] := by
  induction entries with
  | nil => simp [insertEntry]
  | cons e rest ih =>
      obtain ⟨k, v⟩ := e
      by_cases h : k = key
      · simp [insertEntry, h]
      · have h' : ¬ key = k := fun he => h he.symm
        simp only [insertEntry, h, if_false, List.map_cons, ih, List.mem_cons, h', false_or]
        split <;> simp

theorem nodup_insertEntry (key : String) (value : β) {entries : List (String × β)}
    (h : (entries.map Prod.fst).Nodup) :
    ((insertEntry key value entries).map Prod.fst).Nodup := by
  rw [map_fst_insertEntry]
  split
  · exact h
  · next hk =>
      rw [List.nodup_append]
      refine ⟨h, by simp, ?_⟩
      intro a ha b hb
      rw [List.mem_singleton.1 hb]
      exact fun he => hk (he ▸ ha)

def empty : OrderedMap β :=
  ⟨[], List.nodup_nil⟩

instance : EmptyCollection (OrderedMap β) := ⟨empty⟩

instance : Inhabited (OrderedMap β) := ⟨empty⟩

def keys (m : OrderedMap β) : List String :=
  m.entries.map Prod.fst

def size (m : OrderedMap β) : Nat :=
  m.entries.length

def contains (m : OrderedMap β) (key : String) : Bool :=
  m.keys.contains key

def get? (m : OrderedMap β) (key : String) : Option β :=
  m.entries.lookup key

def insert (m : OrderedMap β) (key : String) (value : β) : OrderedMap β :=
  ⟨insertEntry key value m.entries, nodup_insertEntry key value m.nodup⟩

def insertAll (m : OrderedMap β) (entries : List (String × β)) : OrderedMap β :=
  entries.foldl (fun acc e => acc.insert e.1 e.2) m

def ofList (entries : List (String × β)) : OrderedMap β :=
  insertAll empty entries

theorem keys_insert (m : OrderedMap β) (key : String) (value : β) :
    (m.insert key value).keys = if key ∈ m.keys then m.keys else m.keys ++ [key] :=
  map_fst_insertEntry key value m.entries

theorem lookup_insertEntry (key k : String) (value : β) (entries : List (String × β)) :
    (insertEntry key value entries).lookup k =
      if k = key then some value else entries.lookup k := by
  induction entries with
  | nil =>
      by_cases h : k = key
      · simp [insertEntry, h]
      · have : (k == key) = false := by simp [h]
        simp [insertEntry, List.lookup_cons, h, this]
  | cons e rest ih =>
      obtain ⟨k', v⟩ := e
      by_cases h : k' = key
      · subst h
        by_cases hk : k = k'
        · subst hk; simp [insertEntry]
        · have : (k == k') = false := by simp [hk]
          simp [insertEntry, List.lookup_cons, hk, this]
      · simp only [insertEntry, h, if_false, List.lookup_cons]
        by_cases hk : k = k'
        · subst hk
          simp [h]
        · have : (k == k') = false := by simp [hk]
          simp only [this, ih]

theorem get?_insert (m : OrderedMap β) (key k : String) (value : β) :
    (m.insert key value).get? k = if k = key then some value else m.get? k :=
  lookup_insertEntry key k value m.entries

end OrderedMap

end BridgeTypings
