import BridgeTypings.Proofs.Text.Parsing
import BridgeTypings.Toml.Parser
import Mathlib.Data.List.Nodup

namespace BridgeTypings.Toml

theorem lookup_eq_none_iff_not_mem {β : Type} {entries : List (String × β)} {key : String} :
    entries.lookup key = none ↔ key ∉ entries.map Prod.fst := by
  rw [List.lookup_eq_none_iff, List.mem_map]
  constructor
  · rintro h ⟨e, he, rfl⟩
    simpa using h e he
  · intro h e he
    exact bne_iff_ne.2 fun hkey => h ⟨e, he, hkey.symm⟩

inductive Value.Distinct : Value → Prop
  | string {text : String} : Distinct (.string text)
  | integer {n : Int} : Distinct (.integer n)
  | float {f : Float} : Distinct (.float f)
  | boolean {b : Bool} : Distinct (.boolean b)
  | datetime {text : String} : Distinct (.datetime text)
  | array {items : List Value} : (∀ v ∈ items, Distinct v) → Distinct (.array items)
  | table {entries : Table} :
      (entries.map Prod.fst).Nodup → (∀ e ∈ entries, Distinct e.2) → Distinct (.table entries)

inductive Node.Distinct : Node → Prop
  | value {v : Value} : v.Distinct → Distinct (.value v)
  | table {origin : Origin} {entries : Entries} :
      (entries.map Prod.fst).Nodup → (∀ e ∈ entries, Distinct e.2) →
      Distinct (.table origin entries)
  | tables {items : List Entries} :
      (∀ entries ∈ items, (entries.map Prod.fst).Nodup) →
      (∀ entries ∈ items, ∀ e ∈ entries, Distinct e.2) → Distinct (.tables items)

structure DistinctEntries (entries : Entries) : Prop where
  keys : (entries.map Prod.fst).Nodup
  nodes : ∀ e ∈ entries, e.2.Distinct

theorem Value.distinct_table_iff {entries : Table} :
    (Value.table entries).Distinct ↔
      (entries.map Prod.fst).Nodup ∧ ∀ e ∈ entries, e.2.Distinct := by
  constructor
  · intro h
    cases h with
    | table hkeys hvalues => exact ⟨hkeys, hvalues⟩
  · rintro ⟨hkeys, hvalues⟩
    exact .table hkeys hvalues

theorem Node.distinct_table_iff {origin : Origin} {entries : Entries} :
    (Node.table origin entries).Distinct ↔ DistinctEntries entries := by
  constructor
  · rintro (_ | ⟨hkeys, hnodes⟩ | _)
    exact ⟨hkeys, hnodes⟩
  · rintro ⟨hkeys, hnodes⟩
    exact .table hkeys hnodes

theorem Node.distinct_tables_iff {items : List Entries} :
    (Node.tables items).Distinct ↔ ∀ entries ∈ items, DistinctEntries entries := by
  constructor
  · rintro (_ | _ | ⟨hkeys, hnodes⟩) entries hmem
    exact ⟨hkeys entries hmem, hnodes entries hmem⟩
  · intro h
    exact .tables (fun entries hmem => (h entries hmem).keys)
      fun entries hmem => (h entries hmem).nodes

theorem Node.entriesToValues_eq (entries : Entries) :
    entriesToValues entries = entries.map (fun e => (e.1, e.2.toValue)) := by
  induction entries with
  | nil => rfl
  | cons e rest ih => rw [entriesToValues, ih, List.map_cons]

theorem Node.itemsToValues_eq (items : List Entries) :
    itemsToValues items = items.map (fun entries => .table (entriesToValues entries)) := by
  induction items with
  | nil => rfl
  | cons entries rest ih => rw [itemsToValues, ih, List.map_cons]

theorem distinct_entriesToValues {entries : Entries} (hkeys : (entries.map Prod.fst).Nodup)
    (hvalues : ∀ e ∈ entries, e.2.toValue.Distinct) :
    (Value.table (Node.entriesToValues entries)).Distinct := by
  rw [Node.entriesToValues_eq]
  refine .table ?_ ?_
  · rwa [List.map_map]
  · rintro e he
    obtain ⟨e', he', rfl⟩ := List.mem_map.1 he
    exact hvalues e' he'

theorem Node.Distinct.toValue {n : Node} (h : n.Distinct) : n.toValue.Distinct := by
  induction h with
  | value hv => exact hv
  | table hkeys _ ih => exact distinct_entriesToValues hkeys ih
  | tables hkeys _ ih =>
      rw [Node.toValue, Node.itemsToValues_eq]
      refine .array fun v hv => ?_
      obtain ⟨entries, hmem, rfl⟩ := List.mem_map.1 hv
      exact distinct_entriesToValues (hkeys entries hmem) (ih entries hmem)

namespace DistinctEntries

variable {key : String} {node : Node} {entries : Entries}

theorem nil : DistinctEntries [] :=
  ⟨List.nodup_nil, nofun⟩

theorem toTable (h : DistinctEntries entries) :
    (Value.table (Node.entriesToValues entries)).Distinct :=
  distinct_entriesToValues h.keys fun e he => (h.nodes e he).toValue

theorem of_lookup (h : DistinctEntries entries) (hnode : entries.lookup key = some node) :
    node.Distinct := by
  obtain ⟨front, behind, rfl, -⟩ := List.lookup_eq_some_iff.1 hnode
  exact h.nodes (key, node) (List.mem_append_right _ List.mem_cons_self)

theorem concat (h : DistinctEntries entries) (hkey : entries.lookup key = none)
    (hnode : node.Distinct) : DistinctEntries (entries ++ [(key, node)]) := by
  constructor
  · rw [List.map_append, List.map_singleton, ← List.concat_eq_append]
    exact h.keys.concat (lookup_eq_none_iff_not_mem.1 hkey)
  · exact List.forall_mem_append.2 ⟨h.nodes, List.forall_mem_singleton.2 hnode⟩

theorem replaceEntry (h : DistinctEntries entries) (hnode : node.Distinct) :
    DistinctEntries (replaceEntry key node entries) := by
  have hkeys : (Toml.replaceEntry key node entries).map Prod.fst = entries.map Prod.fst := by
    rw [Toml.replaceEntry, List.map_map]
    refine List.map_congr_left fun e _ => ?_
    simp only [Function.comp_apply]
    split <;> rfl
  constructor
  · rw [hkeys]
    exact h.keys
  · intro e he
    obtain ⟨e', he', rfl⟩ := List.mem_map.1 he
    split
    · exact hnode
    · exact h.nodes e' he'

theorem filter (h : DistinctEntries entries) (test : String × Node → Bool) :
    DistinctEntries (entries.filter test) where
  keys := (List.filter_sublist.map Prod.fst).nodup h.keys
  nodes e he := h.nodes e (List.mem_filter.1 he).1

theorem addEntry (h : DistinctEntries entries) (hnode : node.Distinct) {entries' : Entries}
    (hadd : addEntry key node entries = some entries') : DistinctEntries entries' := by
  unfold Toml.addEntry at hadd
  split at hadd
  · cases hadd
  · next hkey =>
      cases hadd
      exact h.concat (Option.not_isSome_iff_eq_none.1 hkey) hnode

theorem changeAt {f : Place → Option Entries} {dotted : Bool}
    (hf : ∀ place entries, DistinctEntries place.entries → f place = some entries →
      DistinctEntries entries)
    {path : List String} {place : Place} (h : DistinctEntries place.entries)
    (hchange : changeAt dotted f path place = some entries) : DistinctEntries entries := by
  induction path generalizing place entries with
  | nil => exact hf place entries h hchange
  | cons k path ih =>
      unfold Toml.changeAt at hchange
      split at hchange
      · next hkey =>
          obtain ⟨inner, hinner, hchange⟩ := Option.bind_eq_some_iff.1 hchange
          cases hchange
          exact h.concat hkey (Node.distinct_table_iff.2 (ih nil hinner))
      · cases hchange
      · next origin inner hkey =>
          split at hchange
          · cases hchange
          · obtain ⟨inner', hinner, hchange⟩ := Option.bind_eq_some_iff.1 hchange
            cases hchange
            have hdistinct := Node.distinct_table_iff.1 (h.of_lookup hkey)
            exact h.replaceEntry (Node.distinct_table_iff.2 (ih hdistinct hinner))
      · next items hkey =>
          split at hchange
          · cases hchange
          · next last hlast =>
              obtain ⟨last', hinner, hchange⟩ := Option.bind_eq_some_iff.1 hchange
              cases hchange
              have hitems := Node.distinct_tables_iff.1 (h.of_lookup hkey)
              have hfront : ∀ inner ∈ items.dropLast, DistinctEntries inner := fun inner hmem =>
                hitems inner (List.dropLast_subset _ hmem)
              have hchanged : DistinctEntries last' :=
                @ih _ ⟨.header, last⟩ (hitems last (List.mem_of_getLast? hlast)) hinner
              refine h.replaceEntry (Node.distinct_tables_iff.2 ?_)
              exact List.forall_mem_append.2 ⟨hfront, List.forall_mem_singleton.2 hchanged⟩

theorem addValue (h : DistinctEntries entries) {path : List String} {v : Value} (hv : v.Distinct)
    {origin : Origin} {entries' : Entries}
    (hadd : addValue path key v ⟨origin, entries⟩ = some entries') : DistinctEntries entries' := by
  refine changeAt (fun place changed hplace hchange => ?_) h hadd
  split at hchange
  · cases hchange
  · exact hplace.addEntry (.value hv) hchange

end DistinctEntries

namespace Document

structure Distinct (d : Document) : Prop where
  root : DistinctEntries d.root
  current : ∀ o ∈ d.current, DistinctEntries o.entries

variable {d d' : Document} {path : List String} {key : String}

theorem distinct_empty : empty.Distinct :=
  ⟨.nil, nofun⟩

theorem Distinct.close (h : d.Distinct) {root : Entries} (hclose : d.close = some root) :
    DistinctEntries root := by
  unfold Document.close at hclose
  split at hclose
  · cases hclose
    exact h.root
  · next o hcurrent =>
      have ho := h.current o hcurrent
      refine DistinctEntries.changeAt (fun parent changed hparent hchange => ?_) h.root hclose
      dsimp only at hchange
      split at hchange
      · split at hchange
        · next items hkey =>
            cases hchange
            have hitems := Node.distinct_tables_iff.1 (hparent.of_lookup hkey)
            refine hparent.replaceEntry (Node.distinct_tables_iff.2 ?_)
            exact List.forall_mem_append.2 ⟨hitems, List.forall_mem_singleton.2 ho⟩
        · cases hchange
      · exact hparent.addEntry (Node.distinct_table_iff.2 ho) hchange

theorem distinct_find {entries : Entries} (h : DistinctEntries entries) {node : Node}
    (hfind : find key path entries = some node) : node.Distinct := by
  induction path generalizing entries with
  | nil => exact h.of_lookup hfind
  | cons k path ih =>
      unfold find at hfind
      split at hfind
      · next origin inner hkey => exact ih (Node.distinct_table_iff.1 (h.of_lookup hkey)) hfind
      · next items hkey =>
          have hitems := Node.distinct_tables_iff.1 (h.of_lookup hkey)
          refine ih ?_ hfind
          cases hlast : items.getLast? with
          | none => exact .nil
          | some last => exact hitems last (List.mem_of_getLast? hlast)
      · cases hfind

theorem Distinct.openTable (h : d.Distinct) (hopen : d.openTable path key = some d') :
    d'.Distinct := by
  obtain ⟨closed, hclosed, hopen⟩ := Option.bind_eq_some_iff.1 hopen
  obtain ⟨root, hchange, hopen⟩ := Option.bind_eq_some_iff.1 hopen
  have hdistinct := h.close hclosed
  cases hopen
  constructor
  · refine hdistinct.changeAt (fun parent changed hparent hchange => ?_) hchange
    split at hchange
    · cases hchange
      exact hparent
    · cases hchange
      exact hparent.filter _
    · cases hchange
  · rintro _ ⟨⟩
    dsimp only
    split
    · next entries hfind => exact Node.distinct_table_iff.1 (distinct_find hdistinct hfind)
    · exact .nil

theorem Distinct.openArray (h : d.Distinct) (hopen : d.openArray path key = some d') :
    d'.Distinct := by
  obtain ⟨closed, hclosed, hopen⟩ := Option.bind_eq_some_iff.1 hopen
  obtain ⟨root, hchange, hopen⟩ := Option.bind_eq_some_iff.1 hopen
  cases hopen
  constructor
  · refine (h.close hclosed).changeAt (fun parent changed hparent hchange => ?_) hchange
    split at hchange
    · next hkey =>
        cases hchange
        exact hparent.concat hkey (Node.distinct_tables_iff.2 nofun)
    · cases hchange
      exact hparent
    · cases hchange
  · rintro _ ⟨⟩
    exact .nil

theorem Distinct.add (h : d.Distinct) {v : Value} (hv : v.Distinct)
    (hadd : d.add path key v = some d') : d'.Distinct := by
  unfold Document.add at hadd
  split at hadd
  · obtain ⟨root, hroot, hadd⟩ := Option.bind_eq_some_iff.1 hadd
    cases hadd
    exact ⟨h.root.addValue hv hroot, nofun⟩
  · next o hcurrent =>
      obtain ⟨entries, hentries, hadd⟩ := Option.bind_eq_some_iff.1 hadd
      cases hadd
      refine ⟨h.root, ?_⟩
      rintro _ ⟨⟩
      exact (h.current o hcurrent).addValue hv hentries

theorem Distinct.toTable (h : d.Distinct) {table : Table} (htable : d.toTable = some table) :
    (Value.table table).Distinct := by
  obtain ⟨root, hroot, htable⟩ := Option.bind_eq_some_iff.1 htable
  cases htable
  exact (h.close hroot).toTable

end Document

namespace Parser

open Text.Parser

theorem distinct_addPairs {pairs : List ((List String × String) × Value)}
    {entries entries' : Entries} (hpairs : ∀ p ∈ pairs, p.2.Distinct) (h : DistinctEntries entries)
    (hadd : addPairs pairs entries = some entries') : DistinctEntries entries' := by
  induction pairs generalizing entries with
  | nil =>
      cases hadd
      exact h
  | cons pair rest ih =>
      obtain ⟨hpair, hrest⟩ := List.forall_mem_cons.1 hpairs
      obtain ⟨added, hadded, hadd⟩ := Option.bind_eq_some_iff.1 hadd
      exact ih hrest (h.addValue hpair hadded) hadd

theorem yields_scalar : Yields Value.Distinct scalar :=
  .orElse (.skip fun _ => .pure .string) <| .orElse (.skip fun _ => .pure .datetime) <|
    .orElse (.skip fun _ => .pure .float) <| .orElse (.skip fun _ => .pure .integer) <|
      .orElse (.skip fun _ => .pure .boolean) (.skip fun _ => .pure .boolean)

section

variable {item : Parser Value}

theorem yields_arrayOf (h : Yields Value.Distinct item) : Yields Value.Distinct (arrayOf item) := by
  have hitem : Yields Value.Distinct (do spacing; let v ← item; spacing; return v) :=
    .skip fun _ => h.bind fun v hv => .skip fun _ => .pure hv
  have hitems : Yields (fun items => ∀ v ∈ items, v.Distinct) (do
      let items ← separated1 (do spacing; let v ← item; spacing; return v) (exact ",")
      let _ ← maybe (exact ",")
      return items) :=
    hitem.separated1.bind fun items hitems => .skip fun _ => .pure hitems
  refine .skip fun _ => hitems.maybe.bind fun found hfound => .skip fun _ => .skip fun _ =>
    .pure (.array ?_)
  cases found with
  | none => exact nofun
  | some items => exact hfound items rfl

theorem yields_inlineTable (h : Yields Value.Distinct item) :
    Yields Value.Distinct (inlineTable item) := by
  have hpair : Yields (fun pair => pair.2.Distinct) (do
      let k ← key
      exact "="
      blanks
      let v ← item
      blanks
      return (k, v)) :=
    .skip fun _ => .skip fun _ => .skip fun _ => h.bind fun v hv => .skip fun _ => .pure hv
  refine .skip fun _ => hpair.separated1.maybe.bind fun found hfound => .skip fun _ =>
    .skip fun _ => Yields.ofOption.bind fun entries hentries => .pure ?_
  refine (distinct_addPairs ?_ .nil hentries).toTable
  cases found with
  | none => exact nofun
  | some pairs => exact hfound pairs rfl

end

theorem yields_value (depth : Nat) : Yields Value.Distinct (value depth) := by
  induction depth with
  | zero => exact yields_scalar
  | succ depth ih => exact yields_scalar.orElse ((yields_arrayOf ih).orElse (yields_inlineTable ih))

section

variable {d : Document}

theorem yields_arrayHeader (h : d.Distinct) : Yields Document.Distinct (arrayHeader d) :=
  .skip fun _ => .skip fun _ => .skip fun _ => .skip fun _ => .mono .ofOption fun _ => h.openArray

theorem yields_tableHeader (h : d.Distinct) : Yields Document.Distinct (tableHeader d) :=
  .skip fun _ => .skip fun _ => .skip fun _ => .skip fun _ => .mono .ofOption fun _ => h.openTable

theorem yields_keyValue (h : d.Distinct) : Yields Document.Distinct (keyValue d) :=
  .skip fun _ => .skip fun _ => .skip fun _ => (yields_value depthLimit).bind fun _ hv =>
    .skip fun _ => .mono .ofOption fun _ => h.add hv

theorem yields_line (h : d.Distinct) : Yields Document.Distinct (line d) := by
  have hempty : Yields Document.Distinct (emptyLine d) := .skip fun _ => .pure h
  refine (hempty.orElse ?_).bind fun d' hd' => .skip fun _ => .pure hd'
  exact (yields_arrayHeader h).orElse ((yields_tableHeader h).orElse (yields_keyValue h))

end

theorem yields_document : Yields Document.Distinct document :=
  .skip fun _ => .extended (fun _ => yields_line) Document.distinct_empty

end Parser

theorem distinct_parse {text : String} {table : Table} (h : parse text = some table) :
    (Value.table table).Distinct := by
  obtain ⟨parsed, hparsed, htable⟩ := Option.bind_eq_some_iff.1 h
  have hrun : Text.Parser.Yields Document.Distinct
      (do let d ← Parser.document; Text.Parser.atEnd; return d) :=
    Parser.yields_document.bind fun d hd => .skip fun _ => .pure hd
  exact (hrun.value hparsed).toTable htable

end BridgeTypings.Toml
