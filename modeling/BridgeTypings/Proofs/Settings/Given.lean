import BridgeTypings.Proofs.Settings.Schema

namespace BridgeTypings.Settings.Schema

open Outcome Toml

def asTable : Value → Table
  | .table entries => entries
  | .datetime text => [(datetimeKey, .string text)]
  | _ => []

def entriesOf (keys : List String) : Value → Table
  | .array items => keys.zip items
  | v => asTable v

def given? (table : Table) (name : String) (keys : List String) (key : String) : Option Value :=
  (table.lookup name).bind fun v => (entriesOf keys v).lookup key

def runnerValues (r : RunnerSettings) : List (Option Value) :=
  [r.path, r.className, r.initMethod, r.receiver, r.registerMethod].map (Option.map .string)

def apiValues (a : ApiSettings) : List (Option Value) :=
  [a.dir, a.extension, a.fieldMarker, a.methodMarker].map (Option.map .string)

structure Gives (table : Table) (s : Settings) : Prop where
  runner : runnerValues s.runner = runnerKeys.map (given? table "runner" runnerKeys)
  api : apiValues s.api = apiKeys.map (given? table "api" apiKeys)
  names : s.names.entries.map (fun e => (e.1, .string e.2)) =
    (given? table "types" ["map"] "map").elim [] asTable

def texts (given : List (String × String)) : Table :=
  given.map fun e => (e.1, .string e.2)

theorem lookup_texts (given : List (String × String)) (key : String) :
    (texts given).lookup key = (given.lookup key).map .string := by
  induction given with
  | nil => rfl
  | cons e rest ih =>
      rw [texts, List.map_cons, List.lookup_cons, List.lookup_cons, ← texts, ih]
      cases key == e.1 <;> rfl

theorem keys_texts (given : List (String × String)) :
    (texts given).map Prod.fst = given.map Prod.fst := by
  rw [texts, List.map_map]
  rfl

theorem eq_string_of_readString {wanted text : String} {v : Value}
    (h : readString wanted v = .ok text) : v = .string text := by
  cases v with
  | string text' =>
      cases h
      rfl
  | _ => cases h

theorem texts_of_readKeys {settings : List Setting} {entries : Table}
    {given : List (String × String)} (h : readKeys settings entries = .ok given) :
    texts given = entries := by
  induction entries generalizing given with
  | nil =>
      cases h
      rfl
  | cons e rest ih =>
      obtain ⟨k, v⟩ := e
      unfold readKeys at h
      split at h
      · cases h
      · obtain ⟨text, htext, h⟩ := bind_eq_ok.1 h
        obtain ⟨more, hmore, h⟩ := bind_eq_ok.1 h
        cases h
        rw [eq_string_of_readString htext, ← ih hmore]
        rfl

theorem texts_of_readPlaces {settings : List Setting} {items : List Value}
    {given : List (String × String)} (h : readPlaces settings items = .ok given) :
    texts given = (settings.map Setting.key).zip items := by
  induction settings generalizing items given with
  | nil =>
      cases h
      rfl
  | cons s settings ih =>
      cases items with
      | nil =>
          cases h
          rfl
      | cons v rest =>
          obtain ⟨text, htext, h⟩ := bind_eq_ok.1 h
          obtain ⟨more, hmore, h⟩ := bind_eq_ok.1 h
          cases h
          rw [eq_string_of_readString htext, List.map_cons, List.zip_cons_cons, ← ih hmore]
          rfl

theorem texts_of_readSection {name : String} {settings : List Setting} {v : Value}
    {given : List (String × String)} (h : readSection name settings v = .ok given) :
    texts given = entriesOf (settings.map Setting.key) v := by
  cases v with
  | table entries => exact texts_of_readKeys h
  | array items => exact texts_of_readPlaces h
  | _ => cases h

theorem runner_of_readRunner {v : Value} {r : RunnerSettings} (h : readRunner v = .ok r) :
    runnerValues r = runnerKeys.map fun key => (entriesOf runnerKeys v).lookup key := by
  obtain ⟨given, hgiven, h⟩ := bind_eq_ok.1 h
  cases h
  have htexts : texts given = entriesOf runnerKeys v := texts_of_readSection hgiven
  simp only [← htexts, lookup_texts]
  rfl

theorem api_of_readApi {v : Value} {a : ApiSettings} (h : readApi v = .ok a) :
    apiValues a = apiKeys.map fun key => (entriesOf apiKeys v).lookup key := by
  obtain ⟨given, hgiven, h⟩ := bind_eq_ok.1 h
  cases h
  have htexts : texts given = entriesOf apiKeys v := texts_of_readSection hgiven
  simp only [← htexts, lookup_texts]
  rfl

theorem texts_of_readNames {entries : Table} {names : List (String × String)}
    (h : readNames entries = .ok names) : texts names = entries := by
  induction entries generalizing names with
  | nil =>
      cases h
      rfl
  | cons e rest ih =>
      obtain ⟨k, v⟩ := e
      obtain ⟨text, htext, h⟩ := bind_eq_ok.1 h
      obtain ⟨more, hmore, h⟩ := bind_eq_ok.1 h
      cases h
      rw [eq_string_of_readString htext, ← ih hmore]
      rfl

theorem texts_of_readMap {v : Value} {names : List (String × String)} (h : readMap v = .ok names) :
    texts names = asTable v := by
  cases v with
  | table entries => exact texts_of_readNames h
  | datetime text =>
      cases h
      rfl
  | _ => cases h

theorem readTypesTable_cons {k : String} {v : Value} {rest : Table} {names : List (String × String)}
    (h : readTypesTable ((k, v) :: rest) = .ok names) : k = "map" ∧
      ∃ first, readMap v = .ok first ∧
        ∃ more, readTypesTable rest = .ok more ∧ names = first ++ more := by
  unfold readTypesTable at h
  split at h
  · next hk =>
      obtain ⟨first, hfirst, h⟩ := bind_eq_ok.1 h
      obtain ⟨more, hmore, h⟩ := bind_eq_ok.1 h
      cases h
      exact ⟨hk, first, hfirst, more, hmore, rfl⟩
  · cases h

theorem texts_of_readTypes {v : Value} (hv : v.Distinct) {names : List (String × String)}
    (h : readTypes v = .ok names) :
    texts names = ((entriesOf ["map"] v).lookup "map").elim [] asTable := by
  cases v with
  | table entries =>
      obtain ⟨hkeys, -⟩ := Value.distinct_table_iff.1 hv
      cases entries with
      | nil =>
          cases h
          rfl
      | cons e rest =>
          obtain ⟨k, v⟩ := e
          obtain ⟨rfl, first, hfirst, more, hmore, rfl⟩ := readTypesTable_cons h
          cases rest with
          | nil =>
              cases hmore
              rw [List.append_nil]
              exact texts_of_readMap hfirst
          | cons e rest =>
              obtain ⟨k, v⟩ := e
              -- the keys are distinct, and only one is known
              obtain ⟨rfl, -⟩ := readTypesTable_cons hmore
              simp at hkeys
  | array items =>
      cases items with
      | nil =>
          cases h
          rfl
      | cons v rest => exact texts_of_readMap h
  | _ => cases h

structure Follows (table : Table) (s s' : Settings) : Prop where
  runner : (table.lookup "runner").elim (.ok s.runner) readRunner = .ok s'.runner
  api : (table.lookup "api").elim (.ok s.api) readApi = .ok s'.api
  names : (table.lookup "types").elim (.ok s.names) (fun v => (readTypes v).map .ofList) =
    .ok s'.names

theorem follows_of_readSections {table : Table} (hkeys : (table.map Prod.fst).Nodup)
    {s s' : Settings} (h : readSections table s = .ok s') : Follows table s s' := by
  induction table generalizing s with
  | nil =>
      cases h
      exact ⟨rfl, rfl, rfl⟩
  | cons e rest ih =>
      obtain ⟨k, v⟩ := e
      obtain ⟨hk, hrest⟩ := List.nodup_cons.1 hkeys
      have hnone : rest.lookup k = none := lookup_eq_none_iff_not_mem.2 hk
      unfold readSections at h
      split at h
      · next hrunner =>
          subst hrunner
          obtain ⟨r, hr, h⟩ := bind_eq_ok.1 h
          obtain ⟨hrunner, hapi, hnames⟩ := ih hrest h
          rw [hnone] at hrunner
          cases hrunner
          exact ⟨hr, hapi, hnames⟩
      split at h
      · next hapi =>
          subst hapi
          obtain ⟨a, ha, h⟩ := bind_eq_ok.1 h
          obtain ⟨hrunner, hapi, hnames⟩ := ih hrest h
          rw [hnone] at hapi
          cases hapi
          exact ⟨hrunner, ha, hnames⟩
      split at h
      · next htypes =>
          subst htypes
          obtain ⟨names, hn, h⟩ := bind_eq_ok.1 h
          obtain ⟨hrunner, hapi, hnames⟩ := ih hrest h
          rw [hnone] at hnames
          refine ⟨hrunner, hapi, ?_⟩
          rw [← hnames]
          exact congrArg (Except.map OrderedMap.ofList) hn
      · cases h

theorem nodup_asTable {v : Value} (h : v.Distinct) : ((asTable v).map Prod.fst).Nodup := by
  cases h with
  | table hkeys _ => exact hkeys
  | datetime => exact List.nodup_singleton _
  | _ => exact List.nodup_nil

theorem distinct_of_lookup_entriesOf {v m : Value} (h : v.Distinct) {keys : List String}
    {key : String} (hm : (entriesOf keys v).lookup key = some m) : m.Distinct := by
  obtain ⟨front, behind, hsplit, -⟩ := List.lookup_eq_some_iff.1 hm
  have hmem : (key, m) ∈ entriesOf keys v := by simp [hsplit]
  cases h with
  | table _ hvalues => exact hvalues _ hmem
  | array hitems => exact hitems m (List.of_mem_zip hmem).2
  | datetime =>
      obtain rfl := (Prod.mk.inj (List.mem_singleton.1 hmem)).2
      exact .string
  | _ => cases hmem

section

variable {table : Table}

theorem given_of_read {α : Type} {name : String} {keys : List String}
    {read : Value → Except ConfigProblem α} {values : α → List (Option Value)} {unset a : α}
    (hread : ∀ v a, read v = .ok a →
      values a = keys.map fun key => (entriesOf keys v).lookup key)
    (hunset : values unset = keys.map fun _ => none)
    (h : (table.lookup name).elim (.ok unset) read = .ok a) :
    values a = keys.map (given? table name keys) := by
  unfold given?
  cases hlookup : table.lookup name with
  | none =>
      rw [hlookup] at h
      cases h
      exact hunset
  | some v =>
      rw [hlookup] at h
      exact hread v a h

theorem gives_names (hvalues : ∀ v ∈ table.lookup "types", v.Distinct) {names : OrderedMap String}
    (h : (table.lookup "types").elim (.ok {}) (fun v => (readTypes v).map .ofList) = .ok names) :
    names.entries.map (fun e => (e.1, Value.string e.2)) =
      (given? table "types" ["map"] "map").elim [] asTable := by
  unfold given?
  cases hlookup : table.lookup "types" with
  | none =>
      rw [hlookup] at h
      cases h
      rfl
  | some v =>
      rw [hlookup] at h
      obtain ⟨read, hread, rfl⟩ := map_eq_ok.1 h
      have hv := hvalues v hlookup
      have htexts := texts_of_readTypes hv hread
      have hkeys : (read.map Prod.fst).Nodup := by
        rw [← keys_texts, htexts]
        cases hmap : (entriesOf ["map"] v).lookup "map" with
        | none => exact List.nodup_nil
        | some m => exact nodup_asTable (distinct_of_lookup_entriesOf hv hmap)
      rw [OrderedMap.entries_ofList hkeys]
      exact htexts

theorem gives_of_readSections (htable : (Value.table table).Distinct) {s : Settings}
    (h : readSections table {} = .ok s) : Gives table s := by
  obtain ⟨hkeys, -⟩ := Value.distinct_table_iff.1 htable
  have hfollows := follows_of_readSections hkeys h
  have htypes : ∀ v ∈ table.lookup "types", v.Distinct := fun v hv =>
    @distinct_of_lookup_entriesOf _ _ htable [] _ hv
  exact ⟨given_of_read (fun _ _ => runner_of_readRunner) rfl hfollows.runner,
    given_of_read (fun _ _ => api_of_readApi) rfl hfollows.api, gives_names htypes hfollows.names⟩

end

theorem loadFile_of_read {fs : FileSystem} {path text : String} {table : Table}
    (hread : fs.read path = .ok text) (hparse : Toml.parse text = some table) :
    loadFile fs path = (readSections table {}).mapError (.config path) := by
  simp only [loadFile, hread, Schema.read, hparse]
  cases readSections table {} <;> rfl

theorem loadFile_table {fs : FileSystem} {path text : String} {table : Table}
    (hread : fs.read path = .ok text) (hparse : Toml.parse text = some table) :
    ((∃ s, loadFile fs path = .ok s) ↔ IsConfiguration IsNames table) ∧
      (∀ s, loadFile fs path = .ok s → Gives table s) ∧
      ∀ e, loadFile fs path = .error e ↔
        ∃ p, (problems table).head? = some p ∧ e = .config path p := by
  have hfails := failsAt_readSections table {}
  rw [loadFile_of_read hread hparse]
  simp only [mapError_eq_ok]
  refine ⟨hfails.ok_iff.trans problems_eq_nil_iff, fun s hs => ?_, fun e => ?_⟩
  · exact gives_of_readSections (distinct_parse hparse) hs
  · rw [mapError_eq_error]
    constructor
    · rintro ⟨problem, hproblem, rfl⟩
      obtain ⟨_, hfirst, rfl⟩ := hfails.error_iff.1 hproblem
      exact ⟨_, hfirst, rfl⟩
    · rintro ⟨p, hp, rfl⟩
      exact ⟨p, hfails.error_iff.2 ⟨p, hp, rfl⟩, rfl⟩

def placedText : String :=
  "types.map.A = 'B'\napi = ['', 'kt']\n[runner]\nclass = 'R'"

def placedFiles : FileSystem where
  root := [("placed.toml", .file placedText.toUTF8)]

theorem loadFile_placed :
    ∃ table s, Toml.parse placedText = some table ∧ loadFile placedFiles "placed.toml" = .ok s ∧
      IsConfiguration IsNames table ∧
      given? table "api" apiKeys "extension" = some (.string "kt") ∧
      given? table "runner" runnerKeys "class" = some (.string "R") ∧
      (given? table "types" ["map"] "map").elim [] asTable = [("A", .string "B")] := by
  have hread : placedFiles.read "placed.toml" = .ok placedText :=
    eq_ok_of_toOption (by decide +kernel)
  have hsome : (Toml.parse placedText).isSome = true := by decide +kernel
  obtain ⟨table, hparse⟩ := Option.isSome_iff_exists.1 hsome
  obtain ⟨hok, hgives, -⟩ := loadFile_table hread hparse
  obtain ⟨s, hs, hgiven⟩ : ∃ s, loadFile placedFiles "placed.toml" = .ok s ∧
      (s.api.extension, s.runner.className, s.names.entries) = (some "kt", some "R", [("A", "B")]) :=
    exists_ok_of_toOption (by decide +kernel)
  simp only [Prod.mk.injEq] at hgiven
  obtain ⟨hextension, hclass, hnames⟩ := hgiven
  obtain ⟨hrunner, hapi, htypes⟩ := hgives s hs
  simp only [runnerValues, apiValues, runnerKeys, apiKeys, List.map_cons, List.cons.injEq, hextension,
    hclass, hnames] at hrunner hapi htypes
  exact ⟨table, s, hparse, hs, hok.1 ⟨s, hs⟩, hapi.2.1.symm, hrunner.2.1.symm, htypes.symm⟩

def datedText : String :=
  "types.map = 1979-05-27"

def datedFiles : FileSystem where
  root := [("dated.toml", .file datedText.toUTF8)]

theorem loadFile_dated :
    ∃ table, datedFiles.read "dated.toml" = .ok datedText ∧ Toml.parse datedText = some table ∧
      (∃ s, loadFile datedFiles "dated.toml" = .ok s) ∧ ¬ IsConfiguration IsTextTable table := by
  have hread : datedFiles.read "dated.toml" = .ok datedText :=
    eq_ok_of_toOption (by decide +kernel)
  obtain ⟨s, hload, -⟩ : ∃ s, loadFile datedFiles "dated.toml" = .ok s ∧ s.api.dir = none :=
    exists_ok_of_toOption (by decide +kernel)
  have hrefused : (Toml.parse datedText).map (fun t => decide (IsConfiguration IsTextTable t)) =
      some false := by decide +kernel
  obtain ⟨table, hparse, hnot⟩ := Option.map_eq_some_iff.1 hrefused
  exact ⟨table, hread, hparse, ⟨s, hload⟩, of_decide_eq_false hnot⟩

end BridgeTypings.Settings.Schema
