import BridgeTypings.Proofs.OrderedMap
import BridgeTypings.Proofs.Outcome
import BridgeTypings.Proofs.Toml.Distinct
import BridgeTypings.Settings.Load

namespace BridgeTypings.Settings.Schema

open Outcome Toml

def IsText (v : Value) : Prop :=
  ∃ text, v = .string text

inductive IsSection (keys : List String) : Value → Prop
  | table {entries : Table} :
      (∀ e ∈ entries, e.1 ∈ keys ∧ IsText e.2) → IsSection keys (.table entries)
  | array {items : List Value} :
      (∀ v ∈ items.take keys.length, IsText v) → IsSection keys (.array items)

inductive IsTypes (IsMap : Value → Prop) : Value → Prop
  | table {entries : Table} :
      (∀ e ∈ entries, e.1 = "map" ∧ IsMap e.2) → IsTypes IsMap (.table entries)
  | array {items : List Value} : (∀ v ∈ items.head?, IsMap v) → IsTypes IsMap (.array items)

def runnerKeys : List String :=
  ["path", "class", "init_method", "receiver", "register_method"]

def apiKeys : List String :=
  ["dir", "extension", "field_annotation", "method_annotation"]

structure IsConfiguration (IsMap : Value → Prop) (table : Table) : Prop where
  keys : ∀ e ∈ table, e.1 ∈ ["runner", "api", "types"]
  runner : ∀ e ∈ table, e.1 = "runner" → IsSection runnerKeys e.2
  api : ∀ e ∈ table, e.1 = "api" → IsSection apiKeys e.2
  types : ∀ e ∈ table, e.1 = "types" → IsTypes IsMap e.2

def IsTextTable (v : Value) : Prop :=
  ∃ entries : Table, v = .table entries ∧ ∀ e ∈ entries, IsText e.2

def IsNames (v : Value) : Prop :=
  IsTextTable v ∨ ∃ text, v = .datetime text

section

variable {IsMap : Value → Prop}

instance (v : Value) : Decidable (IsText v) :=
  match v with
  | .string text => .isTrue ⟨text, rfl⟩
  | .integer _ | .float _ | .boolean _ | .datetime _ | .array _ | .table _ => .isFalse nofun

instance (v : Value) : Decidable (IsTextTable v) :=
  match v with
  | .table entries => decidable_of_iff (∀ e ∈ entries, IsText e.2) (by simp [IsTextTable])
  | .string _ | .integer _ | .float _ | .boolean _ | .datetime _ | .array _ =>
      .isFalse fun ⟨_, h, _⟩ => nomatch h

instance (keys : List String) (v : Value) : Decidable (IsSection keys v) :=
  match v with
  | .table entries =>
      decidable_of_iff (∀ e ∈ entries, e.1 ∈ keys ∧ IsText e.2) ⟨.table, fun | .table h => h⟩
  | .array items =>
      decidable_of_iff (∀ v ∈ items.take keys.length, IsText v) ⟨.array, fun | .array h => h⟩
  | .string _ | .integer _ | .float _ | .boolean _ | .datetime _ => .isFalse nofun

instance [DecidablePred IsMap] (v : Value) : Decidable (IsTypes IsMap v) :=
  match v with
  | .table entries =>
      decidable_of_iff (∀ e ∈ entries, e.1 = "map" ∧ IsMap e.2) ⟨.table, fun | .table h => h⟩
  | .array items => decidable_of_iff (∀ v ∈ items.head?, IsMap v) ⟨.array, fun | .array h => h⟩
  | .string _ | .integer _ | .float _ | .boolean _ | .datetime _ => .isFalse nofun

theorem isConfiguration_iff {table : Table} : IsConfiguration IsMap table ↔
    ∀ e ∈ table, e.1 ∈ ["runner", "api", "types"] ∧ (e.1 = "runner" → IsSection runnerKeys e.2) ∧
      (e.1 = "api" → IsSection apiKeys e.2) ∧ (e.1 = "types" → IsTypes IsMap e.2) := by
  constructor
  · intro h e he
    exact ⟨h.keys e he, h.runner e he, h.api e he, h.types e he⟩
  · intro h
    exact ⟨fun e he => (h e he).1, fun e he => (h e he).2.1, fun e he => (h e he).2.2.1,
      fun e he => (h e he).2.2.2⟩

instance [DecidablePred IsMap] (table : Table) : Decidable (IsConfiguration IsMap table) :=
  decidable_of_iff _ isConfiguration_iff.symm

end

def textProblems (wanted : String) : Value → List ConfigProblem
  | .string _ => []
  | v => [.wrongType (describe v) wanted]

abbrev Field :=
  String × (Value → List ConfigProblem)

def fieldProblems (fields : List Field) (e : String × Value) : List ConfigProblem :=
  match fields.lookup e.1 with
  | some problems => problems e.2
  | none => [.unknownField e.1 (fields.map Prod.fst)]

def structProblems (name : String) (fields : List Field) : Value → List ConfigProblem
  | .table entries => entries.flatMap (fieldProblems fields)
  | .array items => (fields.zip items).flatMap fun place => place.1.2 place.2
  | .datetime text => fieldProblems fields (datetimeKey, .string text)
  | v => [.wrongType (describe v) ("struct " ++ name)]

def mapProblems : Value → List ConfigProblem
  | .table entries => entries.flatMap fun e => textProblems "a string" e.2
  | .datetime text => textProblems "a string" (.string text)
  | v => [.wrongType (describe v) "a map"]

def settingFields (settings : List Setting) : List Field :=
  settings.map fun s => (s.key, textProblems s.wanted)

def sections : List Field :=
  [("runner", structProblems "RunnerConfig" (settingFields runnerSettings)),
    ("api", structProblems "ApiConfig" (settingFields apiSettings)),
    ("types", structProblems "TypesConfig" [("map", mapProblems)])]

def problems (table : Table) : List ConfigProblem :=
  table.flatMap (fieldProblems sections)

abbrev FailsAt {α : Type} (problems : List ConfigProblem) (x : Except ConfigProblem α) : Prop :=
  FailsFirst id problems x

theorem failsAt_error {α : Type} (p : ConfigProblem) :
    FailsAt [p] (.error p : Except ConfigProblem α) :=
  ⟨p, rfl, rfl⟩

theorem failsAt_readString (wanted : String) (v : Value) :
    FailsAt (textProblems wanted v) (readString wanted v) := by
  cases v with
  | string text => exact .ok text
  | _ => exact failsAt_error _

theorem lookup_settingFields (settings : List Setting) (key : String) :
    (settingFields settings).lookup key =
      (settings.find? (fun s => s.key == key)).map fun s => textProblems s.wanted := by
  induction settings with
  | nil => rfl
  | cons s rest ih =>
      rw [settingFields, List.map_cons, List.lookup_cons, List.find?_cons, ← settingFields, ih,
        Bool.beq_comm]
      cases s.key == key <;> rfl

theorem keys_settingFields (settings : List Setting) :
    (settingFields settings).map Prod.fst = settings.map Setting.key := by
  rw [settingFields, List.map_map]
  rfl

theorem failsAt_readKeys (settings : List Setting) (entries : Table) :
    FailsAt (entries.flatMap (fieldProblems (settingFields settings)))
      (readKeys settings entries) := by
  induction entries with
  | nil => exact .ok _
  | cons e rest ih =>
      obtain ⟨k, v⟩ := e
      rw [List.flatMap_cons, readKeys, fieldProblems, lookup_settingFields, keys_settingFields]
      cases settings.find? (fun s => s.key == k) with
      | none => exact ⟨_, rfl, rfl⟩
      | some s => exact (failsAt_readString s.wanted v).bind fun text => ih.map ((k, text) :: ·)

theorem failsAt_readPlaces (settings : List Setting) (items : List Value) :
    FailsAt (((settingFields settings).zip items).flatMap fun place => place.1.2 place.2)
      (readPlaces settings items) := by
  induction settings generalizing items with
  | nil => exact .ok _
  | cons s settings ih =>
      cases items with
      | nil => exact .ok _
      | cons v rest =>
          exact (failsAt_readString s.wanted v).bind fun text => (ih rest).map ((s.key, text) :: ·)

theorem failsAt_readSection {name : String} {settings : List Setting}
    (hdatetime : settings.find? (fun s => s.key == datetimeKey) = none) (v : Value) :
    FailsAt (structProblems name (settingFields settings) v) (readSection name settings v) := by
  cases v with
  | table entries => exact failsAt_readKeys settings entries
  | array items => exact failsAt_readPlaces settings items
  | datetime text =>
      rw [structProblems, fieldProblems, lookup_settingFields, hdatetime, keys_settingFields]
      exact failsAt_error _
  | _ => exact failsAt_error _

theorem failsAt_readNames (entries : Table) :
    FailsAt (entries.flatMap fun e => textProblems "a string" e.2) (readNames entries) := by
  induction entries with
  | nil => exact .ok _
  | cons e rest ih =>
      exact (failsAt_readString "a string" e.2).bind fun text => ih.map ((e.1, text) :: ·)

theorem failsAt_readMap (v : Value) : FailsAt (mapProblems v) (readMap v) := by
  cases v with
  | table entries => exact failsAt_readNames entries
  | datetime text => exact .ok _
  | _ => exact failsAt_error _

theorem failsAt_readTypesTable (entries : Table) :
    FailsAt (entries.flatMap (fieldProblems [("map", mapProblems)])) (readTypesTable entries) := by
  induction entries with
  | nil => exact .ok _
  | cons e rest ih =>
      obtain ⟨k, v⟩ := e
      rw [List.flatMap_cons, readTypesTable, fieldProblems, List.lookup_cons]
      by_cases hk : k = "map"
      · subst hk
        exact (failsAt_readMap v).bind fun names => ih.map (names ++ ·)
      · rw [if_neg hk, beq_false_of_ne hk]
        exact ⟨_, rfl, rfl⟩

theorem failsAt_readTypes (v : Value) :
    FailsAt (structProblems "TypesConfig" [("map", mapProblems)] v) (readTypes v) := by
  cases v with
  | table entries => exact failsAt_readTypesTable entries
  | array items =>
      cases items with
      | nil => exact .ok _
      | cons v rest =>
          rw [structProblems, List.zip_cons_cons, List.zip_nil_left, List.flatMap_singleton]
          exact failsAt_readMap v
  | _ => exact failsAt_error _

theorem failsAt_readRunner (v : Value) :
    FailsAt (structProblems "RunnerConfig" (settingFields runnerSettings) v) (readRunner v) :=
  (failsAt_readSection (by decide) v).map _

theorem failsAt_readApi (v : Value) :
    FailsAt (structProblems "ApiConfig" (settingFields apiSettings) v) (readApi v) :=
  (failsAt_readSection (by decide) v).map _

theorem failsAt_readSections (table : Table) (s : Settings) :
    FailsAt (problems table) (readSections table s) := by
  induction table generalizing s with
  | nil => exact .ok _
  | cons e rest ih =>
      obtain ⟨k, v⟩ := e
      rw [problems, List.flatMap_cons, ← problems, fieldProblems, sections, readSections]
      by_cases hrunner : k = "runner"
      · subst hrunner
        exact (failsAt_readRunner v).bind fun r => ih _
      by_cases hapi : k = "api"
      · subst hapi
        exact (failsAt_readApi v).bind fun a => ih _
      by_cases htypes : k = "types"
      · subst htypes
        exact (failsAt_readTypes v).bind fun names => ih _
      · simp only [List.lookup_cons, beq_false_of_ne hrunner, beq_false_of_ne hapi,
          beq_false_of_ne htypes, List.lookup_nil, if_neg hrunner, if_neg hapi, if_neg htypes]
        exact ⟨_, rfl, rfl⟩

theorem textProblems_eq_nil_iff {wanted : String} {v : Value} :
    textProblems wanted v = [] ↔ IsText v := by
  cases v with
  | string text => exact iff_of_true rfl ⟨text, rfl⟩
  | _ => exact iff_of_false nofun nofun

theorem fieldProblems_settings_eq_nil_iff {settings : List Setting} {e : String × Value} :
    fieldProblems (settingFields settings) e = [] ↔ e.1 ∈ settings.map Setting.key ∧ IsText e.2 := by
  rw [fieldProblems, lookup_settingFields]
  cases hfind : settings.find? (fun s => s.key == e.1) with
  | none =>
      have hunknown : e.1 ∉ settings.map Setting.key := by
        intro h
        obtain ⟨s, hs, hkey⟩ := List.mem_map.1 h
        exact List.find?_eq_none.1 hfind s hs (beq_iff_eq.2 hkey)
      exact iff_of_false nofun fun h => hunknown h.1
  | some s =>
      have hkey : s.key = e.1 := by simpa using List.find?_some hfind
      have hknown : e.1 ∈ settings.map Setting.key :=
        hkey ▸ List.mem_map_of_mem (List.mem_of_find?_eq_some hfind)
      exact textProblems_eq_nil_iff.trans (and_iff_right hknown).symm

theorem placeProblems_eq_nil_iff {settings : List Setting} {items : List Value} :
    ((settingFields settings).zip items).flatMap (fun place => place.1.2 place.2) = [] ↔
      ∀ v ∈ items.take settings.length, IsText v := by
  induction settings generalizing items with
  | nil => simp [settingFields]
  | cons s settings ih =>
      cases items with
      | nil => exact iff_of_true rfl nofun
      | cons v rest =>
          rw [List.length_cons, List.take_succ_cons, List.forall_mem_cons, ← ih,
            ← textProblems_eq_nil_iff]
          exact List.append_eq_nil_iff

theorem sectionProblems_eq_nil_iff {name : String} {settings : List Setting} {v : Value}
    (hdatetime : datetimeKey ∉ settings.map Setting.key) :
    structProblems name (settingFields settings) v = [] ↔ IsSection (settings.map Setting.key) v := by
  cases v with
  | table entries =>
      rw [structProblems, List.flatMap_eq_nil_iff]
      simp only [fieldProblems_settings_eq_nil_iff]
      constructor
      · exact .table
      · rintro ⟨h⟩
        exact h
  | array items =>
      rw [structProblems, placeProblems_eq_nil_iff, ← List.length_map Setting.key]
      constructor
      · exact .array
      · rintro (_ | h)
        exact h
  | datetime text =>
      rw [structProblems, fieldProblems_settings_eq_nil_iff]
      exact iff_of_false (fun h => hdatetime h.1) nofun
  | _ => exact iff_of_false nofun nofun

theorem mapProblems_eq_nil_iff {v : Value} : mapProblems v = [] ↔ IsNames v := by
  cases v with
  | table entries =>
      rw [mapProblems, List.flatMap_eq_nil_iff]
      simp only [textProblems_eq_nil_iff]
      simp [IsNames, IsTextTable]
  | datetime text => exact iff_of_true rfl (.inr ⟨text, rfl⟩)
  | _ => exact iff_of_false nofun (by simp [IsNames, IsTextTable])

theorem typesProblems_eq_nil_iff {v : Value} :
    structProblems "TypesConfig" [("map", mapProblems)] v = [] ↔ IsTypes IsNames v := by
  cases v with
  | table entries =>
      have hfield (e : String × Value) :
          fieldProblems [("map", mapProblems)] e = [] ↔ e.1 = "map" ∧ IsNames e.2 := by
        rw [fieldProblems, List.lookup_cons, ← mapProblems_eq_nil_iff]
        by_cases hkey : e.1 = "map"
        · rw [hkey]
          exact (and_iff_right rfl).symm
        · rw [beq_false_of_ne hkey]
          exact iff_of_false nofun fun h => hkey h.1
      rw [structProblems, List.flatMap_eq_nil_iff]
      simp only [hfield]
      constructor
      · exact .table
      · rintro ⟨h⟩
        exact h
  | array items =>
      have hitems : structProblems "TypesConfig" [("map", mapProblems)] (.array items) = [] ↔
          ∀ v ∈ items.head?, IsNames v := by
        cases items with
        | nil => exact iff_of_true rfl nofun
        | cons v rest => simp [structProblems, mapProblems_eq_nil_iff]
      rw [hitems]
      constructor
      · exact .array
      · rintro (_ | h)
        exact h
  | _ => exact iff_of_false nofun nofun

theorem fieldProblems_sections_eq_nil_iff {e : String × Value} :
    fieldProblems sections e = [] ↔ (e.1 = "runner" ∧ IsSection runnerKeys e.2) ∨
      (e.1 = "api" ∧ IsSection apiKeys e.2) ∨ (e.1 = "types" ∧ IsTypes IsNames e.2) := by
  have hrunner : structProblems "RunnerConfig" (settingFields runnerSettings) e.2 = [] ↔
      IsSection runnerKeys e.2 := sectionProblems_eq_nil_iff (by decide)
  have hapi : structProblems "ApiConfig" (settingFields apiSettings) e.2 = [] ↔
      IsSection apiKeys e.2 := sectionProblems_eq_nil_iff (by decide)
  rw [← hrunner, ← hapi, ← typesProblems_eq_nil_iff, fieldProblems, sections]
  by_cases hrunner : e.1 = "runner"
  · simp [hrunner]
  by_cases hapi : e.1 = "api"
  · simp [hapi, List.lookup_cons]
  by_cases htypes : e.1 = "types"
  · simp [htypes, List.lookup_cons]
  · simp [List.lookup_cons, beq_false_of_ne, hrunner, hapi, htypes]

theorem problems_eq_nil_iff {table : Table} :
    problems table = [] ↔ IsConfiguration IsNames table := by
  rw [problems, List.flatMap_eq_nil_iff, isConfiguration_iff]
  refine forall₂_congr fun e _ => ?_
  rw [fieldProblems_sections_eq_nil_iff]
  by_cases hrunner : e.1 = "runner"
  · simp [hrunner]
  by_cases hapi : e.1 = "api"
  · simp [hapi]
  by_cases htypes : e.1 = "types"
  · simp [htypes]
  · simp [hrunner, hapi, htypes]

end BridgeTypings.Settings.Schema
