import BridgeTypings.Proofs.OrderedMap
import BridgeTypings.Settings

namespace BridgeTypings

namespace RunnerSettings

theorem merge_assoc (a b c : RunnerSettings) : (a.merge b).merge c = a.merge (b.merge c) := by
  simp [merge, Option.or_assoc]

theorem empty_merge (s : RunnerSettings) : merge {} s = s := by
  simp [merge]

theorem merge_empty (s : RunnerSettings) : s.merge {} = s := by
  simp [merge]

end RunnerSettings

namespace ApiSettings

theorem merge_assoc (a b c : ApiSettings) : (a.merge b).merge c = a.merge (b.merge c) := by
  simp [merge, Option.or_assoc]

theorem empty_merge (s : ApiSettings) : merge {} s = s := by
  simp [merge]

theorem merge_empty (s : ApiSettings) : s.merge {} = s := by
  simp [merge]

end ApiSettings

namespace Settings

theorem merge_assoc (a b c : Settings) : (a.merge b).merge c = a.merge (b.merge c) := by
  simp only [merge, RunnerSettings.merge_assoc, ApiSettings.merge_assoc,
    OrderedMap.insertAll_assoc]

theorem empty_merge (s : Settings) : merge {} s = s := by
  simp only [merge, RunnerSettings.empty_merge, ApiSettings.empty_merge,
    OrderedMap.empty_insertAll]

theorem merge_empty (s : Settings) : s.merge {} = s := by
  simp only [merge, RunnerSettings.merge_empty, ApiSettings.merge_empty]
  rfl

def stack (layers : List Settings) : Settings :=
  layers.foldl merge {}

def latest {α : Type} (setting : Settings → Option α) (layers : List Settings) : Option α :=
  layers.reverse.findSome? setting

structure Overrides {α : Type} (setting : Settings → Option α) : Prop where
  empty : setting {} = none
  merge (earlier later : Settings) :
    setting (earlier.merge later) = (setting later).or (setting earlier)

section

variable {α : Type} {setting : Settings → Option α}

theorem Overrides.foldl (h : Overrides setting) (layers : List Settings) (base : Settings) :
    setting (layers.foldl Settings.merge base) = (latest setting layers).or (setting base) := by
  -- over any base: each layer makes the base of the ones behind it
  induction layers generalizing base with
  | nil => rfl
  | cons layer rest ih =>
      have hlatest : latest setting (layer :: rest) = (latest setting rest).or (setting layer) := by
        simp [latest, List.findSome?_append]
      rw [List.foldl_cons, ih, h.merge, hlatest, Option.or_assoc]

theorem Overrides.stack (h : Overrides setting) (layers : List Settings) :
    setting (stack layers) = latest setting layers := by
  rw [Settings.stack, h.foldl, h.empty, Option.or_none]

end

theorem overrides_runner {setting : RunnerSettings → Option String} (hempty : setting {} = none)
    (hmerge : ∀ a b : RunnerSettings, setting (a.merge b) = (setting b <|> setting a)) :
    Overrides (fun s => setting s.runner) where
  empty := hempty
  merge earlier later := by
    rw [merge, hmerge]
    simp

theorem overrides_api {setting : ApiSettings → Option String} (hempty : setting {} = none)
    (hmerge : ∀ a b : ApiSettings, setting (a.merge b) = (setting b <|> setting a)) :
    Overrides (fun s => setting s.api) where
  empty := hempty
  merge earlier later := by
    rw [merge, hmerge]
    simp

theorem runner_stack (layers : List Settings) : (stack layers).runner =
    { path := latest (·.runner.path) layers
      className := latest (·.runner.className) layers
      initMethod := latest (·.runner.initMethod) layers
      receiver := latest (·.runner.receiver) layers
      registerMethod := latest (·.runner.registerMethod) layers } := by
  have hlast (setting : RunnerSettings → Option String) (hempty : setting {} = none)
      (hmerge : ∀ a b : RunnerSettings, setting (a.merge b) = (setting b <|> setting a)) :
      latest (fun s => setting s.runner) layers = setting (stack layers).runner :=
    ((overrides_runner hempty hmerge).stack layers).symm
  rw [hlast RunnerSettings.path rfl fun _ _ => rfl, hlast RunnerSettings.className rfl fun _ _ => rfl,
    hlast RunnerSettings.initMethod rfl fun _ _ => rfl,
    hlast RunnerSettings.receiver rfl fun _ _ => rfl,
    hlast RunnerSettings.registerMethod rfl fun _ _ => rfl]

theorem api_stack (layers : List Settings) : (stack layers).api =
    { dir := latest (·.api.dir) layers
      extension := latest (·.api.extension) layers
      fieldMarker := latest (·.api.fieldMarker) layers
      methodMarker := latest (·.api.methodMarker) layers } := by
  have hlast (setting : ApiSettings → Option String) (hempty : setting {} = none)
      (hmerge : ∀ a b : ApiSettings, setting (a.merge b) = (setting b <|> setting a)) :
      latest (fun s => setting s.api) layers = setting (stack layers).api :=
    ((overrides_api hempty hmerge).stack layers).symm
  rw [hlast ApiSettings.dir rfl fun _ _ => rfl, hlast ApiSettings.extension rfl fun _ _ => rfl,
    hlast ApiSettings.fieldMarker rfl fun _ _ => rfl,
    hlast ApiSettings.methodMarker rfl fun _ _ => rfl]

theorem overrides_names (name : String) : Overrides (fun s => s.names.get? name) where
  empty := rfl
  merge earlier later := OrderedMap.get?_insertAll_entries earlier.names later.names name

theorem spelling_renderer (s : Settings) (name : String) :
    s.renderer.spelling name = ((s.names.get? name).or (builtinNames.lookup name)).getD name := by
  rw [renderer, Renderer.addNames, Renderer.spelling, OrderedMap.get?_insertAll_entries,
    Renderer.builtin_get?]

structure InEffect (files : List Settings) (options : Settings) (s : Settings) : Prop where
  runnerFile (root : String) : s.runnerFile root =
    Path.join root ((latest (·.runner.path) (files ++ [options])).getD RunnerSettings.defaultPath)
  pattern : s.runner.pattern =
    { className := (latest (·.runner.className) (files ++ [options])).getD "AppRunner"
      initMethod := (latest (·.runner.initMethod) (files ++ [options])).getD "initInterpreter"
      receiver := (latest (·.runner.receiver) (files ++ [options])).getD "interp"
      registerMethod :=
        (latest (·.runner.registerMethod) (files ++ [options])).getD "addJavaObjectToJs" }
  sourceScan (root : String) : s.sourceScan root =
    { dir := Path.join root
        ((latest (·.api.dir) (files ++ [options])).getD ApiSettings.defaultDir)
      extension := (latest (·.api.extension) (files ++ [options])).getD "java"
      markers :=
        { field := (latest (·.api.fieldMarker) (files ++ [options])).getD "PhonkField"
          method := (latest (·.api.methodMarker) (files ++ [options])).getD "PhonkMethod" } }
  spelling (name : String) : s.renderer.spelling name =
    ((latest (·.names.get? name) files).or (builtinNames.lookup name)).getD name

theorem inEffect_stack (files : List Settings) {options : Settings}
    (hnames : options.names = .empty) : InEffect files options (stack (files ++ [options])) where
  runnerFile root := by
    rw [Settings.runnerFile, runner_stack]
  pattern := by
    rw [runner_stack]
    rfl
  sourceScan root := by
    rw [Settings.sourceScan, api_stack]
    rfl
  spelling name := by
    have hnone : options.names.get? name = none := by
      rw [hnames]
      rfl
    have hfiles : latest (·.names.get? name) (files ++ [options]) =
        latest (·.names.get? name) files := by
      simp [latest, hnone]
    rw [spelling_renderer, (overrides_names name).stack, hfiles]

end Settings

end BridgeTypings
