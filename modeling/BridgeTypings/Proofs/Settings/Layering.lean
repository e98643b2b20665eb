import BridgeTypings.CommandLine
import BridgeTypings.Proofs.Outcome
import BridgeTypings.Proofs.Settings.Merging

namespace BridgeTypings

open Outcome

namespace Settings

def Holds (fs : FileSystem) (path : String) (given : Settings) : Prop :=
  fs.isFile path = true ∧ ∃ text table, fs.read path = .ok text ∧ Toml.parse text = some table ∧
    Schema.readSections table {} = .ok given

theorem holds_iff {fs : FileSystem} {path : String} {given : Settings} :
    Holds fs path given ↔ fs.isFile path = true ∧ loadFile fs path = .ok given := by
  unfold Holds loadFile Schema.read
  cases hread : fs.read path with
  | error cause => simp
  | ok text =>
      cases hparse : Toml.parse text with
      | none => simp [hparse]
      | some table =>
          cases hshape : Schema.readSections table {} <;> simp [hparse, hshape]

def implicitLayer (fs : FileSystem) (path : String) : Settings :=
  if fs.isFile path then (loadFile fs path).toOption.getD {} else {}

theorem implicitLayer_of_holds {fs : FileSystem} {path : String} {given : Settings}
    (h : Holds fs path given) : implicitLayer fs path = given := by
  obtain ⟨hfile, hload⟩ := holds_iff.1 h
  simp [implicitLayer, hfile, hload, Except.toOption]

theorem implicitLayer_of_not_holds {fs : FileSystem} {path : String}
    (h : ∀ given, ¬ Holds fs path given) : implicitLayer fs path = {} := by
  unfold implicitLayer
  split
  · next hfile =>
      cases hload : loadFile fs path with
      | error e => rfl
      | ok given => exact absurd (holds_iff.2 ⟨hfile, hload⟩) (h given)
  · rfl

theorem result_layer (fs : FileSystem) (base : Settings) (path : String) :
    (layer fs base path).result = .ok (base.merge (implicitLayer fs path)) := by
  unfold layer implicitLayer
  split
  · cases loadFile fs path with
    | error e => simp [Run.result_bind, Run.report, Except.toOption, Except.bind, pure, merge_empty]
    | ok given => simp [Run.result_bind, Run.report, Except.toOption, Except.bind, pure]
  · simp [pure, merge_empty]

theorem result_layers (fs : FileSystem) (base : Settings) (paths : List String) :
    (layers fs base paths).result = .ok ((paths.map (implicitLayer fs)).foldl merge base) := by
  induction paths generalizing base with
  | nil => rfl
  | cons path rest ih =>
      rw [layers, Run.result_bind, result_layer]
      exact ih _

def implicitLayers (fs : FileSystem) (env : Environment) (root : String) : List Settings :=
  ((globalPath? env).toList ++ [projectPath root]).map (implicitLayer fs)

theorem result_load (fs : FileSystem) (env : Environment) (root : String) :
    (load fs env root).result = .ok (stack (implicitLayers fs env root)) :=
  result_layers fs {} _

end Settings

namespace CommandLine

open Settings

theorem result_settings (fs : FileSystem) (env : Environment) (o : Options) :
    (settings fs env o).result = (namedSettings fs o).map (fun named =>
      stack (implicitLayers fs env (o.path.getD "") ++ [named] ++ [o.settings])) := by
  rw [settings, Run.result_bind, result_load]
  simp only [Except.bind, Run.result_bind, Run.ofExcept]
  cases namedSettings fs o with
  | error e => rfl
  | ok named => simp [Except.map, stack, pure]

theorem namedSettings_error_iff {fs : FileSystem} {o : Options} {e : Error} :
    namedSettings fs o = .error e ↔ ∃ path, o.config = some path ∧ loadFile fs path = .error e := by
  unfold namedSettings
  cases o.config with
  | none => simp
  | some path => simp

theorem settings_layered :
    (∀ a b c : Settings, (a.merge b).merge c = a.merge (b.merge c)) ∧
      (∀ s : Settings, merge {} s = s ∧ s.merge {} = s) ∧
      ∀ (fs : FileSystem) (env : Environment) (o : Options),
        (∀ s, (settings fs env o).result = .ok s → ∃ named, namedSettings fs o = .ok named ∧
          InEffect (implicitLayers fs env (o.path.getD "") ++ [named]) o.settings s) ∧
        (∀ path given, Holds fs path given → implicitLayer fs path = given) ∧
        (∀ path, (∀ given, ¬ Holds fs path given) → implicitLayer fs path = {}) ∧
        ∀ e, (settings fs env o).result = .error e ↔
          ∃ path, o.config = some path ∧ loadFile fs path = .error e := by
  refine ⟨merge_assoc, fun s => ⟨empty_merge s, merge_empty s⟩, ?_⟩
  intro fs env o
  refine ⟨?_, fun path given => implicitLayer_of_holds, fun path => implicitLayer_of_not_holds, ?_⟩
  · intro s hresult
    rw [result_settings] at hresult
    obtain ⟨named, hnamed, rfl⟩ := map_eq_ok.1 hresult
    exact ⟨named, hnamed, inEffect_stack _ rfl⟩
  · intro e
    rw [result_settings, ← namedSettings_error_iff]
    cases namedSettings fs o <;> simp [Except.map]

def layeredFiles : FileSystem where
  root := [("etc", .directory [("phonk-typegen", .directory
      [("config.toml", .file "runner = \x7bclass = 'A', receiver = 'js'\x7d".toUTF8)])]),
    ("src", .directory [(".phonk-typegen.toml", .file "runner = \x7bclass = 'B', x = ''\x7d".toUTF8)]),
    ("named.toml", .file "types.map.Integer = 'int'".toUTF8)]

def layeredEnvironment : Environment :=
  ⟨"", some "etc"⟩

def layeredOptions : Options where
  path := some "src"
  config := some "named.toml"
  runner := some "Main.java"

theorem settings_layeredFiles :
    ∃ s, (settings layeredFiles layeredEnvironment layeredOptions).result = .ok s ∧
      s.runnerFile "src" = "src/Main.java" ∧
      s.runner.pattern = ⟨"A", "initInterpreter", "js", "addJavaObjectToJs"⟩ ∧
      s.renderer.spelling "Integer" = "int" := by
  obtain ⟨-, -, hsettings⟩ := settings_layered
  obtain ⟨hok, -, -, herror⟩ := hsettings layeredFiles layeredEnvironment layeredOptions
  obtain ⟨given, hload, -⟩ : ∃ given, loadFile layeredFiles "named.toml" = .ok given ∧
      given.api.dir = none := exists_ok_of_toOption (by decide +kernel)
  cases hresult : (settings layeredFiles layeredEnvironment layeredOptions).result with
  | error e =>
      obtain ⟨path, hpath, hfails⟩ := (herror e).1 hresult
      cases hpath
      rw [hload] at hfails
      cases hfails
  | ok s =>
      obtain ⟨named, hnamed, heffect⟩ := hok s hresult
      -- as a function of the files, so that the last layer can be evaluated with the others
      have hlayer : named = (namedSettings layeredFiles layeredOptions).toOption.getD {} := by
        rw [hnamed]
        rfl
      rw [hlayer] at heffect
      refine ⟨s, rfl, ?_, ?_, ?_⟩
      · rw [heffect.runnerFile]
        decide +kernel
      · rw [heffect.pattern]
        decide +kernel
      · rw [heffect.spelling]
        decide +kernel

end CommandLine

end BridgeTypings
