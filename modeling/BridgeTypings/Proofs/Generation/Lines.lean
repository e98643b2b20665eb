import BridgeTypings.Proofs.Generation
import BridgeTypings.Proofs.Output.Lines

namespace BridgeTypings

open Java Outcome Emission

theorem Java.isPlain_primitive : ∀ name ∈ Keyword.primitives, IsPlain name := by
  decide

theorem Java.IsReadType.everywhere_isPlain {t : TypeExpr} (h : IsReadType t) :
    t.Everywhere (fun t => IsPlain t.name) :=
  h.everywhere_name isPlain_primitive fun _ => isPlain_of_identifier

theorem plainNames_of_read {r : Renderer} (hmapped : ∀ e ∈ r.names.entries, IsMappedText e.2)
    {declarations : Declarations}
    (h : ∀ e ∈ declarations.entries, isIdentifier e.1 = true ∧ IsReadDeclaration e.2) :
    PlainNames r declarations .empty where
  mapped := hmapped
  declared e he := isPlain_of_identifier (h e he).1
  members e he a ha := isPlain_of_identifier ((h e he).2.attributes a ha).1
  parameters := by
    intro e he a ha p hp
    obtain ⟨-, hitem⟩ := (h e he).2.attributes a ha
    obtain ⟨name, item⟩ := a
    cases item with
    | field t => cases hp
    | method m =>
        obtain ⟨parameter, hparameter, rfl⟩ := List.mem_map.1 hp
        exact isPlain_of_identifier (hitem.parameters parameter hparameter).1
  types e he t ht := ((h e he).2.types t ht).everywhere_isPlain
  bindings := nofun
  bindingTypes := nofun

theorem isMappedText_builtin : ∀ e ∈ ({} : Renderer).names.entries, IsMappedText e.2 := by
  decide +kernel

theorem Settings.renderer_of_no_names {settings : Settings} (h : settings.names.entries = []) :
    settings.renderer = {} := by
  rw [renderer, h]
  rfl

namespace Generation

def registeredAs (written : String) : FileSystem where
  root := [("R.java", .file
      ("class R \x7b A a; void m() \x7b i.r(\"" ++ written ++ "\", a); \x7d \x7d").toUTF8),
    ("api", .directory [("A.java", .file "class A \x7b\x7d".toUTF8)])]

def registeredSettings : Settings where
  runner := ⟨some "R.java", some "R", some "m", some "i", some "r"⟩
  api := { dir := some "api" }

theorem run_escapedFeed :
    ∃ g, (run (registeredAs "a\\nb") "" registeredSettings).result = .ok g ∧
      g.entries.keys = ["a\nb"] ∧
      g.output = "declare class A \x7b\n\x7d\nexport var a\nb: A;\n" ∧
      g.output.toList.count '\n' ≠ (g.declarations.entries.map blockLength).sum + g.entries.size := by
  obtain ⟨g, hg, hview⟩ : ∃ g,
      (run (registeredAs "a\\nb") "" registeredSettings).result = .ok g ∧
      (g.entries.keys, g.output, (g.declarations.entries.map blockLength).sum, g.entries.size) =
        (["a\nb"], "declare class A \x7b\n\x7d\nexport var a\nb: A;\n", 2, 1) :=
    exists_ok_of_toOption (by decide +kernel)
  simp only [Prod.mk.injEq] at hview
  obtain ⟨hkeys, houtput, hblocks, hsize⟩ := hview
  refine ⟨g, hg, hkeys, houtput, ?_⟩
  rw [houtput, hblocks, hsize]
  decide

theorem run_lines {fs : FileSystem} {root : String} {settings : Settings} {g : Generation}
    (hnames : settings.names.entries = []) (h : (run fs root settings).result = .ok g) :
    ∃ body bound, LaidOut {} g.declarations g.entries g.output body bound ∧
      (g.output.toList.count '\n' =
          (g.declarations.entries.map blockLength).sum + g.entries.size ↔
        ∀ name ∈ g.entries.keys, OneLine name) ∧
      ((∀ name ∈ g.entries.keys, OneLine name) →
        ∀ line ∈ body ++ bound.map EntryOutline.line, OneLine line) := by
  obtain ⟨hentries, hdeclarations, houtput⟩ := stages_of_run h
  rw [Settings.renderer_of_no_names hnames] at houtput
  have hread := (meets_readRunner fs _ _).ok hentries
  have hcollected := ((settings.sourceScan root).meets_collect fs).ok hdeclarations
  have hplain := plainNames_of_read isMappedText_builtin hcollected
  have htypes : ∀ e ∈ g.entries.entries, e.2.Everywhere (fun t => IsPlain t.name) := by
    intro e he
    exact IsReadType.everywhere_isPlain (hread e he)
  obtain ⟨body, bound, hlaid⟩ := laidOut_of_emit hplain htypes houtput
  exact ⟨body, bound, hlaid, hlaid.count_eq_iff, hlaid.oneLine_all⟩

theorem run_lines_registered :
    ∃ g, (run (registeredAs "a") "" registeredSettings).result = .ok g ∧ g.entries.keys = ["a"] ∧
      g.output.toList.count '\n' = (g.declarations.entries.map blockLength).sum + g.entries.size := by
  obtain ⟨g, hg, hkeys⟩ : ∃ g, (run (registeredAs "a") "" registeredSettings).result = .ok g ∧
      g.entries.keys = ["a"] := exists_ok_of_toOption (by decide +kernel)
  obtain ⟨body, bound, -, hcount, -⟩ := run_lines rfl hg
  refine ⟨g, hg, hkeys, hcount.2 ?_⟩
  rw [hkeys]
  decide

end Generation

end BridgeTypings
