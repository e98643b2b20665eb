import Mathlib.Algebra.GroupWithZero.Nat
import BridgeTypings.Proofs.Output.Names

namespace BridgeTypings.Emission

open Outcome

theorem count_feeds_append (a b : String) :
    (a ++ b).toList.count '\n' = a.toList.count '\n' + b.toList.count '\n' := by
  simp

theorem OneLine.count_feeds {text : String} (h : OneLine text) : text.toList.count '\n' = 0 :=
  List.count_eq_zero.2 h

theorem count_feeds_lines (lines : List String) :
    (String.join (lines.map (· ++ "\n"))).toList.count '\n' =
      lines.length + (lines.map (fun line => line.toList.count '\n')).sum := by
  induction lines with
  | nil => rfl
  | cons line rest ih =>
      rw [List.map_cons, String.join_cons, count_feeds_append, count_feeds_append, ih]
      simp only [List.length_cons, List.map_cons, List.sum_cons]
      have hfeed : "\n".toList.count '\n' = 1 := by decide
      omega

theorem EntryOutline.count_feeds_line {e : EntryOutline} (h : OneLine e.type) :
    e.line.toList.count '\n' = e.name.toList.count '\n' := by
  have hfront : OneLine "export var " := by decide
  have hcolon : OneLine ": " := by decide
  have hend : OneLine ";" := by decide
  simp only [EntryOutline.line, count_feeds_append, hfront.count_feeds, hcolon.count_feeds,
    hend.count_feeds, h.count_feeds]
  omega

theorem DeclarationOutline.length_lines (d : DeclarationOutline) :
    d.lines.length = 2 + d.members.length := by
  simp only [lines, List.cons_append, List.length_cons, List.length_append, List.length_map,
    List.length_nil]
  omega

section

variable {r : Renderer} {declarations : Declarations}

theorem length_members {e : String × Declaration} {d : DeclarationOutline}
    (h : declarationOutline r declarations e = .ok d) :
    d.members.length = e.2.attributes.length := by
  obtain ⟨parents, -, h⟩ := bind_eq_ok.1 h
  obtain ⟨implements, -, h⟩ := bind_eq_ok.1 h
  obtain ⟨members, hmembers, heq⟩ := bind_eq_ok.1 h
  cases heq
  exact (forall₂_of_mapM_ok hmembers).length_eq.symm

def blockLength (e : String × Declaration) : Nat :=
  2 + e.2.attributes.length

theorem length_blocks {items : List (String × Declaration)} {ds : List DeclarationOutline}
    (h : List.Forall₂ (fun e d => declarationOutline r declarations e = .ok d) items ds) :
    (ds.flatMap DeclarationOutline.lines).length = (items.map blockLength).sum := by
  induction h with
  | nil => rfl
  | @cons e d items ds hfirst _ ih =>
      rw [List.flatMap_cons, List.length_append, ih, d.length_lines, length_members hfirst]
      rfl

structure LaidOut (r : Renderer) (declarations : Declarations) (entries : EntryPoints)
    (output : String) (body : List String) (bound : List EntryOutline) : Prop where
  length : body.length = (declarations.entries.map blockLength).sum
  blocks : ∀ line ∈ body, OneLine line
  exports : List.Forall₂
    (fun e b => b.name = e.1 ∧ r.renderType e.2 = .ok b.type ∧ OneLine b.type) entries.entries bound
  text : output = String.join ((body ++ bound.map EntryOutline.line).map (· ++ "\n"))

theorem laidOut_of_emit {entries : EntryPoints} {output : String}
    (hplain : PlainNames r declarations .empty)
    (htypes : ∀ e ∈ entries.entries, e.2.Everywhere (fun t => IsPlain t.name))
    (h : (emit r declarations entries).result = .ok output) :
    ∃ body bound, LaidOut r declarations entries output body bound := by
  rw [result_emit] at h
  obtain ⟨o, houtline, rfl⟩ := map_eq_ok.1 h
  obtain ⟨described, hdescribed, houtline⟩ := bind_eq_ok.1 houtline
  obtain ⟨bound, hbound, heq⟩ := bind_eq_ok.1 houtline
  cases heq
  -- without the bindings: their names need not be plain
  have hblocks : (Outline.mk described []).Plain := by
    refine ⟨fun d hd => ?_, by simp⟩
    obtain ⟨e, he, hval⟩ := mem_of_mapM_ok hdescribed hd
    exact plain_declarationOutline hplain he hval
  refine ⟨described.flatMap DeclarationOutline.lines, bound, ?_, ?_, ?_, rfl⟩
  · exact length_blocks (forall₂_of_mapM_ok hdescribed)
  · intro line hline
    exact Outline.oneLine_lines hblocks line (List.mem_append_left _ hline)
  · have hentries := (List.forall₂_and_left _ _).2 ⟨htypes, forall₂_of_mapM_ok hbound⟩
    refine hentries.imp fun e b ⟨htype, hval⟩ => ?_
    obtain ⟨text, htext, heq⟩ := bind_eq_ok.1 hval
    cases heq
    exact ⟨rfl, htext, (isTypeText_renderType hplain.mapped htype htext).oneLine⟩

namespace LaidOut

variable {entries : EntryPoints} {output : String} {body : List String} {bound : List EntryOutline}

theorem count_exports {items : List (String × TypeExpr)} {bound : List EntryOutline}
    (h : List.Forall₂ (fun e b => b.name = e.1 ∧ r.renderType e.2 = .ok b.type ∧ OneLine b.type)
      items bound) :
    (bound.map (fun b => b.line.toList.count '\n')).sum =
      (items.map (fun e => e.1.toList.count '\n')).sum := by
  induction h with
  | nil => rfl
  | cons hfirst _ ih =>
      obtain ⟨hname, -, htype⟩ := hfirst
      simp only [List.map_cons, List.sum_cons, ih, EntryOutline.count_feeds_line htype, hname]

theorem count_feeds (h : LaidOut r declarations entries output body bound) :
    output.toList.count '\n' =
      body.length + entries.size + (entries.keys.map (fun name => name.toList.count '\n')).sum := by
  have hbody : (body.map (fun line => line.toList.count '\n')).sum = 0 := by
    rw [List.sum_eq_zero_iff_forall_eq_nat]
    intro n hn
    obtain ⟨line, hline, rfl⟩ := List.mem_map.1 hn
    exact (h.blocks line hline).count_feeds
  have hbound := count_exports h.exports
  have hlength : bound.length = entries.size := h.exports.length_eq.symm
  rw [h.text, count_feeds_lines]
  simp only [List.length_append, List.length_map, List.map_append, List.sum_append, hbody,
    List.map_map, Function.comp_def, hbound, hlength, OrderedMap.keys]
  omega

theorem count_eq_iff (h : LaidOut r declarations entries output body bound) :
    output.toList.count '\n' = (declarations.entries.map blockLength).sum + entries.size ↔
      ∀ name ∈ entries.keys, OneLine name := by
  have hsum : (entries.keys.map (fun name => name.toList.count '\n')).sum = 0 ↔
      ∀ name ∈ entries.keys, OneLine name := by
    simp [List.sum_eq_zero_iff_forall_eq_nat, OneLine, List.count_eq_zero]
  rw [h.count_feeds, ← hsum, h.length]
  omega

theorem oneLine_all (h : LaidOut r declarations entries output body bound)
    (hnames : ∀ name ∈ entries.keys, OneLine name) :
    ∀ line ∈ body ++ bound.map EntryOutline.line, OneLine line := by
  intro line hline
  rcases List.mem_append.1 hline with hline | hline
  · exact h.blocks line hline
  · obtain ⟨b, hb, rfl⟩ := List.mem_map.1 hline
    obtain ⟨e, he, hname, -, htype⟩ := exists_of_mem_right h.exports hb
    have hkey : OneLine e.1 := hnames e.1 (List.mem_map_of_mem he)
    have hcount := EntryOutline.count_feeds_line htype
    rw [hname, hkey.count_feeds] at hcount
    exact List.count_eq_zero.1 hcount

end LaidOut

end

end BridgeTypings.Emission
