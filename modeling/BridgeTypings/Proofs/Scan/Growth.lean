import BridgeTypings.Proofs.OrderedMap
import BridgeTypings.Proofs.Scan.Resolution

namespace BridgeTypings

namespace FileTree

inductive Grown : FileTree → FileTree → Prop
  | file (content : ByteArray) : Grown (.file content) (.file content)
  | link (target : String) : Grown (.link target) (.link target)
  | directory {es es' : Entries} (now : String × FileTree → FileTree) :
      (∀ e ∈ es, (e.1, now e) ∈ es') → (∀ e ∈ es, Grown e.2 (now e)) →
      Grown (.directory es) (.directory es')

structure GrownPosition (p q : Position) : Prop where
  here : Grown (.directory p.here) (.directory q.here)
  above : List.Forall₂ (fun es es' => Grown (.directory es) (.directory es')) p.above q.above
  named : ∀ es ∈ q.here :: q.above, WellNamed (.directory es)

inductive GrownArrival : Arrival → Arrival → Prop
  | node (content : ByteArray) : GrownArrival (.node (.file content)) (.node (.file content))
  | inside {p q : Position} : GrownPosition p q → GrownArrival (.inside p) (.inside q)
  | link {p q : Position} (target : String) (rest : List String) :
      GrownPosition p q → GrownArrival (.link p target rest) (.link q target rest)
  | failure (cause : ReadFailure) (b : Arrival) : GrownArrival (.failure cause) b

inductive GrownReading : Except ReadFailure FileTree → Except ReadFailure FileTree → Prop
  | error (cause : ReadFailure) (y : Except ReadFailure FileTree) : GrownReading (.error cause) y
  | ok {node node' : FileTree} : Grown node node' → GrownReading (.ok node) (.ok node')

theorem Grown.lookup {es es' : Entries} (h : Grown (.directory es) (.directory es'))
    (distinct : (es'.map Prod.fst).Nodup) {name : String} {node : FileTree}
    (hlookup : es.lookup name = some node) :
    ∃ node', es'.lookup name = some node' ∧ Grown node node' := by
  obtain ⟨front, behind, hsplit, _⟩ := List.lookup_eq_some_iff.1 hlookup
  have hmem : (name, node) ∈ es := by simp [hsplit]
  cases h with
  | directory now hkept hgrown =>
      have hget := OrderedMap.get?_of_mem (m := ⟨es', distinct⟩) (hkept _ hmem)
      exact ⟨_, hget, hgrown _ hmem⟩

theorem Grown.regularFiles_subset {node node' : FileTree} (h : Grown node node') :
    ∀ f ∈ regularFiles node, f ∈ regularFiles node' := by
  induction h with
  | file content => exact fun f hf => hf
  | link target => exact fun f hf => hf
  | directory now hkept _ ih =>
      intro f hf
      obtain ⟨e, he, g, hg, rfl⟩ := mem_regularFilesIn.1 hf
      exact mem_regularFilesIn.2 ⟨(e.1, now e), hkept e he, g, ih e he g hg, rfl⟩

theorem GrownPosition.up {p q : Position} (h : GrownPosition p q) : GrownPosition p.up q.up := by
  obtain ⟨here, above⟩ := p
  obtain ⟨here', above'⟩ := q
  obtain ⟨hhere, habove, hnamed⟩ := h
  cases habove with
  | nil => exact ⟨hhere, .nil, hnamed⟩
  | cons hparent hothers =>
      exact ⟨hparent, hothers, fun es hes => hnamed es (List.mem_cons_of_mem _ hes)⟩

theorem GrownPosition.down {p q : Position} (h : GrownPosition p q) {es es' : Entries}
    (hes : Grown (.directory es) (.directory es')) (hnamed : WellNamed (.directory es')) :
    GrownPosition ⟨es, p.here :: p.above⟩ ⟨es', q.here :: q.above⟩ :=
  ⟨hes, .cons h.here h.above, List.forall_mem_cons.2 ⟨hnamed, h.named⟩⟩

theorem walk_grown {p q : Position} (h : GrownPosition p q) (parts : List String) :
    GrownArrival (walk p parts) (walk q parts) := by
  induction parts generalizing p q with
  | nil => exact .inside h
  | cons part rest ih =>
      simp only [walk]
      split
      · exact ih h
      · split
        · exact ih h.up
        · cases hp : p.here.lookup part with
          | none => exact .failure _ _
          | some node =>
              -- names in a directory are distinct, so that no new entry can stand in for this one
              have hnamed := h.named q.here List.mem_cons_self
              obtain ⟨node', hq, hnode⟩ := h.here.lookup hnamed.distinct hp
              rw [hq]
              cases hnode with
              | file content =>
                  cases hrest : rest.isEmpty with
                  | true => exact .node content
                  | false => exact .failure _ _
              | link target => exact .link target rest h
              | directory now hkept hgrown =>
                  exact ih (h.down (.directory now hkept hgrown) (hnamed.of_lookup hq))

theorem GrownArrival.read {onward onward' : Position → String → List String →
      Except ReadFailure FileTree} {a b : Arrival} (h : GrownArrival a b) (last : Bool)
    (honward : ∀ p q target rest, GrownPosition p q →
      GrownReading (onward p target rest) (onward' q target rest)) :
    GrownReading (a.read last onward) (b.read last onward') := by
  cases h with
  | node content => exact .ok (.file content)
  | inside hp => exact .ok hp.here
  | failure cause b => exact .error cause _
  | link target rest hp =>
      cases hlast : (rest.isEmpty && !last) with
      | true => simpa [Arrival.read, hlast] using GrownReading.ok (.link target)
      | false => simpa [Arrival.read, hlast] using honward _ _ target rest hp

end FileTree

namespace FileSystem

open FileTree

structure Grown (fs fs' : FileSystem) : Prop where
  root : FileTree.Grown (.directory fs.root) (.directory fs'.root)
  directory : fs.directory = fs'.directory
  current : ∃ p, walk fs.top fs.directory = .inside p

variable {fs fs' : FileSystem}

theorem Grown.top (h : fs.Grown fs') (named : WellNamed (.directory fs'.root)) :
    GrownPosition fs.top fs'.top :=
  ⟨h.root, .nil, by simpa [FileSystem.top] using named⟩

theorem Grown.start (h : fs.Grown fs') (named : WellNamed (.directory fs'.root)) :
    GrownPosition fs.start fs'.start := by
  obtain ⟨p, hp⟩ := h.current
  have hwalk := walk_grown (h.top named) fs.directory
  unfold FileSystem.start
  rw [← h.directory]
  rw [hp] at hwalk ⊢
  generalize walk fs'.top fs.directory = b at hwalk ⊢
  cases hwalk with
  | inside hpq => exact hpq

theorem Grown.simulation (h : fs.Grown fs') (named : WellNamed (.directory fs'.root)) :
    Simulation fs fs' GrownPosition GrownArrival GrownReading where
  top := h.top named
  start := h.start named
  walk parts hp := walk_grown hp parts
  read last hab honward := hab.read last honward
  error cause := .error cause _

theorem Grown.resolve (h : fs.Grown fs') (named : WellNamed (.directory fs'.root)) {last : Bool}
    {path : String} {node : FileTree} (hnode : fs.resolve last path = .ok node) :
    ∃ node', fs'.resolve last path = .ok node' ∧ FileTree.Grown node node' := by
  have hreading := (h.simulation named).resolve last path
  rw [hnode] at hreading
  generalize fs'.resolve last path = reading at hreading ⊢
  cases hreading with
  | ok hgrown => exact ⟨_, rfl, hgrown⟩

theorem Grown.resolve_eq (h : fs.Grown fs') (named : WellNamed (.directory fs'.root)) {last : Bool}
    {path : String} {node : FileTree} (hnode : fs.resolve last path = .ok node)
    (hdirectory : ∀ es, node ≠ .directory es) : fs'.resolve last path = .ok node := by
  obtain ⟨node', hnode', hgrown⟩ := h.resolve named hnode
  cases hgrown with
  | file content => exact hnode'
  | link target => exact hnode'
  | directory now hkept hgrown => exact absurd rfl (hdirectory _)

theorem Grown.read (h : fs.Grown fs') (named : WellNamed (.directory fs'.root)) {path text : String}
    (htext : fs.read path = .ok text) : fs'.read path = .ok text := by
  unfold FileSystem.read at htext ⊢
  cases hnode : fs.resolve true path with
  | error cause =>
      rw [hnode] at htext
      cases htext
  | ok node =>
      rw [hnode] at htext
      cases node with
      | file content =>
          rw [h.resolve_eq named hnode nofun]
          exact htext
      | link target => cases htext
      | directory es => cases htext

theorem Grown.filesUnder (h : fs.Grown fs') (named : WellNamed (.directory fs'.root))
    {path : String} {files : List (String × ByteArray)} (hfiles : fs.filesUnder path = .ok files) :
    fs'.filesUnder path = .ok files ∨
      ∃ es es', fs.resolve true path = .ok (.directory es) ∧
        fs'.resolve true path = .ok (.directory es') ∧
        FileTree.Grown (.directory es) (.directory es') := by
  by_cases hdirectory : ∃ es, fs.resolve true path = .ok (.directory es)
  · obtain ⟨es, hes⟩ := hdirectory
    obtain ⟨node', hnode', hgrown⟩ := h.resolve named hes
    cases hgrown with
    | directory now hkept hgrown => exact .inr ⟨es, _, hes, hnode', .directory now hkept hgrown⟩
  · have hself := fs.resolve_false path
    cases hlast : fs.resolve true path with
    | error cause =>
        rw [filesUnder_eq_error_iff.2 ⟨cause, hlast, rfl⟩] at hfiles
        cases hfiles
    | ok node =>
        have hnode : ∀ es, node ≠ .directory es := by
          rintro es rfl
          exact hdirectory ⟨es, hlast⟩
        -- with its links followed or not, the path leads to the same in both
        have hlast' := h.resolve_eq named hlast hnode
        have hself' : fs'.resolve false path = fs.resolve false path := by
          rcases hself with hself | ⟨target, hself⟩
          · rw [hself, hlast]
            exact h.resolve_eq named (hself.trans hlast) hnode
          · rw [hself]
            exact h.resolve_eq named hself nofun
        rw [← hfiles]
        unfold FileSystem.filesUnder
        rw [hself', hlast', hlast]
        exact .inl rfl

end FileSystem

end BridgeTypings
