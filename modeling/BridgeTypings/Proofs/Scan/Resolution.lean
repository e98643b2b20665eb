import BridgeTypings.Proofs.Scan.Reordering

namespace BridgeTypings

namespace FileTree

structure SamePosition (p q : Position) : Prop where
  here : Reordered p.here q.here
  above : List.Forall₂ Reordered p.above q.above
  named : ∀ es ∈ p.here :: p.above, WellNamed (.directory es)

inductive SameArrival : Arrival → Arrival → Prop
  | node (content : ByteArray) : SameArrival (.node (.file content)) (.node (.file content))
  | inside {p q : Position} : SamePosition p q → SameArrival (.inside p) (.inside q)
  | link {p q : Position} (target : String) (rest : List String) :
      SamePosition p q → SameArrival (.link p target rest) (.link q target rest)
  | failure (cause : ReadFailure) : SameArrival (.failure cause) (.failure cause)

inductive SameReading : Except ReadFailure FileTree → Except ReadFailure FileTree → Prop
  | error (cause : ReadFailure) : SameReading (.error cause) (.error cause)
  | ok {node node' : FileTree} :
      SameNode node node' → WellNamed node → SameReading (.ok node) (.ok node')

theorem SamePosition.up {p q : Position} (h : SamePosition p q) : SamePosition p.up q.up := by
  obtain ⟨here, above⟩ := p
  obtain ⟨here', above'⟩ := q
  obtain ⟨hhere, habove, hnamed⟩ := h
  cases habove with
  | nil => exact ⟨hhere, .nil, hnamed⟩
  | cons hparent hothers =>
      exact ⟨hparent, hothers, fun es hes => hnamed es (List.mem_cons_of_mem _ hes)⟩

theorem SamePosition.down {p q : Position} (h : SamePosition p q) {es es' : Entries}
    (hes : Reordered es es') (hnamed : WellNamed (.directory es)) :
    SamePosition ⟨es, p.here :: p.above⟩ ⟨es', q.here :: q.above⟩ :=
  ⟨hes, .cons h.here h.above, List.forall_mem_cons.2 ⟨hnamed, h.named⟩⟩

theorem SamePosition.distinct {p q : Position} (h : SamePosition p q) :
    (p.here.map Prod.fst).Nodup :=
  (h.named p.here List.mem_cons_self).distinct

theorem SamePosition.wellNamed_of_lookup {p q : Position} (h : SamePosition p q) {name : String}
    {node : FileTree} (hlookup : p.here.lookup name = some node) : WellNamed node :=
  (h.named p.here List.mem_cons_self).of_lookup hlookup

theorem walk_same {p q : Position} (h : SamePosition p q) (parts : List String) :
    SameArrival (walk p parts) (walk q parts) := by
  induction parts generalizing p q with
  | nil => exact .inside h
  | cons part rest ih =>
      simp only [walk]
      split
      · exact ih h
      · split
        · exact ih h.up
        · have hlookup := h.here.lookup h.distinct part
          cases hp : p.here.lookup part with
          | none =>
              rw [hp] at hlookup
              cases hq : q.here.lookup part with
              | none => exact .failure .notFound
              | some node => rw [hq] at hlookup; cases hlookup
          | some node =>
              have hnode := h.wellNamed_of_lookup hp
              rw [hp] at hlookup
              cases hq : q.here.lookup part with
              | none => rw [hq] at hlookup; cases hlookup
              | some node' =>
                  rw [hq] at hlookup
                  cases hlookup with
                  | some hsame =>
                      cases hsame with
                      | refl =>
                          cases node with
                          | file content =>
                              cases hrest : rest.isEmpty with
                              | true => exact .node content
                              | false => exact .failure .notADirectory
                          | link target => exact .link target rest h
                          | directory es => exact ih (h.down (Reordered.refl es) hnode)
                      | directory hes => exact ih (h.down hes hnode)

def Arrival.read (last : Bool)
    (onward : Position → String → List String → Except ReadFailure FileTree) :
    Arrival → Except ReadFailure FileTree
  | .node found => .ok found
  | .inside p => .ok (.directory p.here)
  | .failure cause => .error cause
  | .link p target rest =>
      if rest.isEmpty && !last then .ok (.link target) else onward p target rest

section

variable {onward onward' : Position → String → List String → Except ReadFailure FileTree}

theorem SameArrival.read {a b : Arrival} (h : SameArrival a b) (last : Bool)
    (honward : ∀ p q target rest, SamePosition p q →
      SameReading (onward p target rest) (onward' q target rest)) :
    SameReading (a.read last onward) (b.read last onward') := by
  cases h with
  | node content => exact .ok (.refl _) (.file content)
  | inside hp => exact .ok (.directory hp.here) (hp.named _ List.mem_cons_self)
  | failure cause => exact .error cause
  | link target rest hp =>
      cases hlast : (rest.isEmpty && !last) with
      | true => simpa [Arrival.read, hlast] using SameReading.ok (.refl _) (.link target)
      | false => simpa [Arrival.read, hlast] using honward _ _ target rest hp

theorem Arrival.read_false (a : Arrival)
    (honward : ∀ p target rest, onward p target rest = onward' p target rest ∨
      ∃ t, onward p target rest = .ok (.link t)) :
    a.read false onward = a.read true onward' ∨ ∃ t, a.read false onward = .ok (.link t) := by
  cases a with
  | node _ => exact .inl rfl
  | inside _ => exact .inl rfl
  | failure _ => exact .inl rfl
  | link p target rest =>
      cases hrest : rest.isEmpty with
      | true => exact .inr ⟨target, by simp [Arrival.read, hrest]⟩
      | false => simpa [Arrival.read, hrest] using honward p target rest

end

end FileTree

namespace FileSystem

open FileTree

def onward (fs : FileSystem) (last : Bool) :
    Nat → Position → String → List String → Except ReadFailure FileTree
  | 0, _, _, _ => .error .tooManyLinks
  | links + 1, p, target, rest =>
      if target = "" then .error .notFound
      else fs.follow last links (fs.origin p target) (Path.parts target ++ rest)

theorem follow_eq (fs : FileSystem) (last : Bool) (links : Nat) (p : Position)
    (parts : List String) :
    fs.follow last links p parts = (walk p parts).read last (fs.onward last links) := by
  cases links with
  | zero =>
      unfold FileSystem.follow
      cases walk p parts <;> rfl
  | succ links =>
      unfold FileSystem.follow
      cases walk p parts <;> rfl

/--
Two file systems side by side: how the places that walks are at are related, how what the walks come
to is, and how what is read there is.
-/
structure Simulation (fs fs' : FileSystem) (Place : Position → Position → Prop)
    (Reach : Arrival → Arrival → Prop)
    (Reading : Except ReadFailure FileTree → Except ReadFailure FileTree → Prop) : Prop where
  top : Place fs.top fs'.top
  start : Place fs.start fs'.start
  walk {p q : Position} (parts : List String) : Place p q → Reach (walk p parts) (walk q parts)
  read {a b : Arrival}
      {onward onward' : Position → String → List String → Except ReadFailure FileTree}
      (last : Bool) :
    Reach a b →
    (∀ p q target rest, Place p q → Reading (onward p target rest) (onward' q target rest)) →
    Reading (a.read last onward) (b.read last onward')
  error (cause : ReadFailure) : Reading (.error cause) (.error cause)

namespace Simulation

variable {fs fs' : FileSystem} {Place : Position → Position → Prop}
  {Reach : Arrival → Arrival → Prop}
  {Reading : Except ReadFailure FileTree → Except ReadFailure FileTree → Prop}

theorem origin (h : Simulation fs fs' Place Reach Reading) {p q : Position} (hp : Place p q)
    (path : String) : Place (fs.origin p path) (fs'.origin q path) := by
  unfold FileSystem.origin
  split
  · exact h.top
  · exact hp

theorem follow (h : Simulation fs fs' Place Reach Reading) (last : Bool) (links : Nat)
    {p q : Position} (hp : Place p q) (parts : List String) :
    Reading (fs.follow last links p parts) (fs'.follow last links q parts) := by
  induction links generalizing p q parts with
  | zero =>
      rw [follow_eq, follow_eq]
      exact h.read last (h.walk parts hp) fun _ _ _ _ _ => h.error .tooManyLinks
  | succ links ih =>
      rw [follow_eq, follow_eq]
      refine h.read last (h.walk parts hp) fun r r' target rest hr => ?_
      simp only [onward]
      split
      · exact h.error .notFound
      · exact ih (h.origin hr target) _

theorem resolve (h : Simulation fs fs' Place Reach Reading) (last : Bool) (path : String) :
    Reading (fs.resolve last path) (fs'.resolve last path) := by
  unfold FileSystem.resolve
  split
  · exact h.error .notFound
  · exact h.follow last linkLimit (h.origin h.start path) _

end Simulation

structure Reordered (fs fs' : FileSystem) : Prop where
  root : FileTree.Reordered fs.root fs'.root
  directory : fs.directory = fs'.directory

theorem Reordered.refl (fs : FileSystem) : fs.Reordered fs :=
  ⟨FileTree.Reordered.refl fs.root, rfl⟩

variable {fs fs' : FileSystem}

theorem Reordered.top (h : fs.Reordered fs') (named : WellNamed (.directory fs.root)) :
    SamePosition fs.top fs'.top :=
  ⟨h.root, .nil, by simpa [FileSystem.top] using named⟩

theorem Reordered.start (h : fs.Reordered fs') (named : WellNamed (.directory fs.root)) :
    SamePosition fs.start fs'.start := by
  have hwalk := walk_same (h.top named) fs.directory
  unfold FileSystem.start
  rw [← h.directory]
  generalize walk fs.top fs.directory = a at hwalk
  generalize walk fs'.top fs.directory = b at hwalk
  cases hwalk with
  | inside hp => exact hp
  | node _ => exact h.top named
  | link _ _ _ => exact h.top named
  | failure _ => exact h.top named

theorem Reordered.simulation (h : fs.Reordered fs') (named : WellNamed (.directory fs.root)) :
    Simulation fs fs' SamePosition SameArrival SameReading where
  top := h.top named
  start := h.start named
  walk parts hp := walk_same hp parts
  read last hab honward := hab.read last honward
  error := .error

theorem Reordered.resolve (h : fs.Reordered fs') (named : WellNamed (.directory fs.root))
    (last : Bool) (path : String) :
    SameReading (fs.resolve last path) (fs'.resolve last path) :=
  (h.simulation named).resolve last path

theorem wellNamed_of_resolve (named : WellNamed (.directory fs.root)) {last : Bool} {path : String}
    {node : FileTree} (h : fs.resolve last path = .ok node) : WellNamed node := by
  have hsame := (Reordered.refl fs).resolve named last path
  rw [h] at hsame
  cases hsame with
  | ok _ hnode => exact hnode

theorem Reordered.wellNamed (h : fs.Reordered fs') (named : WellNamed (.directory fs.root)) :
    WellNamed (.directory fs'.root) :=
  h.root.wellNamed named

theorem files_same {node node' : FileTree} (h : SameNode node node') (named : WellNamed node)
    (path : String) : files path node = files path node' := by
  cases h with
  | refl => rfl
  | @directory es es' hes =>
      have hperm := (List.mergeSort_perm (regularFilesIn es') inOrder).trans
        hes.perm_regularFilesIn.symm
      have hsorted := named.eq_sorted (fun _ hf => hf) hperm (pairwise_sorted _)
      rw [files_eq_sorted named, files_eq_sorted (hes.wellNamed named)]
      exact congrArg (List.map (locate path)) hsorted.symm

theorem Reordered.filesUnder (h : fs.Reordered fs') (named : WellNamed (.directory fs.root))
    (path : String) : fs.filesUnder path = fs'.filesUnder path := by
  have hself := h.resolve named false path
  have hlast := h.resolve named true path
  unfold FileSystem.filesUnder
  generalize fs.resolve false path = a at hself
  generalize fs'.resolve false path = b at hself
  generalize fs.resolve true path = c at hlast
  generalize fs'.resolve true path = d at hlast
  cases hself with
  | error cause => rfl
  | @ok node _ hnode hnamed =>
      cases hnode with
      | directory hes =>
          exact congrArg Except.ok (files_same (.directory hes) hnamed path)
      | refl =>
          cases node with
          | file content => rfl
          | directory es => rfl
          | link target =>
              cases hlast with
              | error cause => rfl
              | ok htarget htargetNamed =>
                  cases htarget with
                  | refl => rfl
                  | directory hes =>
                      exact congrArg Except.ok (files_same (.directory hes) htargetNamed path)

theorem follow_false (fs : FileSystem) (links : Nat) (p : Position) (parts : List String) :
    fs.follow false links p parts = fs.follow true links p parts ∨
      ∃ target, fs.follow false links p parts = .ok (.link target) := by
  induction links generalizing p parts with
  | zero =>
      rw [follow_eq, follow_eq]
      exact (walk p parts).read_false fun _ _ _ => .inl rfl
  | succ links ih =>
      rw [follow_eq, follow_eq]
      refine (walk p parts).read_false fun q target rest => ?_
      simp only [onward]
      split
      · exact .inl rfl
      · exact ih _ _

theorem resolve_false (fs : FileSystem) (path : String) :
    fs.resolve false path = fs.resolve true path ∨
      ∃ target, fs.resolve false path = .ok (.link target) := by
  unfold FileSystem.resolve
  split
  · exact .inl rfl
  · exact follow_false fs _ _ _

theorem filesUnder_directory {path : String} {entries : Entries}
    (h : fs.resolve true path = .ok (.directory entries)) :
    fs.filesUnder path = .ok (files path (.directory entries)) := by
  unfold FileSystem.filesUnder
  rcases fs.resolve_false path with hself | ⟨target, hself⟩
  · simp [hself, h]
  · simp [hself, h]

theorem filesUnder_eq_error_iff {path : String} {e : Error} :
    fs.filesUnder path = .error e ↔
      ∃ cause, fs.resolve true path = .error cause ∧ e = .walk path cause := by
  have hself := fs.resolve_false path
  unfold filesUnder
  generalize fs.resolve true path = last at hself ⊢
  rcases hself with hself | ⟨target, hself⟩
  · rw [hself]
    cases last with
    | error cause => simp [eq_comm]
    | ok node => cases node <;> simp
  · rw [hself]
    cases last with
    | error cause => simp [eq_comm]
    | ok node => cases node <;> simp

end FileSystem

end BridgeTypings
