import Wasmer.Wasi.Symlink
import Wasmer.Wasi.Init
import Mathlib.Logic.Relation

/-
Module: Wasmer.Wasi.Run
Layer: Proofs
Purpose: Runs of the filesystem state from `WasiFs::new`, and the referential integrity
  of the inode arena over them. A run is a sequence of guest calls (`CallStep`) and,
  in the wider setting, of insertions by other components of records and `name_map`
  entries whose references are live (`Step`). `Integrity` says that every stored
  reference (each descriptor's inode, each `name_map` value, each directory entry and
  each symlink target) is live; `new` establishes it and every step keeps it, while the
  arena only grows (`Step.extends`). So no call of a reachable state reads the arena
  through a stale reference (`referential_integrity`).
Trusted boundary: none
Main exports: Call, CallStep, Step, Reachable, CallReachable, Integrity,
  Integrity.step, referential_integrity.
-/

namespace Wasmer.Wasi

open WasiFs

/-- One guest call of the filesystem state. -/
inductive Call where
  | createFd (rights rightsInheriting : WasiRights) (flags : WasiFdflags) (inode : Inode)
  | flush (io : HostIo) (fd : WasiFd)
  | filestatFd (fd : WasiFd)
  | fdstat (fd : WasiFd)
  | prestatFd (fd : WasiFd)
  | filestatPath (preopenedFd : WasiFd) (flags : WasiLookupflags) (path : String)

namespace Call

/-- The state a call leaves: the one an `&mut self` operation returns, and the state
itself after an `&self` one. -/
def apply (s : WasiFs) : Call → WasiFs
  | createFd rights rightsInheriting flags inode =>
      (s.createFd rights rightsInheriting flags inode).2
  | flush io fd => (s.flush io fd).2
  | filestatFd _ | fdstat _ | prestatFd _ => s
  | filestatPath preopenedFd flags path => (s.filestatPath preopenedFd flags path).2

/-- The precondition of a call: `create_fd` is given a live inode. -/
def Admissible (s : WasiFs) : Call → Prop
  | createFd _ _ _ inode => s.inodes.Live inode
  | _ => True

/-- The call is a `create_fd`. -/
def isCreateFd : Call → Bool
  | createFd .. => true
  | _ => false

/-- The state a sequence of calls leaves. -/
def run (s : WasiFs) (calls : List Call) : WasiFs :=
  calls.foldl apply s

end Call

/-- A guest call taken by a run. -/
inductive CallStep : WasiFs → WasiFs → Prop where
  | call {s : WasiFs} (call : Call) (admissible : call.Admissible s) : CallStep s (call.apply s)

/-- The references a record holds are live. -/
def Kind.RefsLive (inodes : Arena InodeVal) : Kind → Prop
  | .dir _ entries => ∀ name inode, entries name = some inode → inodes.Live inode
  | .symlink forwarded => inodes.Live forwarded
  | _ => True

/-- A step of a run: a guest call, or another component inserting a record or a
`name_map` entry whose references are live. -/
inductive Step : WasiFs → WasiFs → Prop where
  | call {s s' : WasiFs} (step : CallStep s s') : Step s s'
  | insertInode {s : WasiFs} (inodeVal : InodeVal) (refs : inodeVal.kind.RefsLive s.inodes) :
      Step s { s with inodes := (s.inodes.insert inodeVal).2 }
  | insertName {s : WasiFs} (path : String) (inode : Inode) (live : s.inodes.Live inode) :
      Step s { s with nameMap := Function.update s.nameMap path (some inode) }

/-- A state some run from `WasiFs::new host paths` reaches. -/
def Reachable (host : Host) (paths : List String) (s : WasiFs) : Prop :=
  ∃ start, WasiFs.new host paths = .ok start ∧ Relation.ReflTransGen Step start s

/-- A state guest calls alone reach from `WasiFs::new host paths`. -/
def CallReachable (host : Host) (paths : List String) (s : WasiFs) : Prop :=
  ∃ start, WasiFs.new host paths = .ok start ∧ Relation.ReflTransGen CallStep start s

theorem CallReachable.reachable {host : Host} {paths : List String} {s : WasiFs}
    (reach : CallReachable host paths s) : Reachable host paths s :=
  let ⟨start, built, run⟩ := reach
  ⟨start, built, run.mono fun _ _ => Step.call⟩

/-- The preopen of `"/sandbox"`, then `create_fd(rights, 0, 0, slot 0)`: a run of one guest
call, which opens descriptor 4 on the preopened directory. -/
theorem CallReachable.sandbox_createFd (rights : WasiRights) :
    CallReachable dirHost ["/sandbox"]
      ((WasiFs.empty.addPreopen "/sandbox" ⟨0⟩).createFd rights 0 0 ⟨0, 0⟩).2 :=
  ⟨_, rfl, .single (.call (.createFd rights 0 0 ⟨0, 0⟩) ⟨_, rfl⟩)⟩

/-- The arena only grows along a run. -/
theorem Step.extends {s s' : WasiFs} (step : Step s s') : s.inodes.Extends s'.inodes := by
  cases step with
  | call step =>
      obtain ⟨call, -⟩ := step
      cases call <;> exact .refl _
  | insertInode inodeVal _ => exact .insert _ inodeVal
  | insertName => exact .refl _

theorem Kind.RefsLive.mono {a b : Arena InodeVal} (ab : a.Extends b) :
    ∀ {kind : Kind}, kind.RefsLive a → kind.RefsLive b
  | .dir _ _, refs => fun name inode entry => ab.live (refs name inode entry)
  | .symlink _, refs => ab.live refs
  | .file _, _ | .buffer _, _ => trivial

/-! ### Referential integrity -/

/-- Every inode reference the state stores is live in the arena. -/
structure Integrity (s : WasiFs) : Prop where
  fdMap : ∀ fd descriptor, s.fdMap fd = some descriptor → s.inodes.Live descriptor.inode
  nameMap : ∀ path inode, s.nameMap path = some inode → s.inodes.Live inode
  records : ∀ inode inodeVal, s.inodes.get inode = some inodeVal →
    inodeVal.kind.RefsLive s.inodes

namespace Integrity

variable {s : WasiFs}

theorem empty : Integrity WasiFs.empty where
  fdMap _ _ none := nomatch none
  nameMap _ _ none := nomatch none
  records _ _ none := nomatch none

theorem symlinksLive (integrity : Integrity s) : SymlinksLive s.inodes :=
  fun inode inodeVal _ found link => by
    simpa [link, Kind.RefsLive] using integrity.records inode inodeVal found

/-- Inserting a record whose references are live. -/
theorem insertInode (integrity : Integrity s) {inodeVal : InodeVal}
    (refs : inodeVal.kind.RefsLive s.inodes) :
    Integrity { s with inodes := (s.inodes.insert inodeVal).2 } where
  fdMap fd descriptor open_ := (Arena.Extends.insert _ _).live (integrity.fdMap fd descriptor open_)
  nameMap path inode entry := (Arena.Extends.insert _ _).live (integrity.nameMap path inode entry)
  records inode found hit := by
    rcases Arena.get_insert hit with old | ⟨-, rfl⟩
    · exact (integrity.records inode found old).mono (.insert _ _)
    · exact refs.mono (.insert _ _)

/-- Adding a `name_map` entry to a live inode. -/
theorem insertName (integrity : Integrity s) {path : String} {inode : Inode}
    (live : s.inodes.Live inode) :
    Integrity { s with nameMap := Function.update s.nameMap path (some inode) } where
  fdMap := integrity.fdMap
  nameMap other target entry := by
    by_cases same : other = path
    · subst same
      simp only [Function.update_same, Option.some.injEq] at entry
      exact entry ▸ live
    · exact integrity.nameMap other target (by simpa [Function.update_noteq same] using entry)
  records := integrity.records

/-- `create_fd` of a live inode. -/
theorem createFd (integrity : Integrity s) {inode : Inode} (live : s.inodes.Live inode)
    (rights rightsInheriting : WasiRights) (flags : WasiFdflags) :
    Integrity (s.createFd rights rightsInheriting flags inode).2 where
  fdMap fd descriptor open_ := by
    by_cases same : fd = s.nextFd
    · subst same
      simp only [createFd_fdMap, Function.update_same, Option.some.injEq] at open_
      exact open_ ▸ live
    · exact integrity.fdMap fd descriptor (by simpa [Function.update_noteq same] using open_)
  nameMap := integrity.nameMap
  records := integrity.records

/-- A guest call. -/
theorem call (integrity : Integrity s) {s' : WasiFs} : CallStep s s' → Integrity s'
  | .call (.createFd ..) live => integrity.createFd live _ _ _
  | .call (.flush ..) _ | .call (.filestatFd _) _ | .call (.fdstat _) _
  | .call (.prestatFd _) _ | .call (.filestatPath ..) _ => integrity

/-- Every step of a run keeps the integrity of the state. -/
theorem step (integrity : Integrity s) {s' : WasiFs} : Step s s' → Integrity s'
  | .call step => integrity.call step
  | .insertInode _ refs => integrity.insertInode refs
  | .insertName _ _ live => integrity.insertName live

/-- One pass of the preopen loop. -/
theorem addPreopen (integrity : Integrity s) (file : String) (handle : HostFile) :
    Integrity (s.addPreopen file handle) :=
  have noEntries : (preopenRecord file handle).kind.RefsLive s.inodes :=
    fun _ _ none => nomatch none
  (integrity.insertInode noEntries).createFd ⟨_, Arena.get_insert_self _ _⟩ _ _ _

/-- `WasiFs::new` builds a state of integrity. -/
theorem new {host : Host} {paths : List String} (built : WasiFs.new host paths = .ok s) :
    Integrity s :=
  new_invariant Integrity empty (fun _ file handle integrity => integrity.addPreopen file handle)
    built

/-- A run keeps the integrity of the state. -/
theorem run {s' : WasiFs} (integrity : Integrity s) (run : Relation.ReflTransGen Step s s') :
    Integrity s' := by
  induction run with
  | refl => exact integrity
  | tail _ step ih => exact ih.step step

/-- Every reachable state is of integrity. -/
theorem reachable {host : Host} {paths : List String} (reach : Reachable host paths s) :
    Integrity s :=
  let ⟨_, built, run⟩ := reach
  (new built).run run

end Integrity

/-- The arena only grows along a run. -/
theorem Step.extends_run {s s' : WasiFs} (run : Relation.ReflTransGen Step s s') :
    s.inodes.Extends s'.inodes := by
  induction run with
  | refl => exact .refl _
  | tail _ step ih => exact ih.trans step.extends

/-! ### No call reads a stale reference -/

section Calls

variable {s : WasiFs}

theorem withDescriptor_not_panic (integrity : Integrity s) {α : Type}
    {body : Fd → InodeVal → Outcome WasiErrno α}
    (total : ∀ fd inodeVal, ¬ (body fd inodeVal).IsPanic)
    (fd : WasiFd) : ¬ (s.withDescriptor fd body).IsPanic := by
  cases open_ : s.fdMap fd with
  | none => simp [withDescriptor_of_none open_]
  | some descriptor =>
      obtain ⟨inodeVal, found⟩ := integrity.fdMap fd descriptor open_
      rw [withDescriptor_of_get open_ found]
      exact total _ _

theorem filestatPath_not_panic (integrity : Integrity s) (preopenedFd : WasiFd)
    (flags : WasiLookupflags) (path : String) :
    ¬ (s.filestatPath preopenedFd flags path).1.IsPanic := by
  rw [filestatPath_fst]
  cases entry : s.nameMap path with
  | none => simp
  | some inode =>
      simpa using
        filestatInode_not_panic integrity.symlinksLive (integrity.nameMap path inode entry)

/-- A host flush never panics: a failure is `__WASI_EIO`. -/
theorem hostFlush_not_panic (io : HostIo) (target : HostFlush) :
    ¬ (hostFlush io target).result.IsPanic := by
  unfold hostFlush
  split <;> simp

theorem Kind.flush_ne_noElement (io : HostIo) :
    ∀ kind : Kind, (kind.flush io).result ≠ .panic Arena.noElement
  | .file handle => fun stale => hostFlush_not_panic io (.handle handle) (stale ▸ trivial)
  | .dir _ _ | .buffer _ => nofun
  | .symlink _ => fun stale => absurd (Outcome.panic.inj stale) (by decide)

/-- `flush` in a state of integrity never reads a stale reference. -/
theorem flush_ne_noElement (integrity : Integrity s) (io : HostIo) (fd : WasiFd) :
    (s.flush io fd).1.result ≠ .panic Arena.noElement := by
  by_cases above : 3 ≤ fd
  · cases open_ : s.fdMap fd with
    | none => simp [flush_of_none above open_]
    | some descriptor =>
        by_cases clear : descriptor.rights &&& wasiRightFdDatasync = 0
        · simp [flush_of_no_datasync above open_ clear]
        · obtain ⟨inodeVal, found⟩ := integrity.fdMap fd descriptor open_
          rw [flush_of_get above open_ clear found]
          exact Kind.flush_ne_noElement io _
  · rw [flush_stdio (stdio_cases above) WasiFs.empty]
    rcases stdio_cases above with rfl | rfl | rfl
    · simp [WasiFs.flush, Flushed.ofOutcome]
    · exact fun stale => hostFlush_not_panic io .stdout (stale ▸ trivial)
    · exact fun stale => hostFlush_not_panic io .stderr (stale ▸ trivial)

end Calls

/-- Referential integrity of the inode arena: in every state a run reaches from
`WasiFs::new`, and in every state any run reaches from there, each stored inode reference
is live, each record keeps its reference, and no call reads the arena through a stale
reference: `filestat_fd`, `fdstat`, `prestat_fd` and `filestat_path` (every hop of its
symlink loop included) never panic, and `flush` never panics on the arena. -/
theorem referential_integrity {host : Host} {paths : List String} {s s' : WasiFs}
    (reach : Reachable host paths s) (run : Relation.ReflTransGen Step s s') :
    Integrity s' ∧ s.inodes.Extends s'.inodes ∧
      ∀ (io : HostIo) (fd preopenedFd : WasiFd) (flags : WasiLookupflags) (path : String),
        ¬ (s'.filestatFd fd).IsPanic ∧ ¬ (s'.fdstat fd).IsPanic ∧
        ¬ (s'.prestatFd fd).IsPanic ∧
        ¬ (s'.filestatPath preopenedFd flags path).1.IsPanic ∧
        (s'.flush io fd).1.result ≠ .panic Arena.noElement := by
  have integrity := (Integrity.reachable reach).run run
  refine ⟨integrity, Step.extends_run run, fun io fd preopenedFd flags path =>
    ⟨withDescriptor_not_panic integrity (fun _ _ => Outcome.not_isPanic_ok _) fd,
      withDescriptor_not_panic integrity (fun _ _ => Outcome.not_isPanic_ok _) fd,
      withDescriptor_not_panic integrity (fun _ inodeVal => ?_) fd,
      filestatPath_not_panic integrity preopenedFd flags path,
      flush_ne_noElement integrity io fd⟩⟩
  by_cases preopened : inodeVal.isPreopened <;> simp [preopened]

/-- A run from the preopen of `"/sandbox"`: `create_fd` opens descriptor 4 on it, then
another component inserts a symlink to it. The state reached is of integrity. -/
theorem referential_integrity_sandbox :
    ∃ s s', WasiFs.new dirHost ["/sandbox"] = .ok s ∧ Relation.ReflTransGen Step s s' ∧
      s'.fdMap 4 ≠ none ∧ s'.inodes.items.length = 2 ∧ Integrity s' :=
  have run : Relation.ReflTransGen Step (WasiFs.empty.addPreopen "/sandbox" ⟨0⟩)
      { ((WasiFs.empty.addPreopen "/sandbox" ⟨0⟩).createFd 1 0 0 ⟨0, 0⟩).2 with
        inodes := ((WasiFs.empty.addPreopen "/sandbox" ⟨0⟩).inodes.insert
          ⟨.default, false, "link", .symlink ⟨0, 0⟩⟩).2 } :=
    .tail (.single (.call (.call (.createFd 1 0 0 ⟨0, 0⟩) ⟨_, rfl⟩)))
      (.insertInode ⟨.default, false, "link", .symlink ⟨0, 0⟩⟩ ⟨_, rfl⟩)
  ⟨_, _, rfl, run, by decide, rfl,
    (@referential_integrity dirHost ["/sandbox"] _ _ ⟨_, rfl, .refl⟩ run).1⟩

end Wasmer.Wasi
