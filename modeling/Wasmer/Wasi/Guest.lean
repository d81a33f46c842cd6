import Wasmer.Wasi.Flush

/-
Module: Wasmer.Wasi.Guest
Layer: Proofs
Purpose: The states that guest calls alone reach from `WasiFs::new host paths`. No guest
  call writes the arena or `name_map` (`CallStep.frame`): `create_fd` writes `fd_map` and
  `next_fd`, and `flush` and `filestat_path`, though they take `&mut self`, write
  nothing. So every such state keeps what `new` built (`GuestView`): an empty
  `name_map`, since `get_inode` never fills a vacant entry (its backing-store lookup is
  commented out), and only the preopened directory records. From it: `filestat_path`
  answers `__WASI_EINVAL` for every path (`filestatPath_guest`); `flush` of a descriptor
  id never reaches the host and answers `__WASI_EBADF`, `__WASI_EACCES` or
  `__WASI_EISDIR` (`flush_guest`); and `prestat_fd` answers every open descriptor, a
  preopen's or one `create_fd` made, with the byte length of one of the paths
  (`prestatFd_guest`).
Trusted boundary: none
Main exports: CallStep.frame, GuestView, filestatPath_guest, flush_guest, prestatFd_guest.
-/

namespace Wasmer.Wasi

open WasiFs

variable {host : Host} {paths : List String} {s s' : WasiFs}

/-! ### The frame of guest calls -/

/-- A guest call writes neither the arena nor `name_map`. -/
theorem CallStep.frame (step : CallStep s s') :
    s'.inodes = s.inodes ∧ s'.nameMap = s.nameMap := by
  obtain ⟨call, -⟩ := step
  cases call <;> exact ⟨rfl, rfl⟩

theorem CallStep.frame_run (run : Relation.ReflTransGen CallStep s s') :
    s'.inodes = s.inodes ∧ s'.nameMap = s.nameMap := by
  induction run with
  | refl => exact ⟨rfl, rfl⟩
  | tail _ step ih =>
      obtain ⟨inodes, nameMap⟩ := step.frame
      exact ⟨inodes.trans ih.1, nameMap.trans ih.2⟩

/-! ### What guest calls see of the state `new` builds -/

/-- `name_map` is empty, and every record is the preopened directory of one of the paths. -/
structure GuestView (paths : List String) (s : WasiFs) : Prop where
  nameMap : ∀ path, s.nameMap path = none
  records : ∀ inode inodeVal, s.inodes.get inode = some inodeVal →
    ∃ file ∈ paths, ∃ handle, inodeVal = preopenRecord file handle

namespace GuestView

theorem new (built : WasiFs.new host paths = .ok s) : GuestView paths s := by
  refine new_invariant_mem (GuestView paths) ⟨fun _ => rfl, fun _ _ none => nomatch none⟩
    (fun w file handle mem _ view => ⟨view.nameMap, fun inode inodeVal found => ?_⟩) built
  rcases Arena.get_insert found with old | ⟨-, rfl⟩
  · exact view.records inode inodeVal old
  · exact ⟨file, mem, handle, rfl⟩

theorem run (view : GuestView paths s) (run : Relation.ReflTransGen CallStep s s') :
    GuestView paths s' := by
  obtain ⟨inodes, nameMap⟩ := CallStep.frame_run run
  exact ⟨nameMap ▸ view.nameMap, inodes ▸ view.records⟩

theorem callReachable (reach : CallReachable host paths s) : GuestView paths s :=
  let ⟨_, built, run⟩ := reach
  (new built).run run

end GuestView

/-! ### Consequences for the calls -/

/-- In every state guest calls reach, `filestat_path` answers `__WASI_EINVAL` for every
path and every lookup flag: no guest call ever fills `name_map`. -/
theorem filestatPath_guest (reach : CallReachable host paths s) (preopenedFd : WasiFd)
    (flags : WasiLookupflags) (path : String) :
    (s.filestatPath preopenedFd flags path).1 = .err wasiEinval := by
  rw [filestatPath_fst, (GuestView.callReachable reach).nameMap path]
  rfl

/-- After `create_fd(1, 0, 0, slot 0)` on the preopen of `"/sandbox"`, descriptor 4 is open
and `filestat_path` through it still answers no path. -/
theorem filestatPath_guest_sandbox :
    ∃ s, CallReachable dirHost ["/sandbox"] s ∧ s.fdMap 4 = some ⟨1, 0, 0, 0, ⟨0, 0⟩⟩ ∧
      (s.filestatPath 4 wasiLookupSymlinkFollow "/sandbox").1 = .err wasiEinval :=
  have reach := CallReachable.sandbox_createFd 1
  ⟨_, reach, rfl, filestatPath_guest reach 4 wasiLookupSymlinkFollow "/sandbox"⟩

/-- In every state guest calls reach, `flush` of an id of 3 or more asks nothing of the
host, whatever the host answers, leaves the state as it was, and answers
`__WASI_EBADF`, `__WASI_EACCES` or `__WASI_EISDIR`: every record is a directory. -/
theorem flush_guest (reach : CallReachable host paths s) (io : HostIo) {fd : WasiFd}
    (above : 3 ≤ fd) :
    (s.flush io fd).1.issued = [] ∧ (s.flush io fd).2 = s ∧
      ((s.flush io fd).1.result = .err wasiEbadf ∨ (s.flush io fd).1.result = .err wasiEacces ∨
        (s.flush io fd).1.result = .err wasiEisdir) := by
  rcases flush_cases io (Integrity.reachable reach.reachable) above with
    ⟨-, flushed⟩ | ⟨_, -, -, flushed⟩ | ⟨_, inodeVal, -, -, found, flushed⟩
  · rw [flushed]
    exact ⟨rfl, rfl, .inl rfl⟩
  · rw [flushed]
    exact ⟨rfl, rfl, .inr (.inl rfl)⟩
  · obtain ⟨_, _, _, rfl⟩ := (GuestView.callReachable reach).records _ inodeVal found
    rw [flushed]
    exact ⟨rfl, rfl, .inr (.inr rfl)⟩

/-- After `create_fd(1, 0, 0, slot 0)` on the preopen of `"/sandbox"`, `flush(4)` holds the
datasync right and still asks nothing of the host. -/
theorem flush_guest_sandbox :
    ∃ s, CallReachable dirHost ["/sandbox"] s ∧ s.fdMap 4 = some ⟨1, 0, 0, 0, ⟨0, 0⟩⟩ ∧
      (s.flush (fun _ => true) 4).1.issued = [] :=
  have reach := CallReachable.sandbox_createFd 1
  ⟨_, reach, rfl, (flush_guest reach (fun _ => true) (by decide)).1⟩

/-- In every state guest calls reach, `prestat_fd` answers every open descriptor, a
preopen's or one `create_fd` made on any live inode, with a directory whose name is one of
the preopened paths, its byte length cast to `u32`. -/
theorem prestatFd_guest (reach : CallReachable host paths s) {fd : WasiFd} {descriptor : Fd}
    (open_ : s.fdMap fd = some descriptor) :
    ∃ file ∈ paths,
      s.prestatFd fd = .ok ⟨wasiPreopentypeDir, file.utf8ByteSize.toUInt32⟩ := by
  obtain ⟨inodeVal, found⟩ := (Integrity.reachable reach.reachable).fdMap fd descriptor open_
  obtain ⟨file, mem, handle, rfl⟩ := (GuestView.callReachable reach).records _ _ found
  exact ⟨file, mem, withDescriptor_of_get open_ found⟩

/-- After `create_fd(1, 0, 0, slot 0)` on the preopen of `"/sandbox"`, `prestat_fd(4)` of
the new descriptor answers with the preopened path. -/
theorem prestatFd_guest_sandbox :
    ∃ s, CallReachable dirHost ["/sandbox"] s ∧ s.fdMap 4 = some ⟨1, 0, 0, 0, ⟨0, 0⟩⟩ ∧
      ∃ file ∈ ["/sandbox"],
        s.prestatFd 4 = .ok ⟨wasiPreopentypeDir, file.utf8ByteSize.toUInt32⟩ :=
  have reach := CallReachable.sandbox_createFd 1
  ⟨_, reach, rfl, prestatFd_guest reach rfl⟩

end Wasmer.Wasi
