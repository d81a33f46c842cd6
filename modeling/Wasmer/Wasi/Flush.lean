import Wasmer.Wasi.Run

/-
Module: Wasmer.Wasi.Flush
Layer: Proofs
Purpose: Capability enforcement by `flush`. `Flushed.issued` lists the host flushes a
  call asks for. On an id of 3 or more in a state of integrity, `flush_cases` says once
  which of three branches the call takes: no descriptor (`__WASI_EBADF`), no datasync
  right (`__WASI_EACCES`), or the `match` on the kind of the descriptor's inode, where
  only a file asks the host for anything, and then for its own handle. Every refusal
  asks nothing of the host and leaves the state as it was. The standard streams 0, 1
  and 2 are flushed without reading the state. The only panic is the `unimplemented!()`
  on a symlink (`flush_panics_iff`).
Trusted boundary: none
Main exports: flush_cases, flush_capability, flush_panics_iff.
-/

namespace Wasmer.Wasi

open WasiFs

/-! ### The `match` on the kind -/

theorem Kind.flush_issued {io : HostIo} :
    ∀ {kind : Kind}, (kind.flush io).issued ≠ [] →
      ∃ handle, kind = .file handle ∧ (kind.flush io).issued = [.handle handle]
  | .file handle, _ => ⟨handle, rfl, rfl⟩
  | .dir _ _, asked | .symlink _, asked | .buffer _, asked => absurd rfl asked

/-- A refusal of the `match` on the kind asks nothing of the host. -/
theorem Kind.flush_refusal {io : HostIo} :
    ∀ {kind : Kind}, (kind.flush io).result = .err wasiEbadf ∨
        (kind.flush io).result = .err wasiEacces ∨ (kind.flush io).result = .err wasiEisdir →
      (kind.flush io).issued = []
  | .file handle, refused => by
      simp only [Kind.flush, hostFlush] at refused
      split at refused
      · simp at refused
      · exact absurd refused (by decide)
  | .dir _ _, _ | .symlink _, _ | .buffer _, _ => rfl

/-! ### `flush` on a descriptor -/

variable {s : WasiFs} {io : HostIo} {fd : WasiFd}

/-- The three branches `flush` takes on an id of 3 or more in a state of integrity. -/
theorem flush_cases (io : HostIo) (integrity : Integrity s) (above : 3 ≤ fd) :
    (s.fdMap fd = none ∧ (s.flush io fd).1 = ⟨[], .err wasiEbadf⟩) ∨
    (∃ descriptor, s.fdMap fd = some descriptor ∧
      descriptor.rights &&& wasiRightFdDatasync = 0 ∧
      (s.flush io fd).1 = ⟨[], .err wasiEacces⟩) ∨
    (∃ descriptor inodeVal, s.fdMap fd = some descriptor ∧
      descriptor.rights &&& wasiRightFdDatasync ≠ 0 ∧
      s.inodes.get descriptor.inode = some inodeVal ∧
      (s.flush io fd).1 = inodeVal.kind.flush io) := by
  cases open_ : s.fdMap fd with
  | none => exact .inl ⟨rfl, flush_of_none above open_⟩
  | some descriptor =>
      by_cases clear : descriptor.rights &&& wasiRightFdDatasync = 0
      · exact .inr (.inl ⟨descriptor, rfl, clear, flush_of_no_datasync above open_ clear⟩)
      · obtain ⟨inodeVal, found⟩ := integrity.fdMap fd descriptor open_
        exact .inr (.inr ⟨descriptor, inodeVal, rfl, clear, found,
          flush_of_get above open_ clear found⟩)

/-- Capability enforcement of `flush` in every reachable state. On an id of 3 or more it
asks the host to flush only the handle of a file inode whose descriptor holds the
datasync right; it returns `__WASI_EBADF` without a descriptor, `__WASI_EACCES` without
the right, `__WASI_EISDIR` on a directory and `Ok` on a buffer; and a refusal asks
nothing of the host and leaves the state as it was. On 0, 1 and 2 it does the same in
every state. -/
theorem flush_capability {host : Host} {paths : List String} (reach : Reachable host paths s)
    (io : HostIo) :
    (∀ fd : WasiFd, 3 ≤ fd →
      ((s.flush io fd).1.issued ≠ [] →
        ∃ descriptor inodeVal handle, s.fdMap fd = some descriptor ∧
          descriptor.rights &&& wasiRightFdDatasync ≠ 0 ∧
          s.inodes.get descriptor.inode = some inodeVal ∧ inodeVal.kind = .file handle ∧
          (s.flush io fd).1.issued = [.handle handle]) ∧
      (s.fdMap fd = none → (s.flush io fd).1.result = .err wasiEbadf) ∧
      (∀ descriptor, s.fdMap fd = some descriptor →
        (descriptor.rights &&& wasiRightFdDatasync = 0 →
          (s.flush io fd).1.result = .err wasiEacces) ∧
        (descriptor.rights &&& wasiRightFdDatasync ≠ 0 →
          ∃ inodeVal, s.inodes.get descriptor.inode = some inodeVal ∧
            (∀ handle entries, inodeVal.kind = .dir handle entries →
              (s.flush io fd).1.result = .err wasiEisdir) ∧
            (∀ buffer, inodeVal.kind = .buffer buffer → (s.flush io fd).1.result = .ok ()))) ∧
      ((s.flush io fd).1.result = .err wasiEbadf ∨ (s.flush io fd).1.result = .err wasiEacces ∨
          (s.flush io fd).1.result = .err wasiEisdir →
        (s.flush io fd).1.issued = [] ∧ (s.flush io fd).2 = s)) ∧
    ∀ fd : WasiFd, fd = 0 ∨ fd = 1 ∨ fd = 2 → ∀ other : WasiFs,
      (s.flush io fd).1 = (other.flush io fd).1 := by
  have integrity := Integrity.reachable reach
  refine ⟨fun fd above => ⟨fun asked => ?_, fun missing => ?_,
    fun descriptor open_ => ⟨?_, ?_⟩, fun refused => ⟨?_, rfl⟩⟩,
    fun _ stdio other => flush_stdio stdio other⟩
  · rcases flush_cases io integrity above with ⟨-, flushed⟩ | ⟨_, -, -, flushed⟩ |
      ⟨descriptor, inodeVal, open_, datasync, found, flushed⟩
    · exact absurd (by rw [flushed]) asked
    · exact absurd (by rw [flushed]) asked
    · obtain ⟨handle, kind, issued⟩ := Kind.flush_issued (flushed ▸ asked)
      exact ⟨descriptor, inodeVal, handle, open_, datasync, found, kind, flushed ▸ issued⟩
  · rw [flush_of_none above missing]
  · intro clear
    rw [flush_of_no_datasync above open_ clear]
  · intro datasync
    obtain ⟨inodeVal, found⟩ := integrity.fdMap fd descriptor open_
    refine ⟨inodeVal, found, fun _ _ kind => ?_, fun _ kind => ?_⟩ <;>
      rw [flush_of_get above open_ datasync found, kind] <;> rfl
  · rcases flush_cases io integrity above with ⟨-, flushed⟩ | ⟨_, -, -, flushed⟩ |
      ⟨_, _, -, -, -, flushed⟩ <;> rw [flushed] at refused ⊢
    exact Kind.flush_refusal refused

/-- After `create_fd(0, 0, 0, slot 0)` on the preopen of `"/sandbox"`, `flush(4)` is
refused: the descriptor lacks the datasync right. -/
theorem flush_capability_sandbox :
    ∃ s, Reachable dirHost ["/sandbox"] s ∧ s.fdMap 4 = some ⟨0, 0, 0, 0, ⟨0, 0⟩⟩ ∧
      (s.flush (fun _ => true) 4).1.result = .err wasiEacces :=
  have reach := (CallReachable.sandbox_createFd 0).reachable
  ⟨_, reach, rfl,
    (((flush_capability reach fun _ => true).1 4 (by decide)).2.2.1 _ rfl).1 (by decide)⟩

/-! ### When `flush` panics -/

/-- The `match` on the kind panics exactly on a symlink: `unimplemented!()`. -/
theorem Kind.flush_isPanic {io : HostIo} :
    ∀ {kind : Kind}, (kind.flush io).result.IsPanic ↔ ∃ forwarded, kind = .symlink forwarded
  | .file handle => ⟨fun panicked => absurd panicked (hostFlush_not_panic io (.handle handle)),
      fun ⟨_, no⟩ => nomatch no⟩
  | .dir _ _ | .buffer _ => ⟨False.elim, fun ⟨_, no⟩ => nomatch no⟩
  | .symlink forwarded => ⟨fun _ => ⟨forwarded, rfl⟩, fun _ => trivial⟩

/-- In every reachable state, where other components may have inserted symlinks, `flush`
panics exactly on an id of 3 or more whose descriptor holds the datasync right and refers
to a symlink: the `unimplemented!()` of the source. Every other call returns. -/
theorem flush_panics_iff {host : Host} {paths : List String} (reach : Reachable host paths s)
    (io : HostIo) (fd : WasiFd) :
    (s.flush io fd).1.result.IsPanic ↔
      ∃ descriptor inodeVal forwarded, 3 ≤ fd ∧ s.fdMap fd = some descriptor ∧
        descriptor.rights &&& wasiRightFdDatasync ≠ 0 ∧
        s.inodes.get descriptor.inode = some inodeVal ∧ inodeVal.kind = .symlink forwarded := by
  by_cases above : 3 ≤ fd
  · rcases flush_cases io (Integrity.reachable reach) above with
      ⟨missing, flushed⟩ | ⟨descriptor, open_, clear, flushed⟩ |
      ⟨descriptor, inodeVal, open_, datasync, found, flushed⟩ <;> rw [flushed]
    · exact ⟨False.elim, fun ⟨_, _, _, _, open', _⟩ => nomatch missing.symm.trans open'⟩
    · refine ⟨False.elim, fun ⟨other, _, _, _, open', datasync, _⟩ => datasync ?_⟩
      cases open'.symm.trans open_
      exact clear
    · rw [Kind.flush_isPanic]
      constructor
      · rintro ⟨forwarded, kind⟩
        exact ⟨descriptor, inodeVal, forwarded, above, open_, datasync, found, kind⟩
      · rintro ⟨other, otherVal, forwarded, -, open', -, found', kind⟩
        cases open'.symm.trans open_
        cases found'.symm.trans found
        exact ⟨forwarded, kind⟩
  · refine ⟨fun panicked => absurd panicked ?_,
      fun ⟨_, _, _, three, _⟩ => absurd three above⟩
    rw [flush_stdio (stdio_cases above) WasiFs.empty]
    rcases stdio_cases above with rfl | rfl | rfl
    · exact id
    · exact fun panicked => hostFlush_not_panic io .stdout panicked
    · exact fun panicked => hostFlush_not_panic io .stderr panicked

/-- Another component inserts a symlink to the preopen of `"/sandbox"`; `create_fd` gives
it descriptor 4 with the datasync right; `flush(4)` then panics. -/
theorem flush_panics_iff_symlink :
    ∃ s, Reachable dirHost ["/sandbox"] s ∧ (s.flush (fun _ => true) 4).1.result.IsPanic :=
  have reach : Reachable dirHost ["/sandbox"]
      (({ WasiFs.empty.addPreopen "/sandbox" ⟨0⟩ with
        inodes := ((WasiFs.empty.addPreopen "/sandbox" ⟨0⟩).inodes.insert
          ⟨.default, false, "link", .symlink ⟨0, 0⟩⟩).2 }).createFd 1 0 0 ⟨1, 0⟩).2 :=
    ⟨_, rfl, .tail (.tail .refl (.insertInode ⟨.default, false, "link", .symlink ⟨0, 0⟩⟩
      ⟨_, rfl⟩)) (.call (.call (.createFd 1 0 0 ⟨1, 0⟩) ⟨_, rfl⟩))⟩
  ⟨_, reach,
    (flush_panics_iff reach _ 4).mpr ⟨_, _, _, by decide, rfl, by decide, rfl, rfl⟩⟩

end Wasmer.Wasi
