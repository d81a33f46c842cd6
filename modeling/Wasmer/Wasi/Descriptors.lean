import Wasmer.Wasi.Run

/-
Module: Wasmer.Wasi.Descriptors
Layer: Proofs
Purpose: The descriptor table over runs: what `create_fd` hands out, and what `fdstat`
  and `filestat_fd` report afterwards. `create_fd` takes `next_fd` and steps it in
  32-bit arithmetic (`run_createFd_nextFd`). Spec §4.3 describes the table as a log of
  allocations, the `j`-th under id `3 + j`; while the log has fewer than `2 ^ 32 - 3`
  entries, `fd_map` and `next_fd` refine it (`RefinesLog`, `descriptor_table_refines_log`),
  so allocation is fresh (`createFd_fresh_until_wrap`). Past that the counter wraps:
  `2 ^ 32 - 3` allocations after the preopen of `"/sandbox"` hand out the stdin id 0,
  and three more hand out 3 again while the preopen still holds it
  (`createFd_wraps_past_u32`). In every reachable state the three descriptor queries
  answer from the descriptor and its inode (`descriptor_queries`), and `fdstat` reports
  the rights again in place of the inheriting rights
  (`fdstat_reports_rights_as_inheriting`). `new` gives each preopen the placeholder stat
  block `__wasi_filestat_t::default()`, so `filestat_fd` of a preopen reports the file type
  `__WASI_FILETYPE_UNKNOWN` where `fdstat` reports `__WASI_FILETYPE_DIRECTORY`
  (`filestatFd_fdstat_disagree`).
Trusted boundary: none
Main exports: run_createFd_nextFd, logLookup, RefinesLog, descriptor_table_refines_log,
  createFd_fresh_until_wrap, createFd_wraps_past_u32, descriptor_queries,
  fdstat_reports_rights_as_inheriting, filestatFd_fdstat_disagree.
-/

namespace Wasmer.Wasi

open WasiFs

variable {s : WasiFs} {rights rightsInheriting : WasiRights} {flags : WasiFdflags}
  {inode : Inode}

/-! ### Allocation -/

/-- `create_fd` keeps every key of `fd_map`. -/
theorem createFd_keeps_key {key : WasiFd} (present : s.fdMap key ≠ none) :
    (s.createFd rights rightsInheriting flags inode).2.fdMap key ≠ none := by
  by_cases same : key = s.nextFd
  · simp [same]
  · simpa [Function.update_noteq same] using present

/-- `k` calls of `create_fd` step the 32-bit counter `k` times. -/
theorem run_createFd_nextFd :
    ∀ (k : Nat) (s : WasiFs),
      (Call.run s (List.replicate k (.createFd rights rightsInheriting flags inode))).nextFd.toNat =
        (s.nextFd.toNat + k) % 2 ^ 32
  | 0, s => by simp [Call.run, Nat.mod_eq_of_lt s.nextFd.toNat_lt_size]
  | k + 1, s => by
      rw [List.replicate_succ, Call.run, List.foldl_cons, ← Call.run, run_createFd_nextFd k]
      simp only [Call.apply, createFd_nextFd_toNat]
      omega

/-- Calls of `create_fd` keep every key of `fd_map`. -/
theorem run_createFd_keeps_key {key : WasiFd} :
    ∀ (k : Nat) (s : WasiFs), s.fdMap key ≠ none →
      (Call.run s (List.replicate k (.createFd rights rightsInheriting flags inode))).fdMap key ≠
        none
  | 0, _, present => present
  | k + 1, s, present => by
      rw [List.replicate_succ, Call.run, List.foldl_cons, ← Call.run]
      exact run_createFd_keeps_key k _ (createFd_keeps_key present)

/-- Calls of `create_fd` leave the arena as it was. -/
theorem run_createFd_inodes :
    ∀ (k : Nat) (s : WasiFs),
      (Call.run s (List.replicate k (.createFd rights rightsInheriting flags inode))).inodes =
        s.inodes
  | 0, _ => rfl
  | k + 1, s => by
      rw [List.replicate_succ, Call.run, List.foldl_cons, ← Call.run, run_createFd_inodes k]
      rfl

/-- Calls of `create_fd` on a live inode are a run of guest calls. -/
theorem run_createFd_reachable {host : Host} {paths : List String}
    (reach : CallReachable host paths s) (live : s.inodes.Live inode) :
    ∀ k, CallReachable host paths
      (Call.run s (List.replicate k (.createFd rights rightsInheriting flags inode)))
  | 0 => reach
  | k + 1 => by
      obtain ⟨start, built, run⟩ := run_createFd_reachable reach live k
      refine ⟨start, built, ?_⟩
      rw [List.replicate_succ', Call.run, List.foldl_append, ← Call.run]
      exact run.tail
        (.call (.createFd ..) (by simpa [Call.Admissible, run_createFd_inodes] using live))

/-! ### The descriptor table refines the allocation log -/

/-- The descriptor a call stores: `create_fd`'s, at offset 0. -/
def Call.allocated : Call → Option Fd
  | .createFd rights rightsInheriting flags inode =>
      some ⟨rights, rightsInheriting, flags, 0, inode⟩
  | _ => none

theorem Call.allocated_length :
    ∀ calls : List Call, (calls.filterMap Call.allocated).length = calls.countP Call.isCreateFd
  | [] => rfl
  | call :: calls => by
      cases call <;>
        simp [List.filterMap_cons, Call.allocated, Call.isCreateFd, allocated_length calls]

/-- The descriptor table as spec §4.3 describes it: the log of the descriptors allocated
so far, the `j`-th under id `3 + j`, and no other id open. -/
def logLookup (log : List Fd) (k : Nat) : Option Fd :=
  if 3 ≤ k then log[k - 3]? else none

theorem logLookup_next (log : List Fd) : logLookup log (3 + log.length) = none := by
  simp [logLookup]

theorem logLookup_append {log : List Fd} {fd : Fd} {k : Nat} :
    logLookup (log ++ [fd]) k = if k = 3 + log.length then some fd else logLookup log k := by
  by_cases next : k = 3 + log.length
  · simp [logLookup, next]
  · unfold logLookup
    split_ifs with above
    · rw [List.getElem?_append]
      split_ifs with inside
      · rfl
      · rw [List.getElem?_eq_none (by simp; omega), List.getElem?_eq_none (by omega)]
    · rfl

/-- The concrete table refines the log: `fd_map` maps every id as the log does, and
`next_fd` is the next id of the log. -/
structure RefinesLog (s : WasiFs) (log : List Fd) : Prop where
  fdMap : ∀ k : WasiFd, s.fdMap k = logLookup log k.toNat
  nextFd : s.nextFd.toNat = 3 + log.length

namespace RefinesLog

variable {log : List Fd}

/-- The state `new` builds over directories refines the log of the preopens. -/
theorem of_shape {host : Host} {files : List String} (shape : PreopenShape host files s) :
    RefinesLog s ((List.range files.length).map preopenFd) where
  fdMap k := by
    rw [shape.fdMap, logLookup, List.getElem?_map]
    by_cases above : 3 ≤ k.toNat
    · by_cases inside : k.toNat - 3 < files.length
      · rw [if_pos ⟨above, by omega⟩, if_pos above, List.getElem?_range inside]
        rfl
      · rw [if_neg (by omega), if_pos above, List.getElem?_eq_none (by simp; omega)]
        rfl
    · rw [if_neg (by omega), if_neg above]
  nextFd := by simp [shape.nextFd]

/-- `create_fd` appends its descriptor to the log, under the id it returns (`next_fd`,
by `createFd_fst`), while that id is below `2 ^ 32 - 1`. -/
theorem createFd (refines : RefinesLog s log) (room : 3 + log.length + 1 < 2 ^ 32) :
    RefinesLog (s.createFd rights rightsInheriting flags inode).2
      (log ++ [⟨rights, rightsInheriting, flags, 0, inode⟩]) where
  fdMap k := by
    rw [createFd_fdMap, logLookup_append]
    by_cases same : k = s.nextFd
    · subst same
      simp [refines.nextFd]
    · have other : k.toNat ≠ 3 + log.length := fun hit =>
        same (UInt32.toNat.inj (hit.trans refines.nextFd.symm))
      rw [Function.update_noteq same, if_neg other, refines.fdMap]
  nextFd := by
    rw [createFd_nextFd_toNat, refines.nextFd, Nat.mod_eq_of_lt room, List.length_append,
      List.length_singleton, Nat.add_assoc]

/-- A run appends the descriptor of each `create_fd` to the log, in call order, while the
log stays below `2 ^ 32 - 3` entries. -/
theorem run {calls : List Call} :
    ∀ {s : WasiFs} {log : List Fd}, RefinesLog s log →
      3 + log.length + (calls.filterMap Call.allocated).length < 2 ^ 32 →
      RefinesLog (Call.run s calls) (log ++ calls.filterMap Call.allocated) := by
  induction calls with
  | nil => exact fun refines _ => by simpa using refines
  | cons call calls ih =>
      intro s log refines room
      cases call with
      | createFd rights rightsInheriting flags inode =>
          simp only [List.filterMap_cons, Call.allocated, List.length_cons] at room ⊢
          rw [List.append_cons]
          exact ih (refines.createFd (by omega)) (by simp; omega)
      | _ => exact ih refines room

end RefinesLog

/-- The descriptor table refines the allocation log of spec §4.3. After `new` preopens the
directories `paths`, every run of guest calls with fewer than `2 ^ 32 - 3` allocations in
all (the preopens included) leaves under id `3 + j` the `j`-th descriptor of the log (the
preopens in path order, then the descriptor of each `create_fd` in call order), no other
id open, and `next_fd` at the next id of the log. So the `create_fd` calls hand out
3 + n, 3 + n + 1, ... in order, each a fresh id. -/
theorem descriptor_table_refines_log {host : Host} {paths : List String}
    (repo : host.openRepo = .ok ()) (dirs : ∀ file ∈ paths, host.opensDir file)
    (calls : List Call) (fits : paths.length + calls.countP Call.isCreateFd + 3 < 2 ^ 32) :
    ∃ s, WasiFs.new host paths = .ok s ∧
      RefinesLog (Call.run s calls)
        ((List.range paths.length).map preopenFd ++ calls.filterMap Call.allocated) := by
  obtain ⟨s, built, shape⟩ := new_shape repo dirs (by omega)
  refine ⟨s, built, (RefinesLog.of_shape shape).run ?_⟩
  rw [List.length_map, List.length_range, Call.allocated_length]
  omega

/-- Preopening `"/sandbox"` and then calling `create_fd(1, 0, 0, inode 0)` leaves the
preopen under 3 and the new descriptor under 4. -/
theorem descriptor_table_refines_log_sandbox :
    ∃ s, WasiFs.new dirHost ["/sandbox"] = .ok s ∧
      RefinesLog (Call.run s [.createFd 1 0 0 ⟨0, 0⟩])
        [preopenFd 0, ⟨1, 0, 0, 0, ⟨0, 0⟩⟩] :=
  @descriptor_table_refines_log dirHost ["/sandbox"] rfl (fun _ _ => rfl)
    [.createFd 1 0 0 ⟨0, 0⟩] (by decide)

/-- While the counter does not wrap, allocation is fresh. After `new` preopens `n`
directories, a `create_fd` preceded in the run by `c` others, with `n + c + 3 < 2 ^ 32`,
returns `next_fd`: an id of 3 or more that is no key of `fd_map`; and it changes the entry
of that key alone. Keys are never removed (`createFd_keeps_key`), so the id differs from
every id handed out before it. -/
theorem createFd_fresh_until_wrap {host : Host} {paths : List String}
    (repo : host.openRepo = .ok ()) (dirs : ∀ file ∈ paths, host.opensDir file)
    (before : List Call) (fits : paths.length + before.countP Call.isCreateFd + 3 < 2 ^ 32) :
    ∃ s, WasiFs.new host paths = .ok s ∧
      ((Call.run s before).createFd rights rightsInheriting flags inode).1 =
        .ok (Call.run s before).nextFd ∧
      3 ≤ (Call.run s before).nextFd.toNat ∧
      (Call.run s before).fdMap (Call.run s before).nextFd = none ∧
      ∀ k, k ≠ (Call.run s before).nextFd →
        ((Call.run s before).createFd rights rightsInheriting flags inode).2.fdMap k =
          (Call.run s before).fdMap k := by
  obtain ⟨s, built, shape⟩ := new_shape repo dirs (by omega)
  have refines := @RefinesLog.run before s _ (.of_shape shape)
    (by rw [List.length_map, List.length_range, Call.allocated_length]; omega)
  refine ⟨s, built, rfl, ?_, ?_, fun k other => ?_⟩
  · rw [refines.nextFd]
    omega
  · rw [refines.fdMap, refines.nextFd]
    exact logLookup_next _
  · rw [createFd_fdMap, Function.update_noteq other]

/-- After preopening `"/sandbox"` and one `create_fd`, the next `create_fd` gets the fresh
descriptor 5. -/
theorem createFd_fresh_until_wrap_sandbox :
    ∃ s, WasiFs.new dirHost ["/sandbox"] = .ok s ∧
      ((Call.run s [.createFd 0 0 0 ⟨0, 0⟩]).createFd 0 0 0 ⟨0, 0⟩).1 = .ok 5 ∧
      (Call.run s [.createFd 0 0 0 ⟨0, 0⟩]).fdMap 5 = none := by
  obtain ⟨s, built, handed, _, fresh, _⟩ :=
    @createFd_fresh_until_wrap 0 0 0 ⟨0, 0⟩ dirHost ["/sandbox"] rfl (fun _ _ => rfl)
      [.createFd 0 0 0 ⟨0, 0⟩] (by decide)
  obtain rfl : s = WasiFs.empty.addPreopen "/sandbox" ⟨0⟩ :=
    Outcome.ok.inj (built.symm.trans rfl)
  exact ⟨_, built, handed, fresh⟩

/-- After `new` preopens `"/sandbox"` as descriptor 3, guest calls of `create_fd` on its
inode: the `2 ^ 32 - 3`-th returns the stdin id 0, and the `2 ^ 32`-th returns 3, still a
key of `fd_map`. -/
theorem createFd_wraps_past_u32 :
    ∃ s, WasiFs.new dirHost ["/sandbox"] = .ok s ∧ s.fdMap 3 = some (preopenFd 0) ∧
      CallReachable dirHost ["/sandbox"]
        (Call.run s (List.replicate (2 ^ 32 - 1) (.createFd 0 0 0 ⟨0, 0⟩))) ∧
      ((Call.run s (List.replicate (2 ^ 32 - 4) (.createFd 0 0 0 ⟨0, 0⟩))).createFd
        0 0 0 ⟨0, 0⟩).1 = .ok 0 ∧
      (Call.run s (List.replicate (2 ^ 32 - 1) (.createFd 0 0 0 ⟨0, 0⟩))).fdMap 3 ≠ none ∧
      ((Call.run s (List.replicate (2 ^ 32 - 1) (.createFd 0 0 0 ⟨0, 0⟩))).createFd
        0 0 0 ⟨0, 0⟩).1 = .ok 3 := by
  have reach : CallReachable dirHost ["/sandbox"] (WasiFs.empty.addPreopen "/sandbox" ⟨0⟩) :=
    ⟨_, rfl, .refl⟩
  have live : (WasiFs.empty.addPreopen "/sandbox" ⟨0⟩).inodes.Live ⟨0, 0⟩ := ⟨_, rfl⟩
  refine ⟨_, rfl, rfl, run_createFd_reachable reach live _, ?_,
    run_createFd_keeps_key _ _ (by decide), ?_⟩ <;>
  · rw [createFd_fst]
    exact congrArg Outcome.ok (UInt32.toNat.inj (by rw [run_createFd_nextFd]; decide))

/-! ### The descriptor queries -/

/-- After `new` preopens `"/sandbox"`, `create_fd(1, 0, 0, inode 0)` returns 4, and
`fdstat(4)` reports the inheriting rights 1 that the descriptor was not given. -/
theorem fdstat_reports_rights_as_inheriting :
    ∃ s, WasiFs.new dirHost ["/sandbox"] = .ok s ∧ (s.createFd 1 0 0 ⟨0, 0⟩).1 = .ok 4 ∧
      (s.createFd 1 0 0 ⟨0, 0⟩).2.fdstat 4 = .ok ⟨wasiFiletypeDirectory, 0, 1, 1⟩ :=
  ⟨_, rfl, rfl, rfl⟩

/-- The descriptor queries in every reachable state. On an id of `fd_map`, `filestat_fd`
is the stat block of the descriptor's inode; `fdstat` reports the file type of its kind,
the descriptor's flags, and its rights in both rights fields; and `prestat_fd` answers a
directory with the byte length of the name cast to `u32` when the inode is preopened and
`__WASI_EBADF` otherwise. On any other id all three are `__WASI_EBADF`. -/
theorem descriptor_queries {host : Host} {paths : List String} (reach : Reachable host paths s)
    (fd : WasiFd) :
    (s.fdMap fd = none → s.filestatFd fd = .err wasiEbadf ∧ s.fdstat fd = .err wasiEbadf ∧
      s.prestatFd fd = .err wasiEbadf) ∧
    ∀ descriptor, s.fdMap fd = some descriptor → ∃ inodeVal,
      s.inodes.get descriptor.inode = some inodeVal ∧ s.filestatFd fd = .ok inodeVal.stat ∧
      s.fdstat fd =
        .ok ⟨inodeVal.kind.filetype, descriptor.flags, descriptor.rights, descriptor.rights⟩ ∧
      s.prestatFd fd =
        if inodeVal.isPreopened then
          .ok ⟨wasiPreopentypeDir, inodeVal.name.utf8ByteSize.toUInt32⟩
        else .err wasiEbadf := by
  refine ⟨fun closed => ⟨withDescriptor_of_none closed, withDescriptor_of_none closed,
    withDescriptor_of_none closed⟩, fun descriptor open_ => ?_⟩
  obtain ⟨inodeVal, found⟩ := (Integrity.reachable reach).fdMap fd descriptor open_
  exact ⟨inodeVal, found, withDescriptor_of_get open_ found, withDescriptor_of_get open_ found,
    withDescriptor_of_get open_ found⟩

/-- After `create_fd(1, 0, 0, slot 0)` on the preopen of `"/sandbox"`, descriptor 4 is
open, and `fdstat(4)` reports the type of the preopened record with rights 1 in both
fields. -/
theorem descriptor_queries_sandbox :
    ∃ s, Reachable dirHost ["/sandbox"] s ∧ s.fdMap 4 = some ⟨1, 0, 0, 0, ⟨0, 0⟩⟩ ∧
      ∃ inodeVal, s.inodes.get ⟨0, 0⟩ = some inodeVal ∧
        s.fdstat 4 = .ok ⟨inodeVal.kind.filetype, 0, 1, 1⟩ :=
  have reach := (CallReachable.sandbox_createFd 1).reachable
  let ⟨inodeVal, found, _, fdstat, _⟩ :=
    (descriptor_queries reach 4).2 ⟨1, 0, 0, 0, ⟨0, 0⟩⟩ rfl
  ⟨_, reach, rfl, inodeVal, found, fdstat⟩

/-! ### The file type `filestat_fd` reports -/

/-- `filestat_fd(3)` and `fdstat(3)` disagree on the file type of the preopened
`"/sandbox"`: `new` stores the placeholder stat block `__wasi_filestat_t::default()`, of file
type `__WASI_FILETYPE_UNKNOWN`, where `fdstat` reports the directory. -/
theorem filestatFd_fdstat_disagree :
    ∃ s, WasiFs.new dirHost ["/sandbox"] = .ok s ∧ s.fdMap 3 = some (preopenFd 0) ∧
      s.filestatFd 3 = .ok .default ∧ WasiFilestat.default.stFiletype = wasiFiletypeUnknown ∧
      s.fdstat 3 = .ok ⟨wasiFiletypeDirectory, 0, preopenRights, preopenRights⟩ ∧
      wasiFiletypeUnknown ≠ wasiFiletypeDirectory :=
  ⟨_, rfl, rfl, rfl, rfl, rfl, by decide⟩

end Wasmer.Wasi
