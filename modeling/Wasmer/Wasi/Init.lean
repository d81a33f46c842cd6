import Wasmer.Wasi.State

/-
Module: Wasmer.Wasi.Init
Layer: Proofs
Purpose: The preopen loop of `WasiFs::new` over any list of host paths. `preopen_eq` says
  once what one pass does: panic when the path does not open or its metadata fails,
  `Err` naming the path when it is not a directory, and otherwise `addPreopen`, which
  inserts a preopened directory record and gives it the next descriptor. From it: the
  loop stops with the error of the first path that is not a directory
  (`preopenLoop_err`), and more generally `new` fails fast: the first path that is not an
  openable directory decides the outcome, a panic when it does not open or its metadata
  fails (`new_fails_fast`); every property that each pass keeps holds of the state it builds
  (`new_invariant`); and over directories, while the 32-bit counter does not wrap, that
  state has the shape `PreopenShape` (`new_shape`). `prestat_fd` reports the
  byte length of a path cast to `u32`; on a host within its limits (`Host.Limits`: no
  path of `PATH_MAX` bytes opens, and fewer than `2 ^ 31` files are held open) the cast
  keeps it and the counter does not wrap, so `new_preopens` describes `new` exactly.
Trusted boundary: `Host.Limits`, the limits of a POSIX host.
Main exports: preopenRecord, preopenFd, WasiFs.addPreopen, preopen_eq, preopenLoop_err,
  new_fails_fast, new_invariant, PreopenShape, new_shape, Host.Limits, new_preopens.
-/

namespace Wasmer.Wasi

open WasiFs

/-- The record `new` inserts for the path `file` opened as `handle`. -/
def preopenRecord (file : String) (handle : HostFile) : InodeVal :=
  ⟨.default, true, file, .dir (.hostFile handle) fun _ => none⟩

/-- `default_rights` of `new`. -/
def preopenRights : WasiRights := 0x1FFFFFFF

/-- The descriptor `new` gives the preopen in arena slot `slot`. -/
def preopenFd (slot : Nat) : Fd := ⟨preopenRights, preopenRights, 0, 0, ⟨slot, 0⟩⟩

/-- The path opens on the host and is a directory. -/
def Host.opensDir (host : Host) (file : String) : Bool :=
  match host.openFile file with
  | some handle => host.isDir handle == some true
  | none => false

/-- The path opens on the host and its metadata can be read. -/
def Host.Opens (host : Host) (file : String) : Prop :=
  ∃ handle isDir, host.openFile file = some handle ∧ host.isDir handle = some isDir

namespace WasiFs

/-- The state one pass of the preopen loop leaves for a directory. -/
def addPreopen (w : WasiFs) (file : String) (handle : HostFile) : WasiFs :=
  ({ w with inodes := (w.inodes.insert (preopenRecord file handle)).2 }.createFd
    preopenRights preopenRights 0 (w.inodes.insert (preopenRecord file handle)).1).2

section AddPreopen

variable (w : WasiFs) (file : String) (handle : HostFile)

@[simp] theorem addPreopen_inodes :
    (w.addPreopen file handle).inodes = (w.inodes.insert (preopenRecord file handle)).2 := rfl

@[simp] theorem addPreopen_nextFd : (w.addPreopen file handle).nextFd = w.nextFd + 1 := rfl

@[simp] theorem addPreopen_nameMap : (w.addPreopen file handle).nameMap = w.nameMap := rfl

@[simp] theorem addPreopen_fdMap :
    (w.addPreopen file handle).fdMap =
      Function.update w.fdMap w.nextFd
        (some ⟨preopenRights, preopenRights, 0, 0,
          ⟨w.inodes.items.length, w.inodes.generation⟩⟩) :=
  rfl

end AddPreopen

/-- One pass of the preopen loop. -/
theorem preopen_eq (host : Host) (w : WasiFs) (file : String) :
    preopen host w file =
      match host.openFile file with
      | none => .panic "Could not find file"
      | some handle =>
          match host.isDir handle with
          | none => .panic "called Result::unwrap() on an Err value"
          | some true => .ok (w.addPreopen file handle)
          | some false => .err (notDirectoryMessage file) := by
  unfold preopen
  cases host.openFile file with
  | none => rfl
  | some handle =>
      rcases isDir : host.isDir handle with _ | _ | _ <;> simp [isDir]
      rfl

theorem preopen_of_opensDir {host : Host} {file : String} (w : WasiFs)
    (dir : host.opensDir file) :
    ∃ handle, host.openFile file = some handle ∧
      preopen host w file = .ok (w.addPreopen file handle) := by
  unfold Host.opensDir at dir
  rcases opened : host.openFile file with _ | handle <;> simp [opened] at dir
  exact ⟨handle, rfl, by simp [preopen_eq, opened, dir]⟩

theorem preopen_of_not_opensDir {host : Host} {file : String} (w : WasiFs)
    (opens : host.Opens file) (notDir : host.opensDir file = false) :
    preopen host w file = .err (notDirectoryMessage file) := by
  obtain ⟨handle, isDir, opened, meta⟩ := opens
  cases isDir <;> simp_all [preopen_eq, Host.opensDir]

/-- A successful pass is `addPreopen` of a path that opens as a directory. -/
theorem preopen_ok {host : Host} {w w' : WasiFs} {file : String}
    (done : preopen host w file = .ok w') :
    ∃ handle, host.openFile file = some handle ∧ w' = w.addPreopen file handle := by
  rw [preopen_eq] at done
  rcases opened : host.openFile file with _ | handle <;> simp only [opened] at done
  · cases done
  · rcases isDir : host.isDir handle with _ | _ | _ <;> simp only [isDir] at done <;>
      try cases done
    exact ⟨handle, rfl, rfl⟩

end WasiFs

/-! ### The loop -/

variable {host : Host} {files : List String}

/-- The loop stops with the error of the first path that is not a directory. -/
theorem preopenLoop_err (opens : ∀ file ∈ files, host.Opens file) {bad : String}
    (first : files.find? (fun file => !host.opensDir file) = some bad) :
    ∀ w : WasiFs, files.foldlM (preopen host) w = .err (notDirectoryMessage bad) := by
  induction files with
  | nil => simp at first
  | cons file rest ih =>
      intro w
      by_cases dir : host.opensDir file
      · obtain ⟨_, _, pass⟩ := preopen_of_opensDir w dir
        simp only [List.find?_cons, dir, Bool.not_true] at first
        simp [pass, ih (fun f mem => opens f (.tail _ mem)) first]
      · simp only [List.find?_cons, dir, Bool.not_false, Option.some.injEq] at first
        subst first
        simp [preopen_of_not_opensDir w (opens file (.head _)) (by simpa using dir)]

/-- A property that the empty state has and every pass of the preopen loop over one of
the paths keeps holds of every state `new` builds. -/
theorem new_invariant_mem (holds : WasiFs → Prop) (empty : holds WasiFs.empty)
    (pass : ∀ w file handle, file ∈ files → host.openFile file = some handle → holds w →
      holds (w.addPreopen file handle))
    {s : WasiFs} (built : WasiFs.new host files = .ok s) : holds s := by
  unfold WasiFs.new at built
  split at built
  · cases built
  · refine Outcome.foldlM_invariant_mem holds files ?_ _ _ empty built
    intro w file w' mem done kept
    obtain ⟨handle, opened, rfl⟩ := preopen_ok done
    exact pass w file handle mem opened kept

/-- A property that the empty state has and every pass of the preopen loop keeps holds of
every state `new` builds. -/
theorem new_invariant (holds : WasiFs → Prop) (empty : holds WasiFs.empty)
    (pass : ∀ w file handle, holds w → holds (w.addPreopen file handle)) {s : WasiFs}
    (built : WasiFs.new host files = .ok s) : holds s :=
  new_invariant_mem holds empty (fun w file handle _ _ => pass w file handle) built

/-- Over directories the loop succeeds. -/
theorem preopenLoop_ok (dirs : ∀ file ∈ files, host.opensDir file) :
    ∀ w : WasiFs, ∃ w', files.foldlM (preopen host) w = .ok w' := by
  induction files with
  | nil => exact fun w => ⟨w, rfl⟩
  | cons file rest ih =>
      intro w
      obtain ⟨handle, -, pass⟩ := preopen_of_opensDir w (dirs file (.head _))
      obtain ⟨w', loop⟩ := ih (fun f mem => dirs f (.tail _ mem)) (w.addPreopen file handle)
      exact ⟨w', by rw [List.foldlM_cons, pass, Outcome.ok_bind, loop]⟩

/-- `new` fails fast. After paths that each open as a directory, the first path that does
not decides the outcome, whatever paths follow it: a path that does not open panics in
`expect("Could not find file")`, one whose metadata cannot be read panics in the
`unwrap`, and one that is not a directory gives the `Err` naming it. -/
theorem new_fails_fast {before after : List String} {bad : String}
    (repo : host.openRepo = .ok ()) (dirs : ∀ file ∈ before, host.opensDir file)
    (refused : host.opensDir bad = false) :
    WasiFs.new host (before ++ bad :: after) =
      match host.openFile bad with
      | none => .panic "Could not find file"
      | some handle =>
          match host.isDir handle with
          | none => .panic "called Result::unwrap() on an Err value"
          | some _ => .err (notDirectoryMessage bad) := by
  obtain ⟨w, loop⟩ := preopenLoop_ok dirs WasiFs.empty
  simp only [WasiFs.new, repo]
  rw [List.foldlM_append, loop, Outcome.ok_bind, List.foldlM_cons, preopen_eq]
  unfold Host.opensDir at refused
  cases opened : host.openFile bad with
  | none => rfl
  | some handle =>
      rw [opened] at refused
      cases isDir : host.isDir handle with
      | none => simp [isDir]
      | some isDir' => cases isDir' <;> simp_all

/-- On a host where a path is a directory exactly when it has 8 bytes, preopening
`"/sandbox"`, then `"/etc/hosts"`, then `"/tmp"` fails naming `"/etc/hosts"`. -/
theorem new_fails_fast_file :
    WasiFs.new ⟨.ok (), fun path => some ⟨path.length⟩, fun file => some (file.id == 8)⟩
      (["/sandbox"] ++ "/etc/hosts" :: ["/tmp"]) = .err (notDirectoryMessage "/etc/hosts") :=
  @new_fails_fast ⟨.ok (), fun path => some ⟨path.length⟩, fun file => some (file.id == 8)⟩
    ["/sandbox"] ["/tmp"] "/etc/hosts" rfl (by decide) (by decide)

/-! ### The state `new` builds while the counter does not wrap -/

/-- The state after preopening the directories `files`, with every descriptor id below
`2 ^ 32`. -/
structure PreopenShape (host : Host) (files : List String) (s : WasiFs) : Prop where
  generations : ∀ entry ∈ s.inodes.items, entry.1 = 0
  generation : s.inodes.generation = 0
  count : s.inodes.items.length = files.length
  records : ∀ j (below : j < files.length), ∃ handle, host.openFile files[j] = some handle ∧
    s.inodes.get ⟨j, 0⟩ = some (preopenRecord files[j] handle)
  fdMap : ∀ k : WasiFd, s.fdMap k =
    if 3 ≤ k.toNat ∧ k.toNat < 3 + files.length then some (preopenFd (k.toNat - 3)) else none
  nextFd : s.nextFd.toNat = 3 + files.length
  nameMap : ∀ path, s.nameMap path = none

namespace PreopenShape

theorem empty : PreopenShape host [] WasiFs.empty where
  generations := by simp [WasiFs.empty, Arena.new]
  generation := rfl
  count := rfl
  records := fun _ below => absurd below (Nat.not_lt_zero _)
  fdMap := fun _ => by rw [if_neg (by simp)]; rfl
  nextFd := rfl
  nameMap := fun _ => rfl

theorem addPreopen {w : WasiFs} {file : String} {handle : HostFile}
    (shape : PreopenShape host files w) (opened : host.openFile file = some handle)
    (fits : files.length + 4 < 2 ^ 32) :
    PreopenShape host (files ++ [file]) (w.addPreopen file handle) where
  generations := by
    intro entry mem
    rw [addPreopen_inodes, Arena.insert_items] at mem
    rcases List.mem_append.mp mem with old | new
    · exact shape.generations entry old
    · simp [List.mem_singleton.mp new, shape.generation]
  generation := shape.generation
  count := by simp [shape.count]
  records := by
    intro j below
    rcases Nat.lt_succ_iff_lt_or_eq.mp (by simpa using below) with old | new
    · obtain ⟨found, opened, get⟩ := shape.records j old
      exact ⟨found, by simpa [List.getElem_append_left old] using opened,
        by simpa [List.getElem_append_left old] using Arena.get_insert_of_get get _⟩
    · subst new
      refine ⟨handle, by simpa using opened, ?_⟩
      simpa [shape.count, shape.generation] using
        Arena.get_insert_self w.inodes (preopenRecord file handle)
  fdMap := by
    intro k
    by_cases hit : k = w.nextFd
    · subst hit
      simp [shape.nextFd, shape.count, shape.generation, preopenFd]
    · have other : k.toNat ≠ 3 + files.length := fun same =>
        hit (UInt32.toNat.inj (same.trans shape.nextFd.symm))
      simp only [addPreopen_fdMap, Function.update_noteq hit, shape.fdMap, List.length_append,
        List.length_singleton]
      congr 1
      apply propext
      omega
  nextFd := by
    rw [show (w.addPreopen file handle).nextFd.toNat = (w.nextFd.toNat + 1) % 2 ^ 32 from
      createFd_nextFd_toNat .., shape.nextFd, List.length_append, List.length_singleton]
    omega
  nameMap := shape.nameMap

variable {s : WasiFs}

/-- The live references are exactly the slots of the preopens, at generation 0. -/
theorem live_iff (shape : PreopenShape host files s) {inode : Inode} :
    s.inodes.Live inode ↔ inode.index < files.length ∧ inode.generation = 0 := by
  constructor
  · rintro ⟨value, found⟩
    unfold Arena.get at found
    rcases slot : s.inodes.items[inode.index]? with _ | ⟨generation, stored⟩ <;>
      simp only [slot] at found
    · cases found
    · split_ifs at found with same
      exact ⟨shape.count ▸ (List.getElem?_eq_some_iff.mp slot).1,
        same ▸ shape.generations _ (List.getElem?_mem slot)⟩
  · rintro ⟨below, zero⟩
    obtain ⟨_, _, found⟩ := shape.records _ below
    exact ⟨_, by rw [← zero] at found; exact found⟩

/-- `prestat_fd` of a preopen descriptor: a directory, with the byte length of its path
cast to `u32`. -/
theorem prestatFd_preopen (shape : PreopenShape host files s) {j : Nat}
    (below : j < files.length) :
    s.prestatFd (3 + j).toUInt32 =
      .ok ⟨wasiPreopentypeDir, files[j].utf8ByteSize.toUInt32⟩ := by
  have small : 3 + j < 2 ^ 32 := by
    have := shape.nextFd ▸ s.nextFd.toNat_lt_size
    simp only [UInt32.size] at this
    omega
  have id : (3 + j).toUInt32.toNat = 3 + j := UInt32.toNat_ofNat_of_lt small
  obtain ⟨handle, _, found⟩ := shape.records j below
  have open_ : s.fdMap (3 + j).toUInt32 = some (preopenFd j) := by
    rw [shape.fdMap, id, if_pos (by omega), Nat.add_sub_cancel_left]
  simp [WasiFs.prestatFd, WasiFs.withDescriptor_of_get open_ found, preopenRecord]

/-- `prestat_fd` of any other id is `__WASI_EBADF`. -/
theorem prestatFd_other (shape : PreopenShape host files s) {k : WasiFd}
    (outside : k.toNat < 3 ∨ 3 + files.length ≤ k.toNat) : s.prestatFd k = .err wasiEbadf := by
  have closed : s.fdMap k = none := by rw [shape.fdMap, if_neg (by omega)]
  exact WasiFs.withDescriptor_of_none closed

end PreopenShape

/-! ### `new` -/

/-- Over directories, and while the counter does not wrap, `new` builds `PreopenShape`. -/
theorem new_shape (repo : host.openRepo = .ok ()) (dirs : ∀ file ∈ files, host.opensDir file)
    (fits : files.length + 3 < 2 ^ 32) :
    ∃ s, WasiFs.new host files = .ok s ∧ PreopenShape host files s := by
  simp only [WasiFs.new, repo]
  induction files using List.reverseRecOn with
  | nil => exact ⟨_, rfl, .empty⟩
  | append_singleton files file ih =>
      obtain ⟨w, loop, shape⟩ :=
        ih (fun f mem => dirs f (by simp [mem])) (by simp at fits; omega)
      obtain ⟨handle, opened, pass⟩ := preopen_of_opensDir w (dirs file (by simp))
      exact ⟨w.addPreopen file handle, by simp [List.foldlM_append, loop, pass],
        shape.addPreopen opened (by simp at fits; omega)⟩

/-- What a POSIX host allows of the paths `new` opens. The preopens hold their files open
together, each in the handle of its `Kind::Dir` record. -/
structure Host.Limits (host : Host) (files : List String) : Prop where
  /-- A path that opens is shorter than `PATH_MAX`, 4096 bytes on Linux. -/
  pathMax : ∀ path handle, host.openFile path = some handle → path.utf8ByteSize < 4096
  /-- There are fewer paths than the `2 ^ 31` files a process can hold open, a file
  descriptor being a non-negative C `int`. -/
  held : files.length < 2 ^ 31

/-- On a host within its limits, `prestat_fd` reports the exact byte length of a path that
opens: it is far below `2 ^ 32`, so the cast to `u32` keeps it. -/
theorem Host.Limits.nameLen {files : List String} (limits : host.Limits files)
    {file : String} (opens : host.Opens file) :
    file.utf8ByteSize.toUInt32.toNat = file.utf8ByteSize :=
  let ⟨handle, _, opened, _⟩ := opens
  UInt32.toNat_ofNat_of_lt (lt_of_lt_of_le (limits.pathMax file handle opened) (by decide))

/-- `WasiFs::new` over host paths that each open, with the repository opening, on a host
within its limits: `Err` naming the first path that is not a directory if there is one;
otherwise one preopened directory record per path, in slots `0 .. n-1`, descriptor
`3 + j` for slot `j` with rights `0x1FFFFFFF` and no other descriptor, `next_fd = 3 + n`,
and `prestat_fd` answering a directory with the path's exact byte length on exactly those
descriptors. -/
theorem new_preopens (repo : host.openRepo = .ok ()) (opens : ∀ file ∈ files, host.Opens file)
    (limits : host.Limits files) :
    ((∃ file ∈ files, host.opensDir file = false) →
      ∃ bad, files.find? (fun file => !host.opensDir file) = some bad ∧
        WasiFs.new host files = .err (notDirectoryMessage bad)) ∧
    ((∀ file ∈ files, host.opensDir file) →
      ∃ s, WasiFs.new host files = .ok s ∧
        (∀ inode, s.inodes.Live inode ↔ inode.index < files.length ∧ inode.generation = 0) ∧
        (∀ j (below : j < files.length), ∃ handle, host.openFile files[j] = some handle ∧
          s.inodes.get ⟨j, 0⟩ = some (preopenRecord files[j] handle)) ∧
        (∀ k : WasiFd, s.fdMap k =
          if 3 ≤ k.toNat ∧ k.toNat < 3 + files.length then some (preopenFd (k.toNat - 3))
          else none) ∧
        s.nextFd.toNat = 3 + files.length ∧
        (∀ j (below : j < files.length), ∃ prestat,
          s.prestatFd (3 + j).toUInt32 = .ok prestat ∧ prestat.prType = wasiPreopentypeDir ∧
            prestat.prNameLen.toNat = files[j].utf8ByteSize) ∧
        (∀ k : WasiFd, k.toNat < 3 ∨ 3 + files.length ≤ k.toNat →
          s.prestatFd k = .err wasiEbadf)) := by
  refine ⟨fun ⟨file, mem, notDir⟩ => ?_, fun dirs => ?_⟩
  · obtain ⟨bad, first⟩ : ∃ bad, files.find? (fun file => !host.opensDir file) = some bad :=
      Option.isSome_iff_exists.mp (List.find?_isSome.mpr ⟨file, mem, by simp [notDir]⟩)
    exact ⟨bad, first, by simp [WasiFs.new, repo, preopenLoop_err opens first]⟩
  · obtain ⟨s, built, shape⟩ := new_shape repo dirs (by have := limits.held; omega)
    exact ⟨s, built, fun _ => shape.live_iff, shape.records, shape.fdMap, shape.nextFd,
      fun _ below => ⟨_, shape.prestatFd_preopen below, rfl,
        limits.nameLen (opens _ (List.getElem_mem below))⟩,
      fun _ outside => shape.prestatFd_other outside⟩

/-- A host on which every path opens as a directory. -/
def dirHost : Host := ⟨.ok (), fun _ => some ⟨0⟩, fun _ => some true⟩

/-- A host on which every path shorter than `PATH_MAX` opens as a directory. -/
def boundedDirHost : Host :=
  ⟨.ok (), fun path => if path.utf8ByteSize < 4096 then some ⟨0⟩ else none,
    fun _ => some true⟩

theorem boundedDirHost_limits {files : List String} (few : files.length < 2 ^ 31) :
    boundedDirHost.Limits files where
  pathMax path _ opened := by
    by_contra long
    simp [boundedDirHost, long] at opened
  held := few

/-- Preopening `"/sandbox"` on a host within its limits gives descriptor 3, a directory
whose name is 8 bytes long. -/
theorem new_preopens_sandbox :
    ∃ s, WasiFs.new boundedDirHost ["/sandbox"] = .ok s ∧ ∃ prestat,
      s.prestatFd 3 = .ok prestat ∧ prestat.prType = wasiPreopentypeDir ∧
        prestat.prNameLen.toNat = 8 :=
  let ⟨s, built, _, _, _, _, prestat, _⟩ :=
    (@new_preopens boundedDirHost ["/sandbox"] rfl
      (List.forall_mem_singleton.mpr ⟨⟨0⟩, true, rfl, rfl⟩)
      (boundedDirHost_limits (by decide))).2 (List.forall_mem_singleton.mpr rfl)
  ⟨s, built, prestat 0 (by decide)⟩

end Wasmer.Wasi
