import Wasmer.Wasi.Arena

/-
Module: Wasmer.Wasi.State
Layer: Model
Purpose: The filesystem state of `lib/wasi/src/state.rs`: the inode records, the
  descriptor table, and the operations `new`, `get_inode`, `filestat_inode`,
  `filestat_path`, `filestat_fd`, `fdstat`, `prestat_fd`, `flush` and `create_fd`,
  each translated from the source. Operations taking `&mut self` return the state they
  leave; those taking `&self` do not. The three `HashMap`s are functions to `Option`.
  The zbox repository and the host are external: `Host` answers the calls `new` makes,
  and `HostIo` answers the flushes `flush` issues, which `Flushed` records, so that a
  theorem can say which handle was flushed. The `repo` field and the `debug!`/`dbg!`
  logging are left out: no modelled operation reads them.
Trusted boundary: the host answers (`Host`, `HostIo`) are arbitrary.
Main exports: Kind, InodeVal, Fd, WasiFs, WasiFs.new, WasiFs.createFd, WasiFs.flush,
  WasiFs.fdstat, WasiFs.filestatFd, WasiFs.prestatFd, WasiFs.filestatInode,
  WasiFs.filestatPath, and one spec lemma for each.
-/

namespace Wasmer.Wasi

/-- Modelled from the spec: a host `fs::File`, known by its identity. -/
structure HostFile where
  id : Nat
deriving DecidableEq, Repr

/-- Modelled from the spec: a `zbox::File` of the backing repository. -/
structure ZboxFile where
  id : Nat
deriving DecidableEq, Repr

/-- `WasiFile`: the backing stream of a file or directory inode. -/
inductive WasiFile where
  | zboxFile (file : ZboxFile)
  | hostFile (file : HostFile)
deriving DecidableEq, Repr

/-- `Kind`: what an inode is. The entries of a directory are filled lazily. -/
inductive Kind where
  | file (handle : WasiFile)
  | dir (handle : WasiFile) (entries : String → Option Inode)
  | symlink (forwarded : Inode)
  | buffer (buffer : List UInt8)

/-- `InodeVal`: one inode record of the arena. -/
structure InodeVal where
  stat : WasiFilestat
  isPreopened : Bool
  name : String
  kind : Kind

/-- `Fd`: one open descriptor. -/
structure Fd where
  rights : WasiRights
  rightsInheriting : WasiRights
  flags : WasiFdflags
  offset : UInt64
  inode : Inode
deriving DecidableEq, Repr

/-- `WasiFs`, without its `repo`, which no modelled operation reads. -/
structure WasiFs where
  nameMap : String → Option Inode
  inodes : Arena InodeVal
  fdMap : WasiFd → Option Fd
  nextFd : UInt32
  inodeCounter : UInt64

/-- `MAX_SYMLINKS`. -/
def maxSymlinks : Nat := 100

/-- The `fs_filetype` match of `fdstat`. -/
def Kind.filetype : Kind → WasiFiletype
  | .file _ => wasiFiletypeRegularFile
  | .dir _ _ => wasiFiletypeDirectory
  | .symlink _ => wasiFiletypeSymbolicLink
  | _ => wasiFiletypeUnknown

/-- Modelled from the spec: the host as `WasiFs::new` meets it. -/
structure Host where
  /-- `RepoOpener::new().create(true).open("mem://wasmer-test-fs", "")`, its error as
  `e.to_string()`. -/
  openRepo : Except String Unit
  /-- `fs::File::open(path)`; `none` when the open fails. A function of the path: a path
  opened twice gives one `HostFile` where the code holds two handles, which no modelled
  call tells apart; the host's limit on path length is `Host.Limits`. -/
  openFile : String → Option HostFile
  /-- `metadata().unwrap().is_dir()`; `none` when `metadata()` fails. -/
  isDir : HostFile → Option Bool

/-- A flush that `flush` asks of the host. -/
inductive HostFlush where
  | stdout
  | stderr
  | handle (file : WasiFile)
deriving DecidableEq, Repr

/-- Modelled from the spec: the host's answer to each flush, `true` when it succeeds. -/
abbrev HostIo := HostFlush → Bool

/-- What one call of `flush` asked of the host, and what it returned. -/
structure Flushed where
  issued : List HostFlush
  result : Outcome WasiErrno Unit
deriving DecidableEq, Repr

/-- A branch of `flush` that asks nothing of the host. -/
def Flushed.ofOutcome (result : Outcome WasiErrno Unit) : Flushed := ⟨[], result⟩

/-- `.flush().map_err(|_| __WASI_EIO)?` on a host stream. -/
def hostFlush (io : HostIo) (target : HostFlush) : Flushed :=
  ⟨[target], if io target then .ok () else .err wasiEio⟩

/-- The `match &mut inode.kind` of `flush`. -/
def Kind.flush (io : HostIo) : Kind → Flushed
  | .file handle => hostFlush io (.handle handle)
  | .dir _ _ => .ofOutcome (.err wasiEisdir)
  | .symlink _ => .ofOutcome (.panic "not implemented")
  | .buffer _ => .ofOutcome (.ok ())

namespace WasiFs

/-- The `Self { .. }` literal of `new`, before any preopen. -/
def empty : WasiFs where
  nameMap := fun _ => none
  inodes := .new
  fdMap := fun _ => none
  nextFd := 3
  inodeCounter := 1000

/-- `create_fd`: the descriptor takes the next id and the counter steps by one in
32-bit arithmetic. -/
def createFd (s : WasiFs) (rights rightsInheriting : WasiRights) (flags : WasiFdflags)
    (inode : Inode) : Outcome WasiErrno WasiFd × WasiFs :=
  let idx := s.nextFd
  (.ok idx,
    { s with
      nextFd := idx + 1
      fdMap := Function.update s.fdMap idx (some ⟨rights, rightsInheriting, flags, 0, inode⟩) })

/-- The error `new` returns for a path that is not a directory. -/
def notDirectoryMessage (file : String) : String :=
  "WASI only supports pre-opened directories right now; found \"" ++ file ++ "\""

/-- The body of the preopen loop of `new` for one path. The panic texts are the prefixes
of Rust's, which go on with the host's `io::Error`: `expect` appends `": "` and the error,
and `unwrap` appends it to "called `Result::unwrap()` on an `Err` value: ". -/
def preopen (host : Host) (wasiFs : WasiFs) (file : String) : Outcome String WasiFs := do
  let defaultRights : WasiRights := 0x1FFFFFFF
  let curFile ← Outcome.expect "Could not find file" (host.openFile file)
  let isDir ← Outcome.expect "called Result::unwrap() on an Err value" (host.isDir curFile)
  let kind ←
    if isDir then pure (Kind.dir (.hostFile curFile) fun _ => none)
    else Outcome.err (notDirectoryMessage file)
  let inodeVal : InodeVal := ⟨.default, true, file, kind⟩
  let (inode, inodes) := wasiFs.inodes.insert inodeVal
  let (fd, wasiFs) := { wasiFs with inodes }.createFd defaultRights defaultRights 0 inode
  let _ ← Outcome.expectOk "Could not open fd" fd
  pure wasiFs

/-- `WasiFs::new`: open the repository, then preopen each path in order. -/
def new (host : Host) (preopenedFiles : List String) : Outcome String WasiFs :=
  match host.openRepo with
  | .error e => .err e
  | .ok () => preopenedFiles.foldlM (preopen host) empty

/-- `get_inode`: the `name_map` entry of `path`. A vacant entry is left vacant; the
lookup in the backing store after it is commented out in the source. -/
def getInode (s : WasiFs) (path : String) : Option Inode × WasiFs :=
  (s.nameMap path, s)

/-- The `while counter <= MAX_SYMLINKS` loop of `filestat_inode`. The first argument is
`MAX_SYMLINKS + 1 - counter`, the passes the loop has left. -/
def followSymlinks (inodes : Arena InodeVal) : Nat → Inode → Outcome WasiErrno WasiFilestat
  | 0, _ => .err wasiEmlink
  | passes + 1, forwarded => do
      let inodeVal ← inodes.index forwarded
      match inodeVal.kind with
      | .symlink newForwarded => followSymlinks inodes passes newForwarded
      | _ => .ok inodeVal.stat

/-- `filestat_inode`: follow a symlink only when the lookup flags ask for it. -/
def filestatInode (s : WasiFs) (inode : Inode) (flags : WasiLookupflags) :
    Outcome WasiErrno WasiFilestat := do
  let inodeVal ← s.inodes.index inode
  match flags &&& wasiLookupSymlinkFollow != 0, inodeVal.kind with
  | true, .symlink forwarded => followSymlinks s.inodes (maxSymlinks + 1) forwarded
  | _, _ => .ok inodeVal.stat

/-- `filestat_path`; the preopened descriptor is only logged. -/
def filestatPath (s : WasiFs) (_preopenedFd : WasiFd) (flags : WasiLookupflags)
    (path : String) : Outcome WasiErrno WasiFilestat × WasiFs :=
  let (inode, s) := s.getInode path
  (do let inode ← Outcome.okOr wasiEinval inode; s.filestatInode inode flags, s)

/-- The prologue that `filestat_fd`, `fdstat` and `prestat_fd` share:
`let fd = self.fd_map.get(&fd).ok_or(__WASI_EBADF)?`, then `self.inodes[fd.inode]`,
then the member's own `body`. -/
def withDescriptor {α : Type} (s : WasiFs) (fd : WasiFd)
    (body : Fd → InodeVal → Outcome WasiErrno α) : Outcome WasiErrno α := do
  let fd ← Outcome.okOr wasiEbadf (s.fdMap fd)
  let inodeVal ← s.inodes.index fd.inode
  body fd inodeVal

/-- `filestat_fd`: the stat block of the descriptor's inode. -/
def filestatFd (s : WasiFs) (fd : WasiFd) : Outcome WasiErrno WasiFilestat :=
  s.withDescriptor fd fun _ inodeVal => pure inodeVal.stat

/-- `fdstat`. The inheriting rights it reports are read from `fd.rights`, as in the
source. Its `dbg!` of the result, which writes to stderr and panics if that write fails,
is left out. -/
def fdstat (s : WasiFs) (fd : WasiFd) : Outcome WasiErrno WasiFdstat :=
  s.withDescriptor fd fun fd inodeVal =>
    pure ⟨inodeVal.kind.filetype, fd.flags, fd.rights, fd.rights⟩

/-- `prestat_fd`: defined only for a descriptor of a preopened inode. -/
def prestatFd (s : WasiFs) (fd : WasiFd) : Outcome WasiErrno WasiPrestat :=
  s.withDescriptor fd fun _ inodeVal =>
    if inodeVal.isPreopened then
      pure ⟨wasiPreopentypeDir, inodeVal.name.utf8ByteSize.toUInt32⟩
    else .err wasiEbadf

/-- `flush`: ids 0, 1 and 2 are the standard streams; any other id needs the datasync
right. -/
def flush (io : HostIo) (s : WasiFs) (fd : WasiFd) : Flushed × WasiFs :=
  let flushed : Flushed :=
    if fd = 0 then .ofOutcome (.ok ())
    else if fd = 1 then hostFlush io .stdout
    else if fd = 2 then hostFlush io .stderr
    else match s.fdMap fd with
      | none => .ofOutcome (.err wasiEbadf)
      | some fd =>
          if fd.rights &&& wasiRightFdDatasync = 0 then .ofOutcome (.err wasiEacces)
          else match s.inodes.get fd.inode with
            | none => .ofOutcome (.panic Arena.noElement)
            | some inodeVal => inodeVal.kind.flush io
  (flushed, s)

/-! ### Spec lemmas -/

section Spec

variable (s : WasiFs) (rights rightsInheriting : WasiRights) (flags : WasiFdflags)
  (inode : Inode)

@[simp] theorem createFd_fst : (s.createFd rights rightsInheriting flags inode).1 = .ok s.nextFd :=
  rfl

@[simp] theorem createFd_nextFd :
    (s.createFd rights rightsInheriting flags inode).2.nextFd = s.nextFd + 1 := rfl

/-- The counter read as a number steps by one modulo `2 ^ 32`. -/
theorem createFd_nextFd_toNat :
    (s.createFd rights rightsInheriting flags inode).2.nextFd.toNat =
      (s.nextFd.toNat + 1) % 2 ^ 32 := by
  rw [createFd_nextFd, UInt32.toNat_add]
  rfl

@[simp] theorem createFd_fdMap :
    (s.createFd rights rightsInheriting flags inode).2.fdMap =
      Function.update s.fdMap s.nextFd (some ⟨rights, rightsInheriting, flags, 0, inode⟩) := rfl

@[simp] theorem createFd_inodes :
    (s.createFd rights rightsInheriting flags inode).2.inodes = s.inodes := rfl

@[simp] theorem createFd_nameMap :
    (s.createFd rights rightsInheriting flags inode).2.nameMap = s.nameMap := rfl

/-- `flush` writes no field of the state: its only effects are the host flushes. -/
@[simp] theorem flush_snd (io : HostIo) (fd : WasiFd) : (s.flush io fd).2 = s := rfl

/-- `filestat_path` leaves the state as it was: `get_inode` inserts nothing. -/
@[simp] theorem filestatPath_snd (preopenedFd : WasiFd) (lookup : WasiLookupflags)
    (path : String) : (s.filestatPath preopenedFd lookup path).2 = s := rfl

theorem filestatPath_fst (preopenedFd : WasiFd) (lookup : WasiLookupflags) (path : String) :
    (s.filestatPath preopenedFd lookup path).1 =
      (Outcome.okOr wasiEinval (s.nameMap path) >>= fun inode => s.filestatInode inode lookup) :=
  rfl

end Spec

section Descriptor

variable {α : Type} {s : WasiFs} {fd : WasiFd} {body : Fd → InodeVal → Outcome WasiErrno α}

theorem withDescriptor_of_none (missing : s.fdMap fd = none) :
    s.withDescriptor fd body = .err wasiEbadf := by
  simp [withDescriptor, missing]

theorem withDescriptor_of_get {descriptor : Fd} {inodeVal : InodeVal}
    (open_ : s.fdMap fd = some descriptor) (found : s.inodes.get descriptor.inode = some inodeVal) :
    s.withDescriptor fd body = body descriptor inodeVal := by
  simp [withDescriptor, open_, Arena.index_of_get found]

end Descriptor

section Flush

variable {s : WasiFs} {io : HostIo} {fd : WasiFd}

/-- An id below 3 is a standard stream. -/
theorem stdio_cases (below : ¬ 3 ≤ fd) : fd = 0 ∨ fd = 1 ∨ fd = 2 := by
  have small : fd.toNat < 3 := UInt32.toNat_lt_of_lt (by decide) (UInt32.not_le.mp below)
  rcases (by omega : fd.toNat = 0 ∨ fd.toNat = 1 ∨ fd.toNat = 2) with id | id | id
  · exact .inl (UInt32.toNat.inj id)
  · exact .inr (.inl (UInt32.toNat.inj id))
  · exact .inr (.inr (UInt32.toNat.inj id))

/-- `flush` of a standard stream reads nothing of the state. -/
theorem flush_stdio (stdio : fd = 0 ∨ fd = 1 ∨ fd = 2) (other : WasiFs) :
    (s.flush io fd).1 = (other.flush io fd).1 := by
  rcases stdio with rfl | rfl | rfl <;> rfl

/-- `flush` of an id other than 0, 1 and 2 takes the descriptor branch. -/
theorem flush_descriptor (above : 3 ≤ fd) :
    (s.flush io fd).1 =
      match s.fdMap fd with
      | none => .ofOutcome (.err wasiEbadf)
      | some descriptor =>
          if descriptor.rights &&& wasiRightFdDatasync = 0 then .ofOutcome (.err wasiEacces)
          else match s.inodes.get descriptor.inode with
            | none => .ofOutcome (.panic Arena.noElement)
            | some inodeVal => inodeVal.kind.flush io := by
  have zero : fd ≠ 0 := by rintro rfl; exact absurd above (by decide)
  have one : fd ≠ 1 := by rintro rfl; exact absurd above (by decide)
  have two : fd ≠ 2 := by rintro rfl; exact absurd above (by decide)
  simp [flush, zero, one, two]

theorem flush_of_none (above : 3 ≤ fd) (missing : s.fdMap fd = none) :
    (s.flush io fd).1 = ⟨[], .err wasiEbadf⟩ := by
  rw [flush_descriptor above, missing]; rfl

theorem flush_of_no_datasync {descriptor : Fd} (above : 3 ≤ fd)
    (open_ : s.fdMap fd = some descriptor)
    (clear : descriptor.rights &&& wasiRightFdDatasync = 0) :
    (s.flush io fd).1 = ⟨[], .err wasiEacces⟩ := by
  rw [flush_descriptor above, open_]; simp [clear]; rfl

theorem flush_of_get {descriptor : Fd} {inodeVal : InodeVal} (above : 3 ≤ fd)
    (open_ : s.fdMap fd = some descriptor)
    (datasync : descriptor.rights &&& wasiRightFdDatasync ≠ 0)
    (found : s.inodes.get descriptor.inode = some inodeVal) :
    (s.flush io fd).1 = inodeVal.kind.flush io := by
  rw [flush_descriptor above, open_]; simp [datasync, found]

end Flush

end WasiFs

end Wasmer.Wasi
