import Wasmer.Wasi.State

/-
Module: Wasmer.Wasi.Symlink
Layer: Proofs
Purpose: What `filestat_inode` computes on every arena whose symlink targets are live.
  `SymlinkChain inodes i n j` says that `n` symlinks lead from `i` to `j`. The loop
  `while counter <= MAX_SYMLINKS` examines the targets of the first `MAX_SYMLINKS + 1`
  symlinks, so with the flag set the call returns the stat of the first non-symlink when
  at most `MAX_SYMLINKS + 1 = 101` symlinks lead to it (`followSymlinks_of_chain`), and
  `__WASI_EMLINK` when `MAX_SYMLINKS + 2` symlinks follow each other
  (`followSymlinks_of_links`), which every cycle provides (`filestatInode_of_cycle`).
  With live targets the loop never panics (`followSymlinks_not_panic`), and every call
  ends in one of these cases (`filestatInode_follow_cases`). The ladder of 101 symlinks
  at the end is the input where the loop accepts one symlink more than `MAX_SYMLINKS`.
Trusted boundary: none
Main exports: SymlinkChain, SymlinksLive, followSymlinks_of_chain,
  followSymlinks_of_links, followSymlinks_not_panic, filestatInode_of_chain,
  filestatInode_of_links, filestatInode_follow_cases, filestatInode_of_cycle,
  filestatInode_accepts_101_symlinks.
-/

namespace Wasmer.Wasi

open WasiFs

/-- The kind is a symlink. -/
def Kind.isSymlink : Kind → Bool
  | .symlink _ => true
  | _ => false

/-- Following `hops` symlinks from `first` leads to `last`; every inode passed on the
way is a live symlink. -/
inductive SymlinkChain (inodes : Arena InodeVal) : Inode → Nat → Inode → Prop where
  | refl (inode : Inode) : SymlinkChain inodes inode 0 inode
  | hop {first forwarded last : Inode} {hops : Nat} {inodeVal : InodeVal}
      (found : inodes.get first = some inodeVal) (link : inodeVal.kind = .symlink forwarded)
      (rest : SymlinkChain inodes forwarded hops last) :
      SymlinkChain inodes first (hops + 1) last

/-- Every symlink of the arena forwards to a live inode. -/
def SymlinksLive (inodes : Arena InodeVal) : Prop :=
  ∀ inode inodeVal forwarded, inodes.get inode = some inodeVal →
    inodeVal.kind = .symlink forwarded → inodes.Live forwarded

variable {inodes : Arena InodeVal}

/-! ### The loop -/

/-- A chain of fewer symlinks than the loop has passes ends at the stat of its last
inode. -/
theorem followSymlinks_of_chain {first last : Inode} {hops : Nat} {inodeVal : InodeVal}
    (chain : SymlinkChain inodes first hops last) (found : inodes.get last = some inodeVal)
    (stop : inodeVal.kind.isSymlink = false) :
    ∀ passes, hops < passes → followSymlinks inodes passes first = .ok inodeVal.stat := by
  induction chain with
  | refl =>
      intro passes within
      obtain ⟨passes, rfl⟩ : ∃ rest, passes = rest + 1 := ⟨passes - 1, by omega⟩
      cases kind : inodeVal.kind <;>
        simp_all [followSymlinks, Arena.index_of_get found, Kind.isSymlink]
  | hop found' link _ ih =>
      intro passes within
      obtain ⟨passes, rfl⟩ : ∃ rest, passes = rest + 1 := ⟨passes - 1, by omega⟩
      simp [followSymlinks, Arena.index_of_get found', link, ih found passes (by omega)]

/-- As many symlinks in a row as the loop has passes exhaust it. -/
theorem followSymlinks_of_links {first last : Inode} {passes : Nat}
    (chain : SymlinkChain inodes first passes last) :
    followSymlinks inodes passes first = .err wasiEmlink := by
  induction chain with
  | refl => rfl
  | hop found link _ ih => simp [followSymlinks, Arena.index_of_get found, link, ih]

/-- With live targets no pass of the loop reads a stale reference. -/
theorem followSymlinks_not_panic (links : SymlinksLive inodes) :
    ∀ (passes : Nat) (forwarded : Inode), inodes.Live forwarded →
      ¬ (followSymlinks inodes passes forwarded).IsPanic
  | 0, _, _ => id
  | passes + 1, forwarded, ⟨inodeVal, found⟩ => by
      cases kind : inodeVal.kind with
      | symlink next =>
          simpa [followSymlinks, Arena.index_of_get found, kind] using
            followSymlinks_not_panic links passes next (links _ _ _ found kind)
      | _ => simp [followSymlinks, Arena.index_of_get found, kind]

/-- From a live inode, with live targets, `passes` steps along the symlinks either reach a
non-symlink in fewer than `passes` hops or take `passes` hops. -/
theorem SymlinkChain.dichotomy (links : SymlinksLive inodes) :
    ∀ (passes : Nat) (first : Inode), inodes.Live first →
      (∃ hops last lastVal, hops < passes ∧ SymlinkChain inodes first hops last ∧
        inodes.get last = some lastVal ∧ lastVal.kind.isSymlink = false) ∨
      ∃ last, SymlinkChain inodes first passes last
  | 0, first, _ => .inr ⟨first, .refl first⟩
  | passes + 1, first, ⟨inodeVal, found⟩ => by
      cases kind : inodeVal.kind with
      | symlink next =>
          rcases dichotomy links passes next (links _ _ _ found kind) with
            ⟨hops, last, lastVal, within, chain, found', stop⟩ | ⟨last, chain⟩
          · exact .inl ⟨hops + 1, last, lastVal, by omega, .hop found kind chain, found', stop⟩
          · exact .inr ⟨last, .hop found kind chain⟩
      | _ =>
          exact .inl ⟨0, first, inodeVal, by omega, .refl first, found,
            by simp [kind, Kind.isSymlink]⟩

/-- Two chains, one after the other. -/
theorem SymlinkChain.append {first middle last : Inode} {m n : Nat}
    (front : SymlinkChain inodes first m middle) (back : SymlinkChain inodes middle n last) :
    SymlinkChain inodes first (n + m) last := by
  induction front with
  | refl => exact back
  | hop found link _ ih => exact .hop found link (ih back)

/-- The first `m` hops of a longer chain. -/
theorem SymlinkChain.take {last : Inode} {n : Nat} :
    ∀ (m : Nat) {first : Inode}, SymlinkChain inodes first (n + m) last →
      ∃ middle, SymlinkChain inodes first m middle
  | 0, first, _ => ⟨first, .refl first⟩
  | m + 1, _, .hop found link rest =>
      let ⟨middle, front⟩ := take m rest
      ⟨middle, .hop found link front⟩

/-- Going round a cycle `r` times. -/
theorem SymlinkChain.repeat {entry : Inode} {k : Nat}
    (cycle : SymlinkChain inodes entry k entry) : ∀ r, SymlinkChain inodes entry (k * r) entry
  | 0 => .refl entry
  | r + 1 => cycle.append (SymlinkChain.repeat cycle r)

/-! ### `filestat_inode` -/

variable {s : WasiFs} {inode : Inode} {inodeVal : InodeVal} {flags : WasiLookupflags}

/-- With live symlink targets, `filestat_inode` of a live inode never panics. -/
theorem filestatInode_not_panic (links : SymlinksLive s.inodes) (live : s.inodes.Live inode) :
    ¬ (s.filestatInode inode flags).IsPanic := by
  obtain ⟨inodeVal, found⟩ := live
  cases kind : inodeVal.kind with
  | symlink forwarded =>
      cases follow : flags &&& wasiLookupSymlinkFollow != 0 <;>
        simp [filestatInode, Arena.index_of_get found, kind, follow,
          followSymlinks_not_panic links _ _ (links _ _ _ found kind)]
  | _ => simp [filestatInode, Arena.index_of_get found, kind]

/-- Without the follow flag, or on an inode that is not a symlink, the stat of the inode
itself. -/
theorem filestatInode_of_not_follow (found : s.inodes.get inode = some inodeVal)
    (direct : flags &&& wasiLookupSymlinkFollow = 0 ∨ inodeVal.kind.isSymlink = false) :
    s.filestatInode inode flags = .ok inodeVal.stat := by
  rcases direct with clear | plain
  · simp [filestatInode, Arena.index_of_get found, clear]
  · cases kind : inodeVal.kind <;>
      simp_all [filestatInode, Arena.index_of_get found, Kind.isSymlink]

/-- Following: the stat of the first non-symlink when at most `MAX_SYMLINKS + 1`
symlinks lead to it. -/
theorem filestatInode_of_chain {hops : Nat} {last : Inode} {lastVal : InodeVal}
    (follow : flags &&& wasiLookupSymlinkFollow ≠ 0)
    (chain : SymlinkChain s.inodes inode hops last) (found : s.inodes.get last = some lastVal)
    (stop : lastVal.kind.isSymlink = false) (within : hops ≤ maxSymlinks + 1) :
    s.filestatInode inode flags = .ok lastVal.stat := by
  cases chain with
  | refl => exact filestatInode_of_not_follow found (.inr stop)
  | hop found' link rest =>
      simpa [filestatInode, Arena.index_of_get found', link, bne_iff_ne.mpr follow] using
        followSymlinks_of_chain rest found stop (maxSymlinks + 1) (by omega)

/-- Following: `__WASI_EMLINK` once `MAX_SYMLINKS + 2` symlinks follow each other. -/
theorem filestatInode_of_links {last : Inode}
    (follow : flags &&& wasiLookupSymlinkFollow ≠ 0)
    (chain : SymlinkChain s.inodes inode (maxSymlinks + 2) last) :
    s.filestatInode inode flags = .err wasiEmlink := by
  cases chain with
  | hop found link rest =>
      simpa [filestatInode, Arena.index_of_get found, link, bne_iff_ne.mpr follow] using
        followSymlinks_of_links rest

/-- Every call of `filestat_inode` on a live inode of an arena with live symlink targets
ends without a panic in one of three ways: the stat of the inode itself without the follow
flag or on a non-symlink; with the flag, the stat of the first non-symlink that at most
`MAX_SYMLINKS + 1` symlinks lead to; or `__WASI_EMLINK` after `MAX_SYMLINKS + 2` symlinks
in a row. `filestat_path` looks the path up in the name map and leaves the state as it
was. -/
theorem filestatInode_follow_cases (links : SymlinksLive s.inodes)
    (found : s.inodes.get inode = some inodeVal) :
    ((flags &&& wasiLookupSymlinkFollow = 0 ∨ inodeVal.kind.isSymlink = false) →
      s.filestatInode inode flags = .ok inodeVal.stat) ∧
    (flags &&& wasiLookupSymlinkFollow ≠ 0 →
      (∃ hops last lastVal, hops ≤ maxSymlinks + 1 ∧ SymlinkChain s.inodes inode hops last ∧
        s.inodes.get last = some lastVal ∧ lastVal.kind.isSymlink = false ∧
        s.filestatInode inode flags = .ok lastVal.stat) ∨
      ∃ last, SymlinkChain s.inodes inode (maxSymlinks + 2) last ∧
        s.filestatInode inode flags = .err wasiEmlink) ∧
    ∀ (preopenedFd : WasiFd) (path : String),
      (s.filestatPath preopenedFd flags path).2 = s ∧
      (s.filestatPath preopenedFd flags path).1 =
        match s.nameMap path with
        | some inode => s.filestatInode inode flags
        | none => .err wasiEinval := by
  refine ⟨filestatInode_of_not_follow found, fun follow => ?_, fun preopenedFd path =>
    ⟨rfl, by rw [filestatPath_fst]; cases s.nameMap path <;> rfl⟩⟩
  cases kind : inodeVal.kind with
  | symlink forwarded =>
      rcases SymlinkChain.dichotomy links (maxSymlinks + 1) forwarded (links _ _ _ found kind) with
        ⟨hops, last, lastVal, within, chain, found', stop⟩ | ⟨last, chain⟩
      · exact .inl ⟨hops + 1, last, lastVal, by omega, .hop found kind chain, found', stop,
          filestatInode_of_chain follow (.hop found kind chain) found' stop (by omega)⟩
      · exact .inr ⟨last, .hop found kind chain,
          filestatInode_of_links follow (.hop found kind chain)⟩
  | _ =>
      have stop : inodeVal.kind.isSymlink = false := by simp [kind, Kind.isSymlink]
      exact .inl ⟨0, inode, inodeVal, by omega, .refl inode, found, stop,
        filestatInode_of_not_follow found (.inr stop)⟩

/-- Following symlinks into a cycle, `filestat_inode` returns `__WASI_EMLINK`: the loop
ends after `MAX_SYMLINKS + 2` symlinks, however the chain enters the cycle and however
long the cycle is. -/
theorem filestatInode_of_cycle {entry : Inode} {m k : Nat}
    (follow : flags &&& wasiLookupSymlinkFollow ≠ 0)
    (lead : SymlinkChain s.inodes inode m entry)
    (cycle : SymlinkChain s.inodes entry (k + 1) entry) :
    s.filestatInode inode flags = .err wasiEmlink := by
  have long : SymlinkChain s.inodes inode ((k + 1) * (maxSymlinks + 2) + m) entry :=
    lead.append (cycle.repeat (maxSymlinks + 2))
  have split : (k + 1) * (maxSymlinks + 2) + m =
      (k * (maxSymlinks + 2) + m) + (maxSymlinks + 2) := by
    rw [Nat.succ_mul]
    omega
  obtain ⟨_, front⟩ := SymlinkChain.take (maxSymlinks + 2) (split ▸ long)
  exact filestatInode_of_links follow front

/-- The self-cycle: an inode that is a symlink to itself. -/
theorem filestatInode_of_cycle_self :
    { WasiFs.empty with
        inodes := ⟨[(0, ⟨.default, false, "self", .symlink ⟨0, 0⟩⟩)], 0⟩ }.filestatInode
      ⟨0, 0⟩ wasiLookupSymlinkFollow = .err wasiEmlink :=
  filestatInode_of_cycle (by decide) (.refl _) (.hop rfl rfl (.refl _))

/-! ### One symlink more than `MAX_SYMLINKS` -/

/-- A symlink of the ladder. -/
def ladderLink (forwarded : Inode) : InodeVal := ⟨.default, false, "link", .symlink forwarded⟩

/-- The non-symlink at the foot of the ladder, told apart by its inode number. -/
def ladderFoot : InodeVal :=
  ⟨{ WasiFilestat.default with stIno := 1 }, false, "foot", .buffer []⟩

/-- Slot 0 holds the foot and slot `k + 1` a symlink to slot `k`, for `k < rungs`: the
arena that inserting the foot, then each symlink after its target, builds. -/
def ladder (rungs : Nat) : Arena InodeVal :=
  ⟨(0, ladderFoot) :: (List.range rungs).map fun k => (0, ladderLink ⟨k, 0⟩), 0⟩

theorem ladder_get_foot (rungs : Nat) : (ladder rungs).get ⟨0, 0⟩ = some ladderFoot := by
  simp [ladder, Arena.get]

theorem ladder_get_link {rungs k : Nat} (below : k < rungs) :
    (ladder rungs).get ⟨k + 1, 0⟩ = some (ladderLink ⟨k, 0⟩) := by
  simp [ladder, Arena.get, List.getElem?_range below]

theorem ladder_chain {rungs : Nat} :
    ∀ k, k ≤ rungs → SymlinkChain (ladder rungs) ⟨k, 0⟩ k ⟨0, 0⟩
  | 0, _ => .refl _
  | k + 1, within => .hop (ladder_get_link within) rfl (ladder_chain k (by omega))

theorem ladder_live {rungs : Nat} : ∀ {k}, k ≤ rungs → (ladder rungs).Live ⟨k, 0⟩
  | 0, _ => Arena.live_of_get (ladder_get_foot rungs)
  | _ + 1, within => Arena.live_of_get (ladder_get_link within)

theorem ladder_symlinksLive (rungs : Nat) : SymlinksLive (ladder rungs) := by
  rintro ⟨_ | k, generation⟩ inodeVal forwarded found link
  · obtain ⟨-, rfl⟩ : 0 = generation ∧ ladderFoot = inodeVal := by
      simpa [ladder, Arena.get] using found
    simp [ladderFoot] at link
  · by_cases below : k < rungs
    · obtain ⟨-, rfl⟩ : 0 = generation ∧ ladderLink ⟨k, 0⟩ = inodeVal := by
        simpa [ladder, Arena.get, List.getElem?_range below] using found
      simp only [ladderLink, Kind.symlink.injEq] at link
      exact link ▸ ladder_live (by omega)
    · have beyond : (List.range rungs)[k]? = none :=
        List.getElem?_eq_none (by simpa using below)
      simp [ladder, Arena.get, beyond] at found

/-- The ladder of 101 symlinks: its targets are live, 101 symlinks lead from its top to
its foot, and following them yields the stat of the foot instead of `__WASI_EMLINK`. -/
theorem filestatInode_accepts_101_symlinks :
    SymlinksLive (ladder 101) ∧
      SymlinkChain (ladder 101) ⟨101, 0⟩ (maxSymlinks + 1) ⟨0, 0⟩ ∧
      { WasiFs.empty with inodes := ladder 101 }.filestatInode ⟨101, 0⟩
        wasiLookupSymlinkFollow = .ok ladderFoot.stat :=
  ⟨ladder_symlinksLive 101, ladder_chain 101 le_rfl,
    filestatInode_of_chain (by decide) (ladder_chain 101 le_rfl) (ladder_get_foot 101) rfl le_rfl⟩

/-- On the ladder of two symlinks, without the follow flag, `filestat_inode` of the top
is the stat of the top itself. -/
theorem filestatInode_follow_cases_ladder :
    { WasiFs.empty with inodes := ladder 2 }.filestatInode ⟨2, 0⟩ 0 =
      .ok (ladderLink ⟨1, 0⟩).stat :=
  (@filestatInode_follow_cases { WasiFs.empty with inodes := ladder 2 } ⟨2, 0⟩ _ 0
    (ladder_symlinksLive 2) (ladder_get_link (by decide))).1 (.inl rfl)

end Wasmer.Wasi
