import Wasmer.Wasi.Types

/-
Module: Wasmer.Wasi.Arena
Layer: Model
Purpose: The generational arena that owns every inode record (`inodes: Arena<InodeVal>`,
  with `generational_arena::Index` imported as `Inode`). The crate is a dependency; it
  is modelled from the spec (§4.2, §9): a reference is a slot and the
  generation it was issued at, and a lookup succeeds only when the slot is occupied at
  that generation. `state.rs` never removes an inode, so the model has no `remove`, and
  the crate's free list, which without removals hands out the slots in order, is the
  end of `items`. `self.inodes[i]` panics on a stale reference, as the crate's `Index`
  does.
Trusted boundary: the arena contract of spec §4.2.
Main exports: Inode, Arena, Arena.insert, Arena.get, Arena.index, Arena.Live,
  Arena.Extends, get_insert_of_get.
-/

namespace Wasmer.Wasi

/-- Modelled from the spec: `generational_arena::Index`, which `state.rs` calls `Inode`:
a slot and the generation at which it was issued. -/
structure Inode where
  index : Nat
  generation : Nat
deriving DecidableEq, Repr

/-- Modelled from the spec: `generational_arena::Arena` of a store with no removals. -/
structure Arena (α : Type) where
  /-- The occupied slots in order, each with the generation it was filled at. -/
  items : List (Nat × α)
  /-- The generation given to the slot filled next. -/
  generation : Nat

namespace Arena

variable {α ε : Type}

/-- Modelled from the spec: `Arena::new()`. -/
def new : Arena α := ⟨[], 0⟩

/-- Modelled from the spec: `Arena::insert`, which fills the next slot. -/
def insert (arena : Arena α) (value : α) : Inode × Arena α :=
  (⟨arena.items.length, arena.generation⟩,
    { arena with items := arena.items ++ [(arena.generation, value)] })

/-- Modelled from the spec: `Arena::get`, which rejects a reference whose generation is
not the slot's. -/
def get (arena : Arena α) (inode : Inode) : Option α :=
  match arena.items[inode.index]? with
  | some (generation, value) => if generation = inode.generation then some value else none
  | none => none

/-- Modelled from the spec: the message of the panic of a stale `self.inodes[inode]`. -/
def noElement : String := "No element at index"

/-- Modelled from the spec: `self.inodes[inode]`, which panics on a stale reference. -/
def index (arena : Arena α) (inode : Inode) : Outcome ε α :=
  Outcome.expect noElement (arena.get inode)

/-- A reference the arena resolves: its slot is occupied at its generation. -/
def Live (arena : Arena α) (inode : Inode) : Prop :=
  ∃ value, arena.get inode = some value

instance (arena : Arena α) (inode : Inode) : Decidable (arena.Live inode) :=
  decidable_of_iff ((arena.get inode).isSome = true) Option.isSome_iff_exists

theorem index_of_get {arena : Arena α} {inode : Inode} {value : α}
    (found : arena.get inode = some value) :
    (arena.index inode : Outcome ε α) = .ok value := by
  simp [index, found]

theorem live_of_get {arena : Arena α} {inode : Inode} {value : α}
    (found : arena.get inode = some value) : arena.Live inode :=
  ⟨value, found⟩

@[simp] theorem new_get (inode : Inode) : (new : Arena α).get inode = none := rfl

@[simp] theorem insert_fst (arena : Arena α) (value : α) :
    (arena.insert value).1 = ⟨arena.items.length, arena.generation⟩ := rfl

@[simp] theorem insert_items (arena : Arena α) (value : α) :
    (arena.insert value).2.items = arena.items ++ [(arena.generation, value)] := rfl

@[simp] theorem insert_generation (arena : Arena α) (value : α) :
    (arena.insert value).2.generation = arena.generation := rfl

/-- The reference `insert` returns resolves to the inserted record. -/
@[simp] theorem get_insert_self (arena : Arena α) (value : α) :
    (arena.insert value).2.get (arena.insert value).1 = some value := by
  simp [get]

/-- Inserting keeps every live reference denoting the record it denoted. -/
theorem get_insert_of_get {arena : Arena α} {inode : Inode} {old : α}
    (found : arena.get inode = some old) (value : α) :
    (arena.insert value).2.get inode = some old := by
  unfold get at found ⊢
  cases slot : arena.items[inode.index]? with
  | none => simp [slot] at found
  | some entry =>
      have bound : inode.index < arena.items.length := by
        simpa using (List.getElem?_eq_some_iff.mp slot).1
      simpa [List.getElem?_append_left bound, slot] using found

/-- A reference resolving after an insertion resolved before, or is the new one. -/
theorem get_insert {arena : Arena α} {value found : α} {inode : Inode}
    (hit : (arena.insert value).2.get inode = some found) :
    arena.get inode = some found ∨ (inode = (arena.insert value).1 ∧ found = value) := by
  obtain ⟨index, generation⟩ := inode
  unfold get at hit ⊢
  simp only [insert_items] at hit
  rcases Nat.lt_trichotomy index arena.items.length with below | last | above
  · exact .inl (by rwa [List.getElem?_append_left below] at hit)
  · subst last
    rw [List.getElem?_append_right le_rfl, Nat.sub_self] at hit
    by_cases same : arena.generation = generation <;> simp_all
  · rw [List.getElem?_eq_none (by simp; omega)] at hit
    cases hit

/-- `after` keeps every record of `before` at its reference: the arena only grows. -/
def Extends (before after : Arena α) : Prop :=
  ∀ inode value, before.get inode = some value → after.get inode = some value

namespace Extends

theorem refl (arena : Arena α) : Extends arena arena := fun _ _ => id

theorem trans {a b c : Arena α} (ab : Extends a b) (bc : Extends b c) : Extends a c :=
  fun inode value found => bc inode value (ab inode value found)

theorem insert (arena : Arena α) (value : α) : Extends arena (arena.insert value).2 :=
  fun _ _ found => get_insert_of_get found value

theorem live {a b : Arena α} (ab : Extends a b) {inode : Inode} (live : a.Live inode) :
    b.Live inode :=
  let ⟨value, found⟩ := live
  ⟨value, ab inode value found⟩

end Extends

end Arena

end Wasmer.Wasi
