import Mathlib.Data.String.Basic

/-
Module: Wasmer.Api.Memory
Layer: Model and proofs
Purpose: The length of the view `Memory::view` returns (`lib/api/src/externals/memory.rs`):
  the byte size of the memory, `self.size().bytes().0`, divided by `size_of::<T>()` and
  cast `as u32`. The page arithmetic is `usize`, 64 bits on the host, so the byte count
  of any memory is exact; the cast keeps the length modulo `2 ^ 32`
  (`view_length`), so the view never reaches past the memory (`view_within_memory`).
  Up to the page limit that is the whole length except for a memory of `WASM_MAX_PAGES`
  pages viewed by one-byte elements, whose `2 ^ 32` elements become a view of length 0
  (`view_length_exact_iff`, `view_of_max_memory_is_empty`).
Trusted boundary: `Pages`, `Bytes`, `Pages::bytes` and the page constants of
  `wasmer_types`, and the 64-bit `usize` of the host.
Main exports: Memory.view, view_length, view_length_exact_iff, view_within_memory,
  view_of_max_memory_is_empty.
-/

namespace Wasmer.Api

/-- `WASM_PAGE_SIZE` of `wasmer_types`, a dependency outside the sources: 64 KiB. -/
def wasmPageSize : Nat := 0x10000

/-- `WASM_MAX_PAGES` of `wasmer_types`: the page limit of WebAssembly. -/
def wasmMaxPages : Nat := 0x10000

/-- `Pages` of `wasmer_types`: a `u32` page count. -/
structure Pages where
  val : UInt32

/-- `Bytes` of `wasmer_types`: a byte count in a host `usize`. -/
structure Bytes where
  val : UInt64

/-- `Pages::bytes` of `wasmer_types`: `(pages.0 as usize) * WASM_PAGE_SIZE`. -/
def Pages.bytes (pages : Pages) : Bytes :=
  ⟨pages.val.toUInt64 * wasmPageSize.toUInt64⟩

/-- A `ValueType` of `wasmer_types`, known by `size_of::<T>()`. -/
structure ValueType where
  sizeOf : UInt64

/-- `MemoryView<T>`, known by its length; the base pointer is left out. -/
structure MemoryView where
  length : UInt32
deriving DecidableEq, Repr

/-- `Memory`, known by its current size `self.size()`; the store and the runtime memory
behind it are left out. -/
structure Memory where
  size : Pages

/-- `Memory::view`. The division panics (`none`) on a zero-sized `T`. -/
def Memory.view (memory : Memory) (t : ValueType) : Option MemoryView :=
  if t.sizeOf = 0 then none else some ⟨(memory.size.bytes.val / t.sizeOf).toUInt32⟩

/-- The byte size of a memory is exact in the 64-bit `usize`. -/
theorem Pages.bytes_toNat (pages : Pages) :
    pages.bytes.val.toNat = pages.val.toNat * wasmPageSize := by
  have below : pages.val.toNat < 2 ^ 32 := pages.val.toNat_lt_size
  have widen : pages.val.toUInt64.toNat = pages.val.toNat := rfl
  have page : wasmPageSize.toUInt64.toNat = wasmPageSize := rfl
  rw [Pages.bytes, UInt64.toNat_mul, widen, page, Nat.mod_eq_of_lt]
  show _ < 2 ^ 64
  unfold wasmPageSize
  omega

/-- The view of a memory of `s` pages by elements of `n > 0` bytes has length
`s * 65536 / n` modulo `2 ^ 32`. -/
theorem view_length (memory : Memory) (t : ValueType) (positive : t.sizeOf ≠ 0) :
    ∃ view, memory.view t = some view ∧
      view.length.toNat = memory.size.val.toNat * wasmPageSize / t.sizeOf.toNat % 2 ^ 32 := by
  refine ⟨_, if_neg positive, ?_⟩
  simp [UInt64.toUInt32, Nat.toUInt32, UInt32.toNat, UInt32.ofNat, UInt64.toNat_div,
    Pages.bytes_toNat]

/-- The length of the view up to the page limit: `s * 65536 / n` modulo `2 ^ 32`, which is
the whole of `s * 65536 / n` except at one point, a memory of `WASM_MAX_PAGES` pages viewed
by one-byte elements, whose view has length 0. -/
theorem view_length_exact_iff (memory : Memory) (t : ValueType) (positive : t.sizeOf ≠ 0)
    (limit : memory.size.val.toNat ≤ wasmMaxPages) :
    (∃ view, memory.view t = some view ∧
      view.length.toNat = memory.size.val.toNat * wasmPageSize / t.sizeOf.toNat % 2 ^ 32) ∧
    ((∃ view, memory.view t = some view ∧
      view.length.toNat = memory.size.val.toNat * wasmPageSize / t.sizeOf.toNat) ↔
    ¬(memory.size.val.toNat = wasmMaxPages ∧ t.sizeOf.toNat = 1)) := by
  obtain ⟨view, viewed, length⟩ := view_length memory t positive
  refine ⟨⟨view, viewed, length⟩, ?_⟩
  have nonzero : t.sizeOf.toNat ≠ 0 := fun zero => positive (UInt64.toNat.inj zero)
  simp only [viewed, Option.some.injEq, exists_eq_left', length]
  unfold wasmMaxPages wasmPageSize at *
  rcases Nat.lt_or_ge t.sizeOf.toNat 2 with one | two
  · rw [show t.sizeOf.toNat = 1 by omega, Nat.div_one]
    omega
  · have halved : memory.size.val.toNat * 0x10000 / t.sizeOf.toNat ≤
        memory.size.val.toNat * 0x10000 / 2 := Nat.div_le_div_left two (by decide)
    generalize memory.size.val.toNat * 0x10000 / t.sizeOf.toNat = q at halved ⊢
    omega

/-- A view of one page by four-byte elements has all of its 16384 elements. -/
theorem view_length_exact_one_page :
    ∃ view, Memory.view ⟨⟨1⟩⟩ ⟨4⟩ = some view ∧
      view.length.toNat = 1 * wasmPageSize / 4 :=
  (view_length_exact_iff ⟨⟨1⟩⟩ ⟨4⟩ (by decide) (by decide)).2.2 (by decide)

/-- The view never reaches past the memory: for every memory, of any page count a `u32`
holds, and every element type of positive size, the elements of the view span at most the
bytes of the memory, as the `unsafe` construction of the view needs. The division rounds
down and the cast only ever shortens. -/
theorem view_within_memory (memory : Memory) (t : ValueType) (positive : t.sizeOf ≠ 0) :
    ∃ view, memory.view t = some view ∧
      view.length.toNat * t.sizeOf.toNat ≤ memory.size.val.toNat * wasmPageSize := by
  obtain ⟨view, viewed, length⟩ := view_length memory t positive
  refine ⟨view, viewed, ?_⟩
  calc view.length.toNat * t.sizeOf.toNat
      ≤ memory.size.val.toNat * wasmPageSize / t.sizeOf.toNat * t.sizeOf.toNat :=
        Nat.mul_le_mul_right _ (length ▸ Nat.mod_le _ _)
    _ ≤ memory.size.val.toNat * wasmPageSize := Nat.div_mul_le_self _ _

/-- A memory of 3 pages viewed by 12-byte elements: 16384 elements, 196608 bytes. -/
theorem view_within_memory_three_pages :
    ∃ view, Memory.view ⟨⟨3⟩⟩ ⟨12⟩ = some view ∧
      view.length.toNat * 12 ≤ 3 * wasmPageSize :=
  view_within_memory ⟨⟨3⟩⟩ ⟨12⟩ (by decide)

/-- A memory of `WASM_MAX_PAGES` pages holds `2 ^ 32` bytes, and its view by bytes has
length 0. -/
theorem view_of_max_memory_is_empty :
    (0x10000 : UInt32).toNat = wasmMaxPages ∧
      (0x10000 : UInt32).toNat * wasmPageSize / (1 : UInt64).toNat = 2 ^ 32 ∧
      Memory.view ⟨⟨0x10000⟩⟩ ⟨1⟩ = some ⟨0⟩ := by
  decide

end Wasmer.Api
