import Mathlib.Data.String.Basic
import Mathlib.Logic.Function.Basic

/-
Module: Wasmer.Wasi.Types
Layer: Model
Purpose: The WASI ABI data that `lib/wasi/src/state.rs` reads and returns, and the
  outcome type of its calls. The declarations come from `crate::syscalls::types`, outside
  `state.rs`: each is modelled from the spec (§6) with the WASI values.
  A Rust call ends in a value, a returned `Err`, or a panic (`unimplemented!`, a failed
  `expect`, an arena index with no element); `Outcome` keeps the three apart, so that a
  theorem can say that a call never panics.
Trusted boundary: the numeric values of the WASI constants.
Main exports: Outcome, WasiFilestat, WasiFdstat, WasiPrestat and the WASI constants.
-/

namespace Wasmer.Wasi

/-- How a call of the Rust code ends: `Ok`, `Err`, or a panic with its message. -/
inductive Outcome (ε α : Type) where
  | ok (value : α)
  | err (error : ε)
  | panic (message : String)
deriving DecidableEq, Repr

namespace Outcome

variable {ε α β : Type}

/-- Rust's `?` on a `Result`, with a panic passed through. -/
def bind : Outcome ε α → (α → Outcome ε β) → Outcome ε β
  | ok value, next => next value
  | err error, _ => err error
  | panic message, _ => panic message

instance : Monad (Outcome ε) where
  pure := ok
  bind := bind

instance : LawfulMonad (Outcome ε) :=
  LawfulMonad.mk' (Outcome ε)
    (fun outcome => by cases outcome <;> rfl)
    (fun _ _ => rfl)
    (fun outcome _ _ => by cases outcome <;> rfl)

@[simp] theorem pure_eq (a : α) : (pure a : Outcome ε α) = ok a := rfl

@[simp] theorem ok_bind (a : α) (next : α → Outcome ε β) :
    (ok a >>= next) = next a := rfl

@[simp] theorem err_bind (e : ε) (next : α → Outcome ε β) :
    (err e >>= next) = err e := rfl

@[simp] theorem panic_bind (message : String) (next : α → Outcome ε β) :
    (panic message >>= next) = panic message := rfl

/-- Rust's `Option::ok_or(error)?`. -/
def okOr (error : ε) : Option α → Outcome ε α
  | some value => ok value
  | none => err error

/-- Rust's `Option::expect(message)`: a missing value panics. -/
def expect (message : String) : Option α → Outcome ε α
  | some value => ok value
  | none => panic message

/-- Rust's `Result::expect(message)`: an `Err` panics. -/
def expectOk {ε' : Type} (message : String) : Outcome ε α → Outcome ε' α
  | ok value => ok value
  | err _ => panic message
  | panic inner => panic inner

@[simp] theorem okOr_some (error : ε) (a : α) : okOr error (some a) = ok a := rfl
@[simp] theorem okOr_none (error : ε) : okOr error (none : Option α) = err error := rfl
@[simp] theorem expect_some (message : String) (a : α) :
    (expect message (some a) : Outcome ε α) = ok a := rfl
@[simp] theorem expect_none (message : String) :
    (expect message none : Outcome ε α) = panic message := rfl

/-- An invariant of the accumulator of a fallible `for` loop, kept by each pass over an
item of the loop, holds after the loop. -/
theorem foldlM_invariant_mem {γ : Type} {step : α → γ → Outcome ε α}
    (holds : α → Prop) :
    ∀ items : List γ,
      (∀ acc item acc', item ∈ items → step acc item = ok acc' → holds acc →
        holds acc') →
      ∀ acc acc' : α, holds acc → items.foldlM step acc = ok acc' → holds acc'
  | [], _, _, _, start, done => by cases done; exact start
  | item :: items, preserved, acc, acc', start, done => by
      rw [List.foldlM_cons] at done
      cases first : step acc item <;> rw [first] at done <;> try cases done
      exact foldlM_invariant_mem holds items
        (fun a i a' mem => preserved a i a' (.tail _ mem)) _ _
        (preserved _ _ _ (.head _) first start) done

/-- The call panicked. -/
def IsPanic : Outcome ε α → Prop
  | panic _ => True
  | _ => False

@[simp] theorem expectOk_ok {ε' : Type} (message : String) (a : α) :
    (expectOk message (ok a : Outcome ε α) : Outcome ε' α) = ok a := rfl

@[simp] theorem not_isPanic_ok (a : α) : ¬ (ok a : Outcome ε α).IsPanic := id
@[simp] theorem not_isPanic_err (e : ε) : ¬ (err e : Outcome ε α).IsPanic := id

end Outcome

/-! ### WASI scalar types -/

/-- Modelled from the spec: `__wasi_rights_t`, a 64-bit rights mask. -/
abbrev WasiRights := UInt64
/-- Modelled from the spec: `__wasi_fd_t`, a descriptor number. -/
abbrev WasiFd := UInt32
/-- Modelled from the spec: `__wasi_fdflags_t`. -/
abbrev WasiFdflags := UInt16
/-- Modelled from the spec: `__wasi_lookupflags_t`. -/
abbrev WasiLookupflags := UInt32
/-- Modelled from the spec: `__wasi_errno_t`. -/
abbrev WasiErrno := UInt16
/-- Modelled from the spec: `__wasi_filetype_t`. -/
abbrev WasiFiletype := UInt8
/-- Modelled from the spec: `__wasi_preopentype_t`. -/
abbrev WasiPreopentype := UInt8

/-- Modelled from the spec: `__WASI_RIGHT_FD_DATASYNC`, bit 0 of the rights. -/
def wasiRightFdDatasync : WasiRights := 0x1
/-- Modelled from the spec: `__WASI_LOOKUP_SYMLINK_FOLLOW`, bit 0 of the lookup flags. -/
def wasiLookupSymlinkFollow : WasiLookupflags := 0x1
/-- Modelled from the spec: `__WASI_PREOPENTYPE_DIR`. -/
def wasiPreopentypeDir : WasiPreopentype := 0

/-- Modelled from the spec: `__WASI_FILETYPE_UNKNOWN`. -/
def wasiFiletypeUnknown : WasiFiletype := 0
/-- Modelled from the spec: `__WASI_FILETYPE_DIRECTORY`. -/
def wasiFiletypeDirectory : WasiFiletype := 3
/-- Modelled from the spec: `__WASI_FILETYPE_REGULAR_FILE`. -/
def wasiFiletypeRegularFile : WasiFiletype := 4
/-- Modelled from the spec: `__WASI_FILETYPE_SYMBOLIC_LINK`. -/
def wasiFiletypeSymbolicLink : WasiFiletype := 7

/-- Modelled from the spec: `__WASI_EACCES`. -/
def wasiEacces : WasiErrno := 2
/-- Modelled from the spec: `__WASI_EBADF`. -/
def wasiEbadf : WasiErrno := 8
/-- Modelled from the spec: `__WASI_EINVAL`. -/
def wasiEinval : WasiErrno := 28
/-- Modelled from the spec: `__WASI_EIO`. -/
def wasiEio : WasiErrno := 29
/-- Modelled from the spec: `__WASI_EISDIR`. -/
def wasiEisdir : WasiErrno := 31
/-- Modelled from the spec: `__WASI_EMLINK`. -/
def wasiEmlink : WasiErrno := 34

/-! ### WASI records -/

/-- Modelled from the spec: `__wasi_filestat_t`, the stat block of an inode. -/
structure WasiFilestat where
  stDev : UInt64
  stIno : UInt64
  stFiletype : WasiFiletype
  stNlink : UInt32
  stSize : UInt64
  stAtim : UInt64
  stMtim : UInt64
  stCtim : UInt64
deriving DecidableEq, Repr

/-- Modelled from the spec: `__wasi_filestat_t::default()`, the derived all-zero block,
whose file type is `__WASI_FILETYPE_UNKNOWN`. -/
def WasiFilestat.default : WasiFilestat :=
  ⟨0, 0, wasiFiletypeUnknown, 0, 0, 0, 0, 0⟩

/-- Modelled from the spec: `__wasi_fdstat_t`. -/
structure WasiFdstat where
  fsFiletype : WasiFiletype
  fsFlags : WasiFdflags
  fsRightsBase : WasiRights
  fsRightsInheriting : WasiRights
deriving DecidableEq, Repr

/-- Modelled from the spec: `__wasi_prestat_t`. Its union `u` has the one arm
`dir { pr_name_len }`, kept here as a field. -/
structure WasiPrestat where
  prType : WasiPreopentype
  prNameLen : UInt32
deriving DecidableEq, Repr

end Wasmer.Wasi
