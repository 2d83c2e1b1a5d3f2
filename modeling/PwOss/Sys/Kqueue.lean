import Mathlib.Algebra.GroupWithZero.Nat
import Mathlib.Algebra.Group.Int.Defs

/-
  Kernel events, as the wake driver and the hotplug monitor read them.

  An errno is a `c_int` here, as `Errno::from_raw` takes it: an event with `EV_ERROR`
  carries it in `data`. What `submit_change` makes of a receipt is an answer to its callers.

  Correspondence (Rust ↔ Lean):
    `libc::kevent`                            ↔ `Kevent`, without `fflags`, `ext[2]`, `ext[3]`
    `libc::EVFILT_READ`, `libc::EV_EOF`, …    ↔ `evfiltRead`, `evEof`, …
-/

namespace PwOss.Sys

/-- `c_int`: an errno by its number. -/
abbrev ErrnoCode : Type := Int

def enoent : ErrnoCode := 2
def eioCode : ErrnoCode := 5
def ebadfCode : ErrnoCode := 9
def einval : ErrnoCode := 22

/-- `i64 as c_int`. -/
def toCInt (data : Int) : ErrnoCode := Int.bmod data (2 ^ 32)

/-- `c_int as uintptr_t`. -/
def toUintptr (fd : Int) : Nat := (fd % 2 ^ 64).toNat

/-! ## Events -/

def evfiltRead : Int := -1
def evfiltWrite : Int := -2
def evfiltTimer : Int := -7

def evError : UInt16 := 0x4000
def evEof : UInt16 := 0x8000

structure Kevent where
  ident : Nat
  filter : Int
  flags : UInt16 := 0
  data : Int := 0
  udata : Nat := 0
  /-- `ext[0]` -/
  ext0 : Nat := 0
  /-- `ext[1]` -/
  ext1 : Nat := 0
  deriving DecidableEq, Repr

def Kevent.isError (event : Kevent) : Bool := event.flags &&& evError != 0

def Kevent.isEof (event : Kevent) : Bool := event.flags &&& evEof != 0

end PwOss.Sys
