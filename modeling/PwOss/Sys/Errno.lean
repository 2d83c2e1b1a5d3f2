/-
  Error numbers, with FreeBSD's values.
-/

namespace PwOss.Sys

/-- A positive errno; `c_int` results carry it negated. -/
structure Errno where
  code : Nat
  pos : 0 < code
  deriving DecidableEq

namespace Errno

def eintr : Errno := ⟨4, by decide⟩
def eio : Errno := ⟨5, by decide⟩
def enxio : Errno := ⟨6, by decide⟩
def ebadf : Errno := ⟨9, by decide⟩
def ebusy : Errno := ⟨16, by decide⟩
def enodev : Errno := ⟨19, by decide⟩
def epipe : Errno := ⟨32, by decide⟩
/-- `EAGAIN`, and `EWOULDBLOCK`, which has the same value. -/
def eagain : Errno := ⟨35, by decide⟩
def enotsup : Errno := ⟨45, by decide⟩

/-- The negative `c_int` that reports the errno. -/
def neg (e : Errno) : Int := -(e.code : Int)

theorem neg_lt (e : Errno) : e.neg < 0 := by
  have := e.pos
  simp only [neg]
  omega

end Errno

end PwOss.Sys
