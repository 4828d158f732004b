import Mathlib.Algebra.Order.Ring.Nat
import Mathlib.Tactic.Common

/-!
Words and error numbers of the kernel that the driver's functions use. Functions
returning an `int` answer a negated error number on failure.
-/
namespace PcanDriver

abbrev U8 := BitVec 8
abbrev U16 := BitVec 16
abbrev U32 := BitVec 32

def eio : Int := 5
def eagain : Int := 11
def enomem : Int := 12
def efault : Int := 14
def ebusy : Int := 16
def eexist : Int := 17
def enodev : Int := 19
def einval : Int := 22
def enospc : Int := 28
def enodata : Int := 61
def eopnotsupp : Int := 95
def enetdown : Int := 100

end PcanDriver
