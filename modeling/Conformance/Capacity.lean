import Conformance.Failure

/-!
# How much can be held

Lengths are numbers of a machine word, and what is held has to fit into memory.  Something is asked for by
its length before anything of it is there.
-/

namespace Conformance

/-- Why something of a length cannot be held. -/
inductive CapacityFault
  /-- The number is no length. -/
  | noLength
  /-- The bytes and what is kept beside them need more than a length can say. -/
  | tooManyBytes
  | noMemory
  deriving Repr, DecidableEq

namespace CapacityFault

/-- A fault as a failure. -/
def failure : CapacityFault → Failure
  | .noLength => .overflow "cannot fit 'int' into an index-sized integer"
  | .tooManyBytes => .overflow "byte string is too large"
  | .noMemory => .outOfMemory

end CapacityFault

/-- The largest length. -/
def largestLength : Nat := 9223372036854775807

/-- What is kept beside bytes, in bytes. -/
def besideBytes : Nat := 33

/-- The memory that there is, in bytes. -/
def memorySize : Nat := 68719476736

/-- The size of an item of a list, in bytes. -/
def itemSize : Nat := 8

/-- A number as a length; what is negative stands for nothing. -/
def lengthOf (n : Int) : Except CapacityFault Nat :=
  if largestLength < n.natAbs then .error .noLength else .ok n.toNat

/-- The length of bytes that are asked for. -/
def bytesLength (n : Int) : Except CapacityFault Nat := do
  let length ← lengthOf n
  if largestLength < length + besideBytes then .error .tooManyBytes
  else if memorySize < length then .error .noMemory
  else .ok length

/-- The length of a list that is asked for. -/
def listLength (n : Int) : Except CapacityFault Nat := do
  let length ← lengthOf n
  if memorySize < itemSize * length then .error .noMemory else .ok length

/-- What is small enough can be held. -/
theorem bytesLength_ofNat {n : Nat} (h : n ≤ memorySize) : bytesLength n = .ok n := by
  have h' : n ≤ 68719476736 := h
  have small : ¬ largestLength < n := by
    show ¬ 9223372036854775807 < n
    omega
  have fits : ¬ largestLength < n + besideBytes := by
    show ¬ 9223372036854775807 < n + 33
    omega
  simp [bytesLength, lengthOf, small, fits, Nat.not_lt.mpr h, bind, Except.bind]

/-- What can be held has the length that was asked for. -/
theorem eq_toNat_of_bytesLength {n : Int} {length : Nat} (h : bytesLength n = .ok length) :
    length = n.toNat := by
  unfold bytesLength lengthOf at h
  by_cases hlarge : largestLength < n.natAbs
  · rw [if_pos hlarge] at h
    cases h
  · rw [if_neg hlarge] at h
    change (if largestLength < n.toNat + besideBytes then _ else _) = _ at h
    split at h
    · cases h
    · split at h
      · cases h
      · cases h
        rfl

end Conformance
