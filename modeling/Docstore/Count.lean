/-!
# `Docstore.Count` — counts of 64 bits

Numbers of documents, stages and milliseconds are kept in 64 bits without sign. An integer below zero
is no count; a count that is too large becomes the largest one.
-/

namespace Docstore.Count

/-- The largest count. -/
def greatest : Nat := 0xFFFFFFFFFFFFFFFF

/-- The count of an integer, if it is not negative. -/
def ofInteger? (n : Int) : Option Nat := if n < 0 then none else some n.toNat

/-- The nearest count. -/
def saturate (n : Nat) : Nat := min n greatest

theorem saturate_of_le {n : Nat} (h : n ≤ greatest) : saturate n = n := by
  simp only [saturate]
  omega

end Docstore.Count
