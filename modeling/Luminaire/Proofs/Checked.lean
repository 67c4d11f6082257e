/-
Word arithmetic that breaks down where the machine's would wrap.

The programs here compute on machine words, and on words a difference, a
sum, a product and a shift always have some result. Computed with these
operations instead, a program has a result only if none of its steps left
the range of the words. So "nothing wraps" is said of a program by writing
it down once more with them and proving that it still has a result, and
the same one.
-/

namespace Luminaire.Checked

/-- The sum of two words, unless it is too large for one. -/
def add? (left right : UInt64) : Option UInt64 :=
  if left.toNat + right.toNat < UInt64.size then some (left + right) else none

/-- Their difference, unless it would be below zero. -/
def sub? (left right : UInt64) : Option UInt64 :=
  if right ≤ left then some (left - right) else none

/-- Their product, unless it is too large. -/
def mul? (left right : UInt64) : Option UInt64 :=
  if left.toNat * right.toNat < UInt64.size then some (left * right) else none

/-- A word moved to the left, unless by as many places as it has. -/
def shiftLeft? (word places : UInt64) : Option UInt64 :=
  if places < 64 then some (word <<< places) else none

variable {left right word places : UInt64}

theorem add?_of_lt (hfits : left.toNat + right.toNat < UInt64.size) :
    ∃ sum, add? left right = some sum ∧ sum.toNat = left.toNat + right.toNat := by
  refine ⟨left + right, if_pos hfits, ?_⟩
  rw [UInt64.toNat_add]
  exact Nat.mod_eq_of_lt hfits

theorem sub?_of_le (hle : right ≤ left) : sub? left right = some (left - right) :=
  if_pos hle

theorem mul?_of_lt (hfits : left.toNat * right.toNat < UInt64.size) :
    ∃ product, mul? left right = some product ∧ product.toNat = left.toNat * right.toNat := by
  refine ⟨left * right, if_pos hfits, ?_⟩
  rw [UInt64.toNat_mul]
  exact Nat.mod_eq_of_lt hfits

theorem shiftLeft?_of_lt (hplaces : places < 64) :
    shiftLeft? word places = some (word <<< places) :=
  if_pos hplaces

end Luminaire.Checked
