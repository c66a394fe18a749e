/-!
# Rounding a quotient

The whole number nearest to a quotient of natural numbers, and the size of a number in base ten.
Machine numbers and written decimals are both rounded with these.
-/

namespace Graticule

/-- The whole number nearest to `n / d`; a tie goes to the even neighbour. -/
def roundQuotient (n d : Nat) : Nat :=
  let q := n / d
  let r := n % d
  if 2 * r < d || (2 * r == d && q % 2 == 0) then q else q + 1

def digitCount (n : Nat) : Nat :=
  if n < 10 then 1 else digitCount (n / 10) + 1

end Graticule
