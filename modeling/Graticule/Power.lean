/-!
# Powers of two and ten

The powers that machine numbers and decimals are counted in.
-/

namespace Graticule

def powerOfTwo (n : Nat) : Nat := Nat.pow 2 n

def powerOfTen (n : Nat) : Nat := Nat.pow 10 n

end Graticule
