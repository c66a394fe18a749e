/-!
# Scalars

The numbers that coordinates, pixel sizes and axes are made of.  Everything metric in the library is
written over these classes, so a definition reads the same over machine numbers and over an exact
ordered field.  Each operation is the one its name says; what a machine number adds (rounding, a
not-a-number, saturation) is confined to its instance.
-/

namespace Graticule

/-- Arithmetic, comparison and rounding to whole numbers. -/
class Scalar (α : Type) where
  /-- Sums. -/
  toAdd : Add α
  /-- Differences. -/
  toSub : Sub α
  /-- Products. -/
  toMul : Mul α
  /-- Quotients. -/
  toDiv : Div α
  /-- Opposites. -/
  toNeg : Neg α
  /-- Strict comparison. -/
  toLT : LT α
  /-- Comparison. -/
  toLE : LE α
  /-- Equality as a test. -/
  toBEq : BEq α
  /-- Strict comparison can be tested. -/
  decLt : ∀ a b : α, Decidable (a < b)
  /-- Comparison can be tested. -/
  decLe : ∀ a b : α, Decidable (a ≤ b)
  /-- The scalar nearest to a natural number. -/
  ofNat : Nat → α
  /-- The scalar nearest to an integer. -/
  ofInt : Int → α
  /-- The scalar nearest to a decimal: `ofDecimal m true s` is `m / 10 ^ s`, and
  `ofDecimal m false s` is `m * 10 ^ s`. -/
  ofDecimal : Nat → Bool → Nat → α
  /-- Absolute value. -/
  abs : α → α
  /-- One with the sign of the argument; zero counts as positive unless it carries a sign. -/
  sign : α → α
  /-- Greatest whole number not above the argument. -/
  floor : α → α
  /-- Least whole number not below the argument. -/
  ceil : α → α
  /-- Nearest whole number, a half going away from zero. -/
  round : α → α
  /-- Remainder of division toward zero; it has the sign of the dividend. -/
  remainder : α → α → α
  /-- The lesser of two; an argument that is not a number is ignored. -/
  least : α → α → α
  /-- The greater of two; an argument that is not a number is ignored. -/
  greatest : α → α → α
  /-- Neither infinite nor not a number. -/
  isFinite : α → Bool
  /-- The integer part; a machine number saturates at 64 signed bits. -/
  toInt : α → Int
  /-- The integer part of a positive scalar, else zero; a machine number saturates at 64 bits. -/
  toNat : α → Nat

namespace Scalar

variable {α : Type} [Scalar α]

instance (priority := low) instAdd : Add α := toAdd

instance (priority := low) instSub : Sub α := toSub

instance (priority := low) instMul : Mul α := toMul

instance (priority := low) instDiv : Div α := toDiv

instance (priority := low) instNeg : Neg α := toNeg

instance (priority := low) instLT : LT α := toLT

instance (priority := low) instLE : LE α := toLE

instance (priority := low) instBEq : BEq α := toBEq

instance (priority := low) instDecidableLt (a b : α) : Decidable (a < b) := decLt a b

instance (priority := low) instDecidableLe (a b : α) : Decidable (a ≤ b) := decLe a b

-- above the numerals that a field has, so that a literal reads the same over every scalar
instance (priority := 150) instNumeral (n : Nat) : OfNat α n := ⟨ofNat n⟩

instance (priority := low) instDecimal : OfScientific α := ⟨ofDecimal⟩

end Scalar

/-- Scalars with an infinity, the unit of `least`. -/
class Unbounded (α : Type) extends Scalar α where
  /-- Above every other scalar. -/
  infinity : α

/-- Scalars with the elementary functions that projections need. -/
class Elementary (α : Type) extends Scalar α where
  /-- Half the circumference of the unit circle. -/
  pi : α
  /-- Sine of an angle in radians. -/
  sin : α → α
  /-- Cosine of an angle in radians. -/
  cos : α → α
  /-- Tangent of an angle in radians. -/
  tan : α → α
  /-- The angle in `(-π/2, π/2)` with the given tangent. -/
  atan : α → α
  /-- `atan2 y x` is the angle of the point `(x, y)`, in `[-π, π]`. -/
  atan2 : α → α → α
  /-- Exponential. -/
  exp : α → α
  /-- Natural logarithm. -/
  log : α → α
  /-- Square root. -/
  sqrt : α → α
  /-- Length of the hypotenuse over two sides. -/
  hypot : α → α → α
  /-- `pow x y` is `x` to the power `y`. -/
  pow : α → α → α

/-- The written form of a scalar, and the scalar that a text writes. -/
class Written (α : Type) where
  /-- The text of a scalar. -/
  text : α → String
  /-- The scalar that a text writes, if it writes one. -/
  ofText? : String → Option α

end Graticule
