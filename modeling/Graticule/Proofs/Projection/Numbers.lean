import Graticule.Proofs.Scalar.Comparable
import Graticule.Projection.Basic

/-!
# The numbers of a projection

A projection is its shape and its numbers: `eq_of_numbers`.  Two are equal by the test exactly when
they have one shape and their numbers pass it one by one, so the test inherits what it has on
numbers.
-/

namespace Graticule

variable {α : Type}

theorem forall₂_trans {R : α → α → Prop} (hR : ∀ x y z, R x y → R y z → R x z) {l m n : List α}
    (h : List.Forall₂ R l m) (h' : List.Forall₂ R m n) : List.Forall₂ R l n := by
  induction h generalizing n with
  | nil => exact h'
  | cons hxy _ ih =>
    cases h' with
    | cons hyz htail => exact .cons (hR _ _ _ hxy hyz) (ih htail)

namespace Ellipsoid

def numbers (e : Ellipsoid α) : List α := [e.a, e.f]

end Ellipsoid

namespace Projection

/-- What a projection is apart from its numbers. -/
inductive Shape where
  | longLat
  | mercator
  | polarStereographic (south : Bool)
  | lambertConformal
deriving DecidableEq

def shape : Projection α → Shape
  | longLat _ => .longLat
  | mercator _ => .mercator
  | polarStereographic s => .polarStereographic s.south
  | lambertConformal _ => .lambertConformal

def numbers : Projection α → List α
  | longLat e => e.numbers
  | mercator m => m.ellipsoid.numbers ++ [m.lon0, m.k0, m.falseEasting, m.falseNorthing]
  | polarStereographic s =>
    s.ellipsoid.numbers ++ [s.latTs, s.lon0, s.falseEasting, s.falseNorthing, s.radiusScale]
  | lambertConformal c =>
    [c.lon0, c.lat0, c.lat1, c.lat2, c.radius, c.falseEasting, c.falseNorthing, c.n, c.f, c.rho0]

/-- The numbers that the formulas of a projection read; the others only derive some of them. -/
def formulaNumbers : Projection α → List α
  | longLat _ => []
  | mercator m => m.ellipsoid.numbers ++ [m.lon0, m.k0, m.falseEasting, m.falseNorthing]
  | polarStereographic s =>
    s.ellipsoid.numbers ++ [s.lon0, s.falseEasting, s.falseNorthing, s.radiusScale]
  | lambertConformal c => [c.lon0, c.radius, c.falseEasting, c.falseNorthing, c.n, c.f, c.rho0]

theorem isGeographic_eq_of_shape {p q : Projection α} (h : p.shape = q.shape) :
    p.isGeographic = q.isGeographic := by
  cases p <;> cases q <;> first | rfl | cases h

theorem eq_of_numbers {p q : Projection α} (hshape : p.shape = q.shape)
    (hnumbers : p.numbers = q.numbers) : p = q := by
  rcases p with ⟨⟨_, _⟩⟩ | ⟨⟨⟨_, _⟩, _, _, _, _⟩⟩ | ⟨⟨⟨_, _⟩, _, _, _, _, _, _⟩⟩ |
      ⟨⟨_, _, _, _, _, _, _, _, _, _⟩⟩ <;>
    rcases q with ⟨⟨_, _⟩⟩ | ⟨⟨⟨_, _⟩, _, _, _, _⟩⟩ | ⟨⟨⟨_, _⟩, _, _, _, _, _, _⟩⟩ |
      ⟨⟨_, _, _, _, _, _, _, _, _, _⟩⟩ <;>
    simp_all [shape, numbers, Ellipsoid.numbers]

section

variable [BEq α]

theorem beq_longLat (e e' : Ellipsoid α) : (longLat e == longLat e') = (e == e') := rfl

theorem beq_mercator (m m' : Mercator α) : (mercator m == mercator m') = (m == m') := rfl

theorem beq_polarStereographic (s s' : PolarStereographic α) :
    (polarStereographic s == polarStereographic s') = (s == s') := rfl

theorem beq_lambertConformal (c c' : LambertConformal α) :
    (lambertConformal c == lambertConformal c') = (c == c') := rfl

theorem beq_iff_numbers {p q : Projection α} :
    (p == q) = true ↔
      p.shape = q.shape ∧ List.Forall₂ (fun x y => (x == y) = true) p.numbers q.numbers := by
  have hellipsoid (e e' : Ellipsoid α) : (e == e') = (e.a == e'.a && e.f == e'.f) := rfl
  cases p with
  | longLat e =>
    cases q with
    | longLat e' => simp [beq_longLat, shape, numbers, Ellipsoid.numbers, hellipsoid]
    | _ => exact iff_of_false Bool.false_ne_true fun h => nomatch h.1
  | mercator m =>
    cases q with
    | mercator m' =>
      have hm : (m == m') = (m.ellipsoid == m'.ellipsoid && (m.lon0 == m'.lon0 &&
        (m.k0 == m'.k0 && (m.falseEasting == m'.falseEasting &&
          m.falseNorthing == m'.falseNorthing)))) := rfl
      simp [beq_mercator, shape, numbers, Ellipsoid.numbers, hellipsoid, hm, and_assoc]
    | _ => exact iff_of_false Bool.false_ne_true fun h => nomatch h.1
  | polarStereographic s =>
    cases q with
    | polarStereographic s' =>
      have hs : (s == s') = (s.ellipsoid == s'.ellipsoid && (s.south == s'.south &&
        (s.latTs == s'.latTs && (s.lon0 == s'.lon0 && (s.falseEasting == s'.falseEasting &&
          (s.falseNorthing == s'.falseNorthing && s.radiusScale == s'.radiusScale)))))) := rfl
      simp [beq_polarStereographic, shape, numbers, Ellipsoid.numbers, hellipsoid, hs, and_assoc]
      tauto
    | _ => exact iff_of_false Bool.false_ne_true fun h => nomatch h.1
  | lambertConformal c =>
    cases q with
    | lambertConformal c' =>
      have hc : (c == c') = (c.lon0 == c'.lon0 && (c.lat0 == c'.lat0 && (c.lat1 == c'.lat1 &&
        (c.lat2 == c'.lat2 && (c.radius == c'.radius && (c.falseEasting == c'.falseEasting &&
          (c.falseNorthing == c'.falseNorthing && (c.n == c'.n && (c.f == c'.f &&
            c.rho0 == c'.rho0))))))))) := rfl
      simp [beq_lambertConformal, shape, numbers, hc]
    | _ => exact iff_of_false Bool.false_ne_true fun h => nomatch h.1

theorem beq_self_iff {p : Projection α} :
    (p == p) = true ↔ ∀ x ∈ p.numbers, (x == x) = true := by
  rw [beq_iff_numbers, List.forall₂_same]
  exact and_iff_right rfl

instance [PartialEquivBEq α] : PartialEquivBEq (Projection α) where
  symm {p q} h := by
    obtain ⟨hshape, hnumbers⟩ := beq_iff_numbers.1 h
    exact beq_iff_numbers.2 ⟨hshape.symm, (hnumbers.imp fun _ _ => PartialEquivBEq.symm).flip⟩
  trans {p q r} h h' := by
    obtain ⟨hshape, hnumbers⟩ := beq_iff_numbers.1 h
    obtain ⟨hshape', hnumbers'⟩ := beq_iff_numbers.1 h'
    refine beq_iff_numbers.2 ⟨hshape.trans hshape', ?_⟩
    exact forall₂_trans (R := fun x y => (x == y) = true)
      (fun _ _ _ hxy hyz => PartialEquivBEq.trans hxy hyz) hnumbers hnumbers'

end

/-- Where there is one zero the test tells all projections apart. -/
theorem eq_of_beq [Scalar α] [Scalar.OneZero α] {p q : Projection α} (h : (p == q) = true) :
    p = q := by
  obtain ⟨hshape, hnumbers⟩ := beq_iff_numbers.1 h
  have hequal := hnumbers.imp fun _ _ => Scalar.OneZero.eq_of_beq _ _
  rw [List.forall₂_eq_eq_eq] at hequal
  exact eq_of_numbers hshape hequal

/-- The formulas depend on the shape and the numbers that they read. -/
theorem forward_inverse_eq_of_formulaNumbers [Elementary α] {p q : Projection α}
    (hshape : p.shape = q.shape) (hnumbers : p.formulaNumbers = q.formulaNumbers) :
    p.forward = q.forward ∧ p.inverse = q.inverse := by
  rcases p with e | ⟨⟨_, _⟩, _, _, _, _⟩ | ⟨⟨_, _⟩, _, _, _, _, _, _⟩ |
      ⟨_, _, _, _, _, _, _, _, _, _⟩ <;>
    rcases q with e' | ⟨⟨_, _⟩, _, _, _, _⟩ | ⟨⟨_, _⟩, _, _, _, _, _, _⟩ |
      ⟨_, _, _, _, _, _, _, _, _, _⟩ <;>
    first
    | cases hshape; cases hnumbers; exact ⟨rfl, rfl⟩
    | cases hshape

theorem formulaNumbers_of_beq [BEq α] {p q : Projection α} (h : (p == q) = true) :
    List.Forall₂ (fun x y => (x == y) = true) p.formulaNumbers q.formulaNumbers := by
  obtain ⟨hshape, hnumbers⟩ := beq_iff_numbers.1 h
  cases p <;> cases q <;> first
    | cases hshape; done
    | simp_all [numbers, formulaNumbers, Ellipsoid.numbers]

theorem eq_of_beq_of_signs [Scalar α] [Scalar.Comparable α] {l m : List α}
    (h : List.Forall₂ (fun x y => (x == y) = true) l m)
    (hsigns : l.map Scalar.sign = m.map Scalar.sign) : l = m := by
  induction h with
  | nil => rfl
  | cons hxy _ ih =>
    obtain ⟨hsign, hrest⟩ := List.cons.inj hsigns
    rw [Scalar.Comparable.eq_of_beq _ _ hxy hsign, ih hrest]

/-- Projections that are equal by the test have the same formulas if their zeros have the same
signs. -/
theorem forward_inverse_eq_of_beq [Elementary α] [Scalar.Comparable α] {p q : Projection α}
    (h : (p == q) = true)
    (hsigns : p.formulaNumbers.map Scalar.sign = q.formulaNumbers.map Scalar.sign) :
    p.forward = q.forward ∧ p.inverse = q.inverse :=
  forward_inverse_eq_of_formulaNumbers (beq_iff_numbers.1 h).1
    (eq_of_beq_of_signs (formulaNumbers_of_beq h) hsigns)

end Projection

end Graticule
