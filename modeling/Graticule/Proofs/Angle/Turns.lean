import Graticule.Angle
import Graticule.Proofs.Scalar.Real
import Mathlib.Algebra.Group.ModEq

/-!
# Longitudes by whole turns

A longitude is brought within half a turn of zero by two loops, the first of which turns back and
the second forward.  Each ends, since a bounded number of turns suffices (`exists_loops`), and the
second does not leave what the first has reached.  So a longitude stands for its class modulo whole
turns, whatever half a turn above zero is.
-/

namespace Graticule

/-- The loop that takes a step as long as it goes on, started at one value, ends at another. -/
inductive LoopEnds {α : Type} (goesOn : α → Prop) (step : α → α) : α → α → Prop
  | stop {x : α} : ¬goesOn x → LoopEnds goesOn step x x
  | next {x y : α} : goesOn x → LoopEnds goesOn step (step x) y → LoopEnds goesOn step x y

namespace LoopEnds

variable {α : Type} {goesOn : α → Prop} {step : α → α} {x y : α}

theorem not_goesOn (h : LoopEnds goesOn step x y) : ¬goesOn y := by
  induction h with
  | stop hx => exact hx
  | next _ _ ih => exact ih

theorem eq_of_not_goesOn (h : LoopEnds goesOn step x y) (hx : ¬goesOn x) : y = x := by
  cases h with
  | stop _ => rfl
  | next hgoes _ => exact absurd hgoes hx

/-- What a step keeps is kept by the loop. -/
theorem invariant {P : α → Prop} (hstep : ∀ z, goesOn z → P z → P (step z))
    (h : LoopEnds goesOn step x y) (hx : P x) : P y := by
  induction h with
  | stop _ => exact hx
  | next hgoes _ ih => exact ih (hstep _ hgoes hx)

end LoopEnds

section

variable {α β : Type} {goesOn : α → Prop} [DecidablePred goesOn] {step : α → α}
variable {goesOn' : β → Prop} [DecidablePred goesOn'] {step' : β → β}

theorem loop?_of_not (n : ℕ) {x : α} (hx : ¬goesOn x) : loop? goesOn step n x = some x := by
  cases n <;> exact if_neg hx

theorem loop?_succ (n : ℕ) {x : α} (hx : goesOn x) :
    loop? goesOn step (n + 1) x = loop? goesOn step n (step x) := if_pos hx

/-- What is computed in so many steps is where the loop ends. -/
theorem loopEnds_of_loop? {n : ℕ} {x y : α} (h : loop? goesOn step n x = some y) :
    LoopEnds goesOn step x y := by
  induction n generalizing x with
  | zero =>
    rw [loop?] at h
    split at h
    · cases h
    · next hstop =>
      cases h
      exact .stop hstop
  | succ n ih =>
    rw [loop?] at h
    split at h
    · next hgoes => exact .next hgoes (ih h)
    · next hstop =>
      cases h
      exact .stop hstop

/-- A loop ends in time that is over at the latest when no more steps are allowed. -/
theorem isSome_loop? {P : ℕ → α → Prop} (hzero : ∀ x, P 0 x → ¬goesOn x)
    (hsucc : ∀ n x, P (n + 1) x → goesOn x → P n (step x)) {n : ℕ} {x : α} (hx : P n x) :
    (loop? goesOn step n x).isSome = true := by
  induction n generalizing x with
  | zero =>
    rw [loop?_of_not 0 (hzero x hx)]
    rfl
  | succ n ih =>
    by_cases hgoes : goesOn x
    · rw [loop?_succ n hgoes]
      exact ih (hsucc n x hx hgoes)
    · rw [loop?_of_not _ hgoes]
      rfl

/-- A map under which two loops go on together takes the end of one to that of the other. -/
theorem loop?_map {f : α → β} (hgoes : ∀ x, goesOn' (f x) ↔ goesOn x)
    (hstep : ∀ x, step' (f x) = f (step x)) (n : ℕ) (x : α) :
    loop? goesOn' step' n (f x) = (loop? goesOn step n x).map f := by
  induction n generalizing x with
  | zero =>
    simp only [loop?, hgoes, apply_ite (Option.map f), Option.map_none, Option.map_some]
  | succ n ih =>
    simp only [loop?, hgoes, hstep, ih, apply_ite (Option.map f), Option.map_some]

end

namespace Angle

open scoped Exact
open Elementary (pi)

variable {K : Type} [Field K] [LinearOrder K] [IsStrictOrderedRing K] [FloorRing K]
variable [E : Elementary K]

/-- The longitudes are the same, or both are half a turn from zero. -/
def SameLongitude (x y : K) : Prop := x = y ∨ |x| = pi ∧ |y| = pi

/-! ## Where the loops end -/

section

variable {α : Type} [Elementary α]

/-- Both loops end, the second at the wrapped longitude. -/
def WrapEnds (x : α) : Prop :=
  ∃ y, LoopEnds (pi < ·) (· - turn) x y ∧ LoopEnds (· < -pi) (· + turn) y (wrap x)

/-- Over any scalars the loops end where the wrapped longitude is found. -/
theorem wrapEnds_of_isSome {x : α} (h : (wrap? x).isSome = true) : WrapEnds x := by
  obtain ⟨z, hz⟩ := Option.isSome_iff_exists.1 h
  obtain ⟨y, hback, hforward⟩ := Option.bind_eq_some_iff.1 hz
  have hwrap : wrap x = z := by rw [wrap, hz, Option.getD_some]
  exact ⟨y, loopEnds_of_loop? hback, hwrap ▸ loopEnds_of_loop? hforward⟩

end

/-! ## Scalars with the same turns -/

/-- A map of scalars keeps what the loops compute with. -/
structure KeepsTurns {α β : Type} [Elementary α] [Elementary β] (f : α → β) : Prop where
  turnsWithin : ∀ x, turnsWithin (f x) = turnsWithin x
  pi_lt : ∀ x, pi < f x ↔ pi < x
  lt_neg_pi : ∀ x, f x < -pi ↔ x < -pi
  sub_turn : ∀ x, f x - turn = f (x - turn)
  add_turn : ∀ x, f x + turn = f (x + turn)

namespace KeepsTurns

variable {α β : Type} [Elementary α] [Elementary β] {f : α → β}

theorem wrap? (hf : KeepsTurns f) (x : α) : Angle.wrap? (f x) = (Angle.wrap? x).map f := by
  have hforward (y : α) : turnForward? (f y) = (turnForward? y).map f := by
    unfold turnForward?
    rw [hf.turnsWithin, loop?_map hf.lt_neg_pi hf.add_turn]
  have hback : turnBack? (f x) = (turnBack? x).map f := by
    unfold turnBack?
    rw [hf.turnsWithin, loop?_map hf.pi_lt hf.sub_turn]
  unfold Angle.wrap?
  rw [hback, Option.bind_map, Option.map_bind]
  exact congrArg _ (funext hforward)

theorem wrap (hf : KeepsTurns f) (x : α) : Angle.wrap (f x) = f (Angle.wrap x) := by
  unfold Angle.wrap
  rw [hf.wrap?, Option.getD_map]

end KeepsTurns

/-! ## Over exact scalars -/

section
variable (hexact : E.toScalar = Exact.instScalar)
include hexact

omit [IsStrictOrderedRing K] in
theorem turn_eq_pi_add_pi : (turn : K) = pi + pi := by
  obtain ⟨scalar⟩ := E
  subst hexact
  exact two_mul _

omit [IsStrictOrderedRing K] in
theorem turnsWithin_eq (x : K) :
    turnsWithin x = 2 * (Exact.truncate (|x| / turn)).toNat + 2 := by
  obtain ⟨scalar⟩ := E
  subst hexact
  rfl

omit [IsStrictOrderedRing K] in
theorem turnBack?_eq (x : K) : turnBack? x = loop? (pi < ·) (· - turn) (turnsWithin x) x := by
  obtain ⟨scalar⟩ := E
  subst hexact
  rfl

omit [IsStrictOrderedRing K] in
theorem turnForward?_eq (x : K) :
    turnForward? x = loop? (· < -pi) (· + turn) (turnsWithin x) x := by
  obtain ⟨scalar⟩ := E
  subst hexact
  rfl

end

section
variable (hexact : E.toScalar = Exact.instScalar) (hpi : 0 < (pi : K))
include hexact hpi

theorem turn_pos : 0 < (turn : K) := by
  rw [turn_eq_pi_add_pi hexact]
  exact add_pos hpi hpi

/-- The number of turns that are allowed is enough. -/
theorem abs_le_turnsWithin_mul (x : K) : |x| ≤ turnsWithin x * turn := by
  have hturn := turn_pos hexact hpi
  have hnonneg : 0 ≤ |x| / turn := div_nonneg (abs_nonneg x) hturn.le
  have htruncate : Exact.truncate (|x| / turn) = ⌊|x| / turn⌋ := if_neg hnonneg.not_gt
  have hfloor : ((⌊|x| / turn⌋.toNat : ℤ) : K) = ⌊|x| / turn⌋ := by
    rw [Int.toNat_of_nonneg (Int.floor_nonneg.2 hnonneg)]
  have hfloor_nonneg : (0 : K) ≤ ⌊|x| / turn⌋ := Int.cast_nonneg (Int.floor_nonneg.2 hnonneg)
  have hlt := Int.lt_floor_add_one (|x| / turn)
  rw [turnsWithin_eq hexact, htruncate, ← div_le_iff₀ hturn]
  push_cast at hfloor ⊢
  linarith

theorem isSome_turnBack? (x : K) : (turnBack? x).isSome = true := by
  have hfar := abs_le_turnsWithin_mul hexact hpi x
  rw [turnBack?_eq hexact]
  refine isSome_loop? (P := fun n y => y ≤ pi + (n : K) * turn) ?_ ?_ ?_
  · intro y hy
    rw [Nat.cast_zero, zero_mul, add_zero] at hy
    exact hy.not_gt
  · intro n y hy _
    push_cast at hy
    linarith
  · have := le_abs_self x
    linarith

theorem isSome_turnForward? (x : K) : (turnForward? x).isSome = true := by
  have hfar := abs_le_turnsWithin_mul hexact hpi x
  rw [turnForward?_eq hexact]
  refine isSome_loop? (P := fun n y => -pi - (n : K) * turn ≤ y) ?_ ?_ ?_
  · intro y hy
    rw [Nat.cast_zero, zero_mul, sub_zero] at hy
    exact hy.not_gt
  · intro n y hy _
    push_cast at hy
    linarith
  · have := neg_abs_le x
    linarith

theorem isSome_wrap? (x : K) : (wrap? x).isSome = true := by
  obtain ⟨y, hy⟩ := Option.isSome_iff_exists.1 (isSome_turnBack? hexact hpi x)
  unfold wrap?
  rw [hy]
  exact isSome_turnForward? hexact hpi y

/-- The first loop turns back, the second forward from where the first has ended. -/
theorem exists_loops (x : K) :
    ∃ y, LoopEnds (pi < ·) (· - turn) x y ∧ LoopEnds (· < -pi) (· + turn) y (wrap x) := by
  have hends : WrapEnds x := wrapEnds_of_isSome (isSome_wrap? hexact hpi x)
  obtain ⟨scalar⟩ := E
  subst hexact
  exact hends

/-! ## What the loops reach -/

/-- A turn forward is taken only from below, so it does not go past half a turn again. -/
theorem abs_wrap_le (x : K) : |wrap x| ≤ pi := by
  obtain ⟨y, hback, hforward⟩ := exists_loops hexact hpi x
  have hstep : ∀ z : K, z < -pi → z ≤ pi → z + turn ≤ pi := by
    intro z hz _
    rw [turn_eq_pi_add_pi hexact]
    linarith
  have hy : y ≤ pi := not_lt.1 hback.not_goesOn
  have hlow : -pi ≤ wrap x := not_lt.1 hforward.not_goesOn
  exact abs_le.2 ⟨hlow, hforward.invariant (P := (· ≤ pi)) hstep hy⟩

theorem wrap_modEq (x : K) : wrap x ≡ x [PMOD turn] := by
  obtain ⟨y, hback, hforward⟩ := exists_loops hexact hpi x
  have hless : ∀ z : K, pi < z → z ≡ x [PMOD turn] → z - turn ≡ x [PMOD turn] := by
    intro z _ hz
    rw [AddCommGroup.sub_modEq_iff_modEq_add]
    exact hz.trans (AddCommGroup.add_modEq_left.2 AddCommGroup.self_modEq_zero).symm
  have hmore : ∀ z : K, z < -pi → z ≡ x [PMOD turn] → z + turn ≡ x [PMOD turn] :=
    fun z _ hz => (AddCommGroup.add_modEq_left.2 AddCommGroup.self_modEq_zero).trans hz
  have hy : y ≡ x [PMOD turn] :=
    hback.invariant (P := (· ≡ x [PMOD turn])) hless AddCommGroup.modEq_rfl
  exact hforward.invariant (P := (· ≡ x [PMOD turn])) hmore hy

theorem wrap_eq_self {x : K} (hx : |x| ≤ pi) : wrap x = x := by
  obtain ⟨hlow, hhigh⟩ := abs_le.1 hx
  obtain ⟨y, hback, hforward⟩ := exists_loops hexact hpi x
  rw [hback.eq_of_not_goesOn hhigh.not_gt] at hforward
  exact hforward.eq_of_not_goesOn hlow.not_gt

/-- Within half a turn of zero only the two ends differ by whole turns. -/
theorem sameLongitude_of_modEq {x y : K} (hxy : x ≡ y [PMOD turn]) (hx : |x| ≤ pi)
    (hy : |y| ≤ pi) : SameLongitude x y := by
  have hturn := turn_pos hexact hpi
  obtain ⟨m, hm⟩ := AddCommGroup.modEq_iff_zsmul.1 hxy
  rw [zsmul_eq_mul] at hm
  obtain ⟨hxlow, hxhigh⟩ := abs_le.1 hx
  obtain ⟨hylow, hyhigh⟩ := abs_le.1 hy
  have htwo : (turn : K) = pi + pi := turn_eq_pi_add_pi hexact
  have hlow : -1 ≤ m := by
    have : ((-1 : ℤ) : K) * turn ≤ m * turn := by
      push_cast
      linarith
    exact_mod_cast le_of_mul_le_mul_right this hturn
  have hhigh : m ≤ 1 := by
    have : (m : K) * turn ≤ (1 : ℤ) * turn := by
      push_cast
      linarith
    exact_mod_cast le_of_mul_le_mul_right this hturn
  obtain rfl | rfl | rfl : m = -1 ∨ m = 0 ∨ m = 1 := by omega
  · have hends : x = pi ∧ y = -pi := by
      push_cast at hm
      constructor <;> linarith
    rw [hends.1, hends.2, SameLongitude, abs_neg, abs_of_pos hpi]
    exact .inr ⟨rfl, rfl⟩
  · refine .inl ?_
    push_cast at hm
    linarith
  · have hends : x = -pi ∧ y = pi := by
      push_cast at hm
      constructor <;> linarith
    rw [hends.1, hends.2, SameLongitude, abs_neg, abs_of_pos hpi]
    exact .inr ⟨rfl, rfl⟩

theorem sameLongitude_wrap {x y : K} (hxy : x ≡ y [PMOD turn]) :
    SameLongitude (wrap x) (wrap y) := by
  have hwrapped : wrap x ≡ wrap y [PMOD turn] :=
    ((wrap_modEq hexact hpi x).trans hxy).trans (wrap_modEq hexact hpi y).symm
  exact sameLongitude_of_modEq hexact hpi hwrapped (abs_wrap_le hexact hpi x)
    (abs_wrap_le hexact hpi y)

end

/-! ## Longitudes modulo whole turns -/

/-- Over exact scalars, whatever half a turn above zero is, both loops end for every longitude.
What they reach lies within half a turn of zero, differs from the longitude by whole turns and is
the longitude itself if that lies there.  Apart from the two ends it depends on the longitude modulo
whole turns alone, so wrapping on the way to a sum, or around a central meridian, changes nothing.
-/
theorem wrap_normalises (hexact : E.toScalar = Exact.instScalar) (hpi : 0 < (pi : K)) :
    (∀ x : K, ∃ y, LoopEnds (pi < ·) (· - turn) x y ∧
      LoopEnds (· < -pi) (· + turn) y (wrap x)) ∧
    (∀ x : K, |wrap x| ≤ pi) ∧
    (∀ x : K, wrap x ≡ x [PMOD turn]) ∧
    (∀ x : K, |x| ≤ pi → wrap x = x) ∧
    (∀ x y : K, x ≡ y [PMOD turn] → SameLongitude (wrap x) (wrap y)) ∧
    (∀ x y : K, wrap (wrap x + y) ≡ x + y [PMOD turn] ∧
      SameLongitude (wrap (wrap x + y)) (wrap (x + y))) ∧
    ∀ x lon0 : K, SameLongitude (wrap (lon0 + wrap (x - lon0))) (wrap x) := by
  have hsum (x y : K) : wrap x + y ≡ x + y [PMOD turn] := (wrap_modEq hexact hpi x).add_right y
  have hcentre (x lon0 : K) : lon0 + wrap (x - lon0) ≡ x [PMOD turn] := by
    have h := (wrap_modEq hexact hpi (x - lon0)).add_left lon0
    rwa [add_sub_cancel] at h
  refine ⟨exists_loops hexact hpi, abs_wrap_le hexact hpi, wrap_modEq hexact hpi,
    fun x => wrap_eq_self hexact hpi, fun x y => sameLongitude_wrap hexact hpi, fun x y => ?_,
    fun x lon0 => sameLongitude_wrap hexact hpi (hcentre x lon0)⟩
  exact ⟨(wrap_modEq hexact hpi _).trans (hsum x y), sameLongitude_wrap hexact hpi (hsum x y)⟩

/-- Three quarters of a turn forward are a quarter back, and the other way round. -/
theorem wrap_normalises_threeQuarters :
    Exact.instElementary.toScalar = Exact.instScalar ∧ 0 < Real.pi ∧
      wrap (3 * (Real.pi / 2)) = -(Real.pi / 2) ∧ wrap (-(3 * (Real.pi / 2))) = Real.pi / 2 := by
  obtain ⟨-, -, -, hself, hclass, -, -⟩ := wrap_normalises (K := ℝ) rfl Real.pi_pos
  have hpi := Real.pi_pos
  have hturn : (turn : ℝ) = Real.pi + Real.pi := turn_eq_pi_add_pi rfl
  have hthree : (3 : ℝ) * (Real.pi / 2) = Real.pi + Real.pi / 2 := by
    simp only [Exact.numeral_eq]
    push_cast
    ring
  have hhalf : Real.pi / 2 + Real.pi / 2 = Real.pi := by
    simp only [Exact.numeral_eq]
    push_cast
    ring
  have hquarter : |Real.pi / 2| < Real.pi := by
    rw [abs_of_pos (by linarith)]
    linarith
  have hforward : wrap (-(Real.pi / 2)) = -(Real.pi / 2) :=
    hself _ (by rw [abs_neg]; exact hquarter.le)
  have hback : wrap (Real.pi / 2) = Real.pi / 2 := hself _ hquarter.le
  refine ⟨rfl, hpi, ?_, ?_⟩
  · have hmod : 3 * (Real.pi / 2) ≡ -(Real.pi / 2) [PMOD turn] :=
      AddCommGroup.modEq_iff_zsmul.2 ⟨-1, by rw [hturn, hthree, neg_one_zsmul]; linarith⟩
    rcases hclass _ _ hmod with hequal | ⟨-, hend⟩
    · rw [hequal, hforward]
    · rw [hforward, abs_neg] at hend
      exact absurd hend hquarter.ne
  · have hmod : -(3 * (Real.pi / 2)) ≡ Real.pi / 2 [PMOD turn] :=
      AddCommGroup.modEq_iff_zsmul.2 ⟨1, by rw [hturn, hthree, one_zsmul]; linarith⟩
    rcases hclass _ _ hmod with hequal | ⟨-, hend⟩
    · rw [hequal, hback]
    · rw [hback] at hend
      exact absurd hend hquarter.ne

end Angle

end Graticule
