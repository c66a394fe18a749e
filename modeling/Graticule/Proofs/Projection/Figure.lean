import Graticule.Proofs.Crs.Definition
import Graticule.Proofs.Projection.Description
import Graticule.Proofs.Scalar.Real

/-!
# The described figure of the globe

A figure of the globe fits one ellipsoid, unless it gives an equator without extent another polar
radius.  Over the reals every method but the conic one projects the ellipsoid that fits the described
figure.  The conic one is that of a sphere: it takes any figure and keeps its equatorial radius, so
the figure fits only if it is round: `Crs.fits_described_figure`.
-/

namespace Graticule

open scoped Exact

/-! ## Exact readings -/

/-- Scalars that are read by a function; how one is written is left open. -/
abbrev Written.reading {α : Type} (read : String → Option α) : Written α := ⟨fun _ => "", read⟩

namespace Decimal

noncomputable def toReal (v : Decimal) : ℝ := v.digits * 10 ^ v.exponent

/-- The real number that a decimal text writes, which a machine number rounds. -/
noncomputable def real? (s : String) : Option ℝ :=
  let (negative, cs) := takeSign s.toList
  (numeral? cs).map fun n => if negative then -n.value.toReal else n.value.toReal

theorem real?_eq {s : String} {v : Decimal} (hsign : takeSign s.toList = (false, s.toList))
    (hv : (numeral? s.toList).map (·.value) = some v) : real? s = some v.toReal := by
  obtain ⟨n, hn, rfl⟩ := Option.map_eq_some_iff.1 hv
  unfold real?
  rw [hsign]
  simp [hn]

theorem gives_real {d : Definition} {name : String} (value : String) (v : Decimal)
    (hget : d.get? name = some value) (hsign : takeSign value.toList = (false, value.toList))
    (hv : (numeral? value.toList).map (·.value) = some v) :
    let _ : Written ℝ := .reading real?
    d.Gives name v.toReal :=
  ⟨value, hget, real?_eq hsign hv⟩

end Decimal

/-! ## Fitting ellipsoids -/

namespace Ellipsoid.Figure

/-- The ellipsoid has the radii and the reciprocal of the flattening that the figure gives. -/
def Fits : Figure ℝ → Ellipsoid ℝ → Prop
  | sphere radius, e => e.a = radius ∧ e.b = radius ∧ e.inverseFlattening = 0
  | flattened a rf, e => e.a = a ∧ e.inverseFlattening = rf
  | axes a b, e => e.a = a ∧ e.b = b
  | named .wgs84, e => e.a = 6378137 ∧ e.inverseFlattening = 298.257223563
  | named .grs80, e => e.a = 6378137 ∧ e.inverseFlattening = 298.257222101
  | named .sphere, e => e.a = 6370997 ∧ e.b = 6370997 ∧ e.inverseFlattening = 0

/-- Two radii are those of an ellipsoid unless the equator has no extent. -/
def IsProper : Figure ℝ → Prop
  | axes a _ => a ≠ 0
  | _ => True

def IsRound : Figure ℝ → Prop
  | sphere _ => True
  | flattened _ rf => rf = 0
  | axes a b => a = b
  | named m => m = .sphere

end Ellipsoid.Figure

namespace Ellipsoid

theorem ext {e e' : Ellipsoid ℝ} (ha : e.a = e'.a) (hf : e.f = e'.f) : e = e' := by
  cases e
  cases e'
  simp_all

theorem b_eq (e : Ellipsoid ℝ) : e.b = e.a * (1 - e.f) := by
  unfold b
  rw [Exact.numeral_eq, Nat.cast_one]

theorem inverseFlattening_eq_inv (e : Ellipsoid ℝ) : e.inverseFlattening = e.f⁻¹ := by
  unfold inverseFlattening
  simp only [Exact.numeral_eq, Nat.cast_zero, Nat.cast_one, beq_iff_eq, one_div]
  split_ifs with hf
  · rw [hf, inv_zero]
  · rfl

namespace Figure

theorem ellipsoid_sphere (radius : ℝ) : (sphere radius).ellipsoid = ⟨radius, 0⟩ :=
  congrArg (Ellipsoid.mk radius) Nat.cast_zero

theorem ellipsoid_flattened (a rf : ℝ) : (flattened a rf).ellipsoid = ⟨a, rf⁻¹⟩ :=
  congrArg (Ellipsoid.mk a) (inverseFlattening_eq_inv ⟨a, rf⟩)

theorem ellipsoid_axes (a b : ℝ) : (axes a b).ellipsoid = ⟨a, (a - b) / a⟩ := rfl

theorem ellipsoid_wgs84 : (named .wgs84 : Figure ℝ).ellipsoid = ⟨6378137, 298.257223563⁻¹⟩ := by
  change (⟨_, _⟩ : Ellipsoid ℝ) = _
  rw [Exact.numeral_eq, Exact.decimal_eq, Exact.numeral_eq]
  norm_num

theorem ellipsoid_grs80 : (named .grs80 : Figure ℝ).ellipsoid = ⟨6378137, 298.257222101⁻¹⟩ := by
  change (⟨_, _⟩ : Ellipsoid ℝ) = _
  rw [Exact.numeral_eq, Exact.decimal_eq, Exact.numeral_eq]
  norm_num

theorem ellipsoid_normalSphere : (named .sphere : Figure ℝ).ellipsoid = ⟨6370997, 0⟩ := by
  change (⟨_, _⟩ : Ellipsoid ℝ) = _
  rw [Exact.numeral_eq, Exact.numeral_eq]
  norm_num

/-- An equatorial radius and the reciprocal of a flattening fix an ellipsoid. -/
theorem fits_flattening_iff {e : Ellipsoid ℝ} {a rf : ℝ} :
    (e.a = a ∧ e.inverseFlattening = rf) ↔ e = ⟨a, rf⁻¹⟩ := by
  rw [inverseFlattening_eq_inv]
  constructor
  · rintro ⟨ha, hrf⟩
    exact Ellipsoid.ext ha (inv_eq_iff_eq_inv.1 hrf)
  · rintro rfl
    exact ⟨rfl, inv_inv rf⟩

theorem fits_sphere_iff {e : Ellipsoid ℝ} {radius : ℝ} :
    (e.a = radius ∧ e.b = radius ∧ e.inverseFlattening = 0) ↔ e = ⟨radius, 0⟩ := by
  rw [b_eq, inverseFlattening_eq_inv, inv_eq_zero]
  constructor
  · rintro ⟨ha, -, hf⟩
    exact Ellipsoid.ext ha hf
  · rintro rfl
    exact ⟨rfl, by rw [sub_zero, mul_one], rfl⟩

theorem fits_axes_iff {e : Ellipsoid ℝ} {a b : ℝ} (ha : a ≠ 0) :
    (e.a = a ∧ e.b = b) ↔ e = ⟨a, (a - b) / a⟩ := by
  rw [b_eq]
  constructor
  · rintro ⟨rfl, rfl⟩
    refine Ellipsoid.ext rfl ?_
    field_simp
    ring
  · rintro rfl
    refine ⟨rfl, ?_⟩
    field_simp
    ring

/-- A proper figure fits one ellipsoid. -/
theorem fits_iff {figure : Figure ℝ} (h : figure.IsProper) {e : Ellipsoid ℝ} :
    figure.Fits e ↔ e = figure.ellipsoid := by
  cases figure with
  | sphere radius =>
    rw [ellipsoid_sphere]
    exact fits_sphere_iff
  | flattened a rf =>
    rw [ellipsoid_flattened]
    exact fits_flattening_iff
  | axes a b =>
    rw [ellipsoid_axes]
    exact fits_axes_iff h
  | named m =>
    cases m with
    | wgs84 =>
      rw [ellipsoid_wgs84]
      exact fits_flattening_iff
    | grs80 =>
      rw [ellipsoid_grs80]
      exact fits_flattening_iff
    | sphere =>
      rw [ellipsoid_normalSphere]
      exact fits_sphere_iff

theorem flattening_eq_zero_iff {figure : Figure ℝ} (h : figure.IsProper) :
    figure.ellipsoid.f = 0 ↔ figure.IsRound := by
  cases figure with
  | sphere radius => simp [ellipsoid_sphere, IsRound]
  | flattened a rf => simp [ellipsoid_flattened, IsRound]
  | axes a b =>
    have ha : a ≠ 0 := h
    simp [ellipsoid_axes, IsRound, ha, sub_eq_zero]
  | named m =>
    cases m with
    | wgs84 => exact iff_of_false (by norm_num [ellipsoid_wgs84]) nofun
    | grs80 => exact iff_of_false (by norm_num [ellipsoid_grs80]) nofun
    | sphere => simp [ellipsoid_normalSphere, IsRound]

/-- The sphere of the equator has the figure if that is round. -/
theorem fits_equator_sphere_iff {figure : Figure ℝ} (h : figure.IsProper) :
    figure.Fits (.sphere figure.ellipsoid.a) ↔ figure.IsRound := by
  have hsphere (a : ℝ) : Ellipsoid.sphere a = ⟨a, 0⟩ := ellipsoid_sphere a
  rw [fits_iff h, ← flattening_eq_zero_iff h, hsphere]
  constructor
  · intro heq
    rw [← heq]
  · intro hf
    exact Ellipsoid.ext rfl hf.symm

end Figure

end Ellipsoid

namespace Projection


namespace Plan

theorem ellipsoid_projection {plan : Plan ℝ} {e : Ellipsoid ℝ}
    (h : (plan.projection e).method ≠ "lcc") : (plan.projection e).ellipsoid = e := by
  cases plan with
  | lambertConformal lat0 lon0 lat1 lat2 falseEasting falseNorthing => exact absurd rfl h
  | _ => rfl

/-- Only the conic method is called so, and it keeps nothing of the ellipsoid but its equator. -/
theorem ellipsoid_projection_cone {plan : Plan ℝ} {e : Ellipsoid ℝ}
    (h : (plan.projection e).method = "lcc") : (plan.projection e).ellipsoid = .sphere e.a := by
  cases plan with
  | lambertConformal lat0 lon0 lat1 lat2 falseEasting falseNorthing => rfl
  | longLat => exact absurd h (by decide : "longlat" ≠ "lcc")
  | mercator stretch lon0 falseEasting falseNorthing =>
    exact absurd h (by decide : "merc" ≠ "lcc")
  | polarStereographic lat0 latTs lon0 falseEasting falseNorthing =>
    exact absurd h (by decide : "stere" ≠ "lcc")

end Plan

/-- The projection computes on the ellipsoid of the figure, but for a cone, which keeps the
equator. -/
structure Keeps (p : Projection ℝ) (plan : Plan ℝ) (figure : Ellipsoid.Figure ℝ) : Prop where
  computed : ∃ e, plan.projection e = p ∧ ∀ e', figure.Fits e' ↔ e' = e
  fits : p.method ≠ "lcc" → figure.Fits p.ellipsoid
  equator : p.method = "lcc" → ∀ e, figure.Fits e → p.ellipsoid = .sphere e.a
  fits_cone : p.method = "lcc" → (figure.Fits p.ellipsoid ↔ figure.IsRound)

theorem keeps_projection (plan : Plan ℝ) {figure : Ellipsoid.Figure ℝ} (h : figure.IsProper) :
    Keeps (plan.projection figure.ellipsoid) plan figure := by
  constructor
  case computed => exact ⟨figure.ellipsoid, rfl, fun e' => Ellipsoid.Figure.fits_iff h⟩
  case fits =>
    intro hmethod
    rw [Plan.ellipsoid_projection hmethod, Ellipsoid.Figure.fits_iff h]
  case equator =>
    intro hmethod e he
    rw [Plan.ellipsoid_projection_cone hmethod, (Ellipsoid.Figure.fits_iff h).1 he]
  case fits_cone =>
    intro hmethod
    rw [Plan.ellipsoid_projection_cone hmethod, Ellipsoid.Figure.fits_equator_sphere_iff h]

end Projection

/-- A definition without a code has the projection that its text, without the blanks around it,
describes. -/
theorem CrsDefinition.projection_of_ofText {α : Type} [Elementary α] [Written α] {s : String}
    {d : CrsDefinition α} (h : ofText s = .ok d) (hcode : d.code = none) :
    Projection.ofText (String.ofList (Text.trim s.toList)) = .ok d.projection := by
  have hregistered {code : Nat} (h : registered s code = .ok d) : False := by
    unfold registered at h
    split at h
    · cases h
      cases hcode
    · cases h
  unfold ofText at h
  cases hauthority : authorityCode? (Text.trim s.toList) with
  | some code =>
    simp only [hauthority] at h
    exact (hregistered h).elim
  | none =>
    simp only [hauthority] at h
    split_ifs at h with hdescribed hknown
    · split at h
      · rename_i p hp
        cases h
        exact hp
      · cases h
    · split at h
      · exact (hregistered h).elim
      · cases h

namespace Crs

/-- A projection is read only from a text that describes a figure of the globe and plans a method,
and unless the figure is improper it keeps that figure as far as the method can; so does the system
that a text identifies. -/
theorem fits_described_figure [Written ℝ] :
    (∀ (s : String) (p : Projection ℝ), Projection.ofText s = .ok p →
      (∃ (figure : Ellipsoid.Figure ℝ) (plan : Projection.Plan ℝ),
        (Definition.ofText s).Describes figure ∧ (Definition.ofText s).Plans plan) ∧
      ∀ (figure : Ellipsoid.Figure ℝ) (plan : Projection.Plan ℝ),
        (Definition.ofText s).Describes figure → (Definition.ofText s).Plans plan →
          figure.IsProper → p.Keeps plan figure) ∧
    ∀ (s : String) (c : Crs ℝ), ofText s = .ok c → c.code = none →
      Projection.ofText (String.ofList (Text.trim s.toList)) = .ok c.projection := by
  refine ⟨fun s p h => ⟨?_, ?_⟩, fun s c h => CrsDefinition.projection_of_ofText (ofText_eq_ok_iff.1 h).1⟩
  · obtain ⟨figure, plan, hfigure, hplan, -⟩ := Projection.ofText_eq_ok_iff.1 h
    exact ⟨figure, plan, hfigure, hplan⟩
  · intro figure plan hfigure hplan hproper
    have hread := Projection.ofText_eq_ok_iff.2 ⟨figure, plan, hfigure, hplan, rfl⟩
    rw [Except.ok.inj (h.symm.trans hread)]
    exact Projection.keeps_projection plan hproper

/-- A cylinder around an ellipsoid with two radii. -/
theorem fits_described_figure_axes :
    let _ : Written ℝ := .reading Decimal.real?
    ∃ p : Projection ℝ, Projection.ofText "+proj=merc +a=6378137 +b=6356752" = .ok p ∧
      p.ellipsoid.a = 6378137 ∧ p.ellipsoid.b = 6356752 := by
  intro _
  set d := Definition.ofText "+proj=merc +a=6378137 +b=6356752" with hd
  have hdefault {name : String} {x : ℝ} (h : d.Lacks name) : d.Reads name x x := .inr ⟨h, rfl⟩
  obtain ⟨a, ha, haxis⟩ : ∃ a : ℝ, d.Gives "a" a ∧ a = 6378137 :=
    ⟨_, Decimal.gives_real "6378137" ⟨6378137, 0⟩ (by decide +kernel) rfl rfl,
      by norm_num [Decimal.toReal]⟩
  obtain ⟨b, hb, hpolar⟩ : ∃ b : ℝ, d.Gives "b" b ∧ b = 6356752 :=
    ⟨_, Decimal.gives_real "6356752" ⟨6356752, 0⟩ (by decide +kernel) rfl rfl,
      by norm_num [Decimal.toReal]⟩
  have hfigure : d.Describes (.axes a b) := .axes (by decide +kernel) ha (by decide +kernel) hb
  obtain ⟨plan, hplan, hmethod⟩ : ∃ plan : Projection.Plan ℝ, d.Plans plan ∧
      (plan.projection (Ellipsoid.Figure.axes a b).ellipsoid).method = "merc" :=
    ⟨_, .mercator (by decide +kernel)
      (.factor (by decide +kernel) (hdefault (by decide +kernel)) (hdefault (by decide +kernel)))
      (hdefault (by decide +kernel)) (hdefault (by decide +kernel)) (hdefault (by decide +kernel)),
      rfl⟩
  have hread := Projection.ofText_eq_ok_iff.2 ⟨_, plan, hfigure, hplan, rfl⟩
  have hproper : (Ellipsoid.Figure.axes a b).IsProper := by
    change a ≠ 0
    rw [haxis]
    norm_num
  have hkeeps := (fits_described_figure.1 _ _ hread).2 _ plan hfigure hplan hproper
  obtain ⟨hequator, hpole⟩ := hkeeps.fits (by rw [hmethod]; decide)
  exact ⟨_, hread, hequator.trans haxis, hpole.trans hpolar⟩

/-- A cone is read for a figure that is not round, and it does not have that figure. -/
theorem not_fits_described_figure_cone :
    let _ : Written ℝ := .reading Decimal.real?
    let s := "+proj=lcc +lat_1=30 +ellps=WGS84"
    ∃ p : Projection ℝ, Projection.ofText s = .ok p ∧
      (Definition.ofText s).Describes (.named .wgs84 : Ellipsoid.Figure ℝ) ∧
        p.ellipsoid.inverseFlattening = 0 ∧
          ¬(Ellipsoid.Figure.named .wgs84).Fits p.ellipsoid := by
  intro _ s
  set d := Definition.ofText s with hd
  have hdefault {name : String} {x : ℝ} (h : d.Lacks name) : d.Reads name x x := .inr ⟨h, rfl⟩
  have hfigure : d.Describes (.named .wgs84 : Ellipsoid.Figure ℝ) :=
    .name (by decide +kernel) (by decide +kernel)
      (by decide +kernel : (d.get? "ellps" <|> d.get? "datum") = some "WGS84") (by decide +kernel)
  have hlat1 : d.Gives "lat_1" (⟨30, 0⟩ : Decimal).toReal :=
    Decimal.gives_real "30" ⟨30, 0⟩ (by decide +kernel) rfl rfl
  have hplan := Definition.Plans.lambertConformal (by decide +kernel : d.get? "proj" = some "lcc")
    hlat1 (hdefault (by decide +kernel)) (hdefault (by decide +kernel))
    (hdefault (by decide +kernel)) (hdefault (by decide +kernel)) (hdefault (by decide +kernel))
  have hsphere (radius : ℝ) : (Ellipsoid.sphere radius).inverseFlattening = 0 := by
    rw [Ellipsoid.inverseFlattening_eq_inv]
    exact inv_eq_zero.2 Nat.cast_zero
  refine ⟨_, Projection.ofText_eq_ok_iff.2 ⟨_, _, hfigure, hplan, rfl⟩, hfigure, hsphere _, ?_⟩
  rintro ⟨-, hflattening⟩
  have hzero := (hsphere _).symm.trans hflattening
  norm_num at hzero

end Crs

end Graticule
