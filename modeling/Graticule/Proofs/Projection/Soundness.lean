import Graticule.Proofs.Projection.Figure
import Graticule.Proofs.Projection.Regularity

/-!
# Degenerate projections

A text may describe a projection whose formulas divide by zero: nothing that reads it asks for a
radius, a scale or an apex.  What it describes is sound exactly when the figure is proper and the
plan is regular: `Projection.sound_iff_regular`.
-/

namespace Graticule

open Extended (finite)
open Guarded (real value fault IsReal isReal_real)

/-! ## Figures with real parameters -/

namespace Ellipsoid.Figure

open scoped Exact

theorem ellipsoid_map_real {figure : Figure ℝ} (h : figure.IsProper) :
    (figure.map real).ellipsoid = ⟨real figure.ellipsoid.a, real figure.ellipsoid.f⟩ := by
  cases figure with
  | sphere radius =>
    rw [ellipsoid_sphere]
    exact congrArg (Ellipsoid.mk (real radius)) Guarded.zero_eq
  | flattened a rf =>
    rw [ellipsoid_flattened]
    change (⟨real a, if real rf == 0 then 0 else 1 / real rf⟩ : Ellipsoid _) = _
    rw [Guarded.zero_eq, Guarded.one_eq, Guarded.real_beq]
    by_cases hrf : rf = 0
    · rw [if_pos (decide_eq_true hrf), hrf, inv_zero]
    · rw [if_neg (by simpa using hrf), Guarded.real_div _ hrf, one_div]
  | axes a b =>
    change (⟨real a, (real a - real b) / real a⟩ : Ellipsoid _) = _
    rw [ellipsoid_axes, Guarded.real_sub, Guarded.real_div _ h]
  | named m =>
    cases m with
    | wgs84 =>
      change (⟨6378137, 1 / 298.257223563⟩ : Ellipsoid _) = _
      rw [ellipsoid_wgs84, Guarded.ofNat_eq, Guarded.one_eq, Guarded.decimal_eq,
        Guarded.real_div _ (by norm_num)]
      norm_num
    | grs80 =>
      change (⟨6378137, 1 / 298.257222101⟩ : Ellipsoid _) = _
      rw [ellipsoid_grs80, Guarded.ofNat_eq, Guarded.one_eq, Guarded.decimal_eq,
        Guarded.real_div _ (by norm_num)]
      norm_num
    | sphere =>
      change (⟨6370997, 0⟩ : Ellipsoid _) = _
      rw [ellipsoid_normalSphere, Guarded.ofNat_eq, Guarded.zero_eq]

/-- Building the ellipsoid of a figure divides by zero only when the figure is improper. -/
theorem isProper_iff (figure : Figure ℝ) :
    figure.IsProper ↔ ∀ x ∈ (figure.map real).ellipsoid.numbers, IsReal x := by
  constructor
  · intro h
    rw [ellipsoid_map_real h]
    exact Projection.isReal_numbers _ _
  · intro h
    cases figure with
    | axes a b =>
      rintro rfl
      obtain ⟨f, hf⟩ := h ((real 0 - real b) / real 0) (by simp [map, ellipsoid, numbers])
      rw [Guarded.div_zero] at hf
      cases hf
    | _ => exact trivial

end Ellipsoid.Figure

/-! ## Texts with real parameters -/

namespace Written

def ReadsReal [Written (Guarded (Extended ℝ))] : Prop :=
  ∀ (s : String) (x : Guarded (Extended ℝ)), Written.ofText? s = some x → IsReal x

noncomputable abbrev exactly : Written (Guarded (Extended ℝ)) :=
  .reading fun s => (Decimal.real? s).map real

theorem exactly_readsReal : @ReadsReal exactly := by
  intro s x h
  obtain ⟨r, -, rfl⟩ := Option.map_eq_some_iff.1 h
  exact isReal_real r

end Written

theorem Decimal.gives_exactly {d : Definition} {name : String} (value : String) (v : Decimal)
    (hget : d.get? name = some value) (hsign : takeSign value.toList = (false, value.toList))
    (hv : (numeral? value.toList).map (·.value) = some v) :
    let _ := Written.exactly
    d.Gives name (real v.toReal) :=
  ⟨value, hget, congrArg (Option.map real) (real?_eq hsign hv)⟩

namespace Definition

open Mercator (Stretch)
open Projection (Plan)

variable [Written (Guarded (Extended ℝ))] {d : Definition}

section

variable {name : String} {default x : Guarded (Extended ℝ)}

theorem isReal_of_gives (hread : Written.ReadsReal) (h : d.Gives name x) : IsReal x := by
  obtain ⟨value, -, hvalue⟩ := h
  exact hread value x hvalue

theorem isReal_of_reads (hread : Written.ReadsReal) (hdefault : IsReal default)
    (h : d.Reads name default x) : IsReal x := by
  rcases h with h | ⟨-, rfl⟩
  · exact isReal_of_gives hread h
  · exact hdefault

end

theorem exists_real_figure (hread : Written.ReadsReal)
    {figure : Ellipsoid.Figure (Guarded (Extended ℝ))} (h : d.Describes figure) :
    ∃ figure' : Ellipsoid.Figure ℝ, figure'.map real = figure := by
  cases h with
  | radius hR =>
    obtain ⟨r, rfl⟩ := isReal_of_gives hread hR
    exact ⟨.sphere r, rfl⟩
  | flattening _ ha hrf =>
    obtain ⟨a, rfl⟩ := isReal_of_gives hread ha
    obtain ⟨rf, rfl⟩ := isReal_of_gives hread hrf
    exact ⟨.flattened a rf, rfl⟩
  | axes _ ha _ hb =>
    obtain ⟨a, rfl⟩ := isReal_of_gives hread ha
    obtain ⟨b, rfl⟩ := isReal_of_gives hread hb
    exact ⟨.axes a b, rfl⟩
  | axis _ ha _ _ =>
    obtain ⟨a, rfl⟩ := isReal_of_gives hread ha
    exact ⟨.sphere a, rfl⟩
  | @name _ m _ _ _ _ => exact ⟨.named m, rfl⟩
  | standard _ _ _ _ => exact ⟨.named .wgs84, rfl⟩

theorem exists_real_stretch (hread : Written.ReadsReal) {stretch : Stretch (Guarded (Extended ℝ))}
    (h : d.Stretches stretch) : ∃ stretch' : Stretch ℝ, stretch'.map real = stretch := by
  cases h with
  | parallel hlatTs =>
    obtain ⟨latTs, rfl⟩ := isReal_of_gives hread hlatTs
    exact ⟨.ofParallel latTs, rfl⟩
  | factor _ hother hk =>
    obtain ⟨k, rfl⟩ := isReal_of_reads hread (isReal_of_reads hread ⟨1, Guarded.one_eq⟩ hother) hk
    exact ⟨.factor k, rfl⟩

theorem exists_real_plan (hread : Written.ReadsReal) {plan : Plan (Guarded (Extended ℝ))}
    (h : d.Plans plan) : ∃ plan' : Plan ℝ, plan'.map real = plan := by
  have hzero : IsReal (0 : Guarded (Extended ℝ)) := ⟨0, Guarded.zero_eq⟩
  cases h with
  | longLat _ _ => exact ⟨.longLat, rfl⟩
  | mercator _ hstretch hlon0 hx hy =>
    obtain ⟨stretch, rfl⟩ := exists_real_stretch hread hstretch
    obtain ⟨lon0, rfl⟩ := isReal_of_reads hread hzero hlon0
    obtain ⟨x, rfl⟩ := isReal_of_reads hread hzero hx
    obtain ⟨y, rfl⟩ := isReal_of_reads hread hzero hy
    exact ⟨.mercator stretch lon0 x y, rfl⟩
  | polarStereographic _ hlat0 _ hlatTs hlon0 hx hy =>
    obtain ⟨lat0, rfl⟩ := isReal_of_reads hread ⟨90, Guarded.ofNat_eq 90⟩ hlat0
    obtain ⟨latTs, rfl⟩ := isReal_of_reads hread (isReal_real lat0) hlatTs
    obtain ⟨lon0, rfl⟩ := isReal_of_reads hread hzero hlon0
    obtain ⟨x, rfl⟩ := isReal_of_reads hread hzero hx
    obtain ⟨y, rfl⟩ := isReal_of_reads hread hzero hy
    exact ⟨.polarStereographic lat0 latTs lon0 x y, rfl⟩
  | lambertConformal _ hlat1 hlat2 hlat0 hlon0 hx hy =>
    obtain ⟨lat1, rfl⟩ := isReal_of_gives hread hlat1
    obtain ⟨lat2, rfl⟩ := isReal_of_reads hread (isReal_real lat1) hlat2
    obtain ⟨lat0, rfl⟩ := isReal_of_reads hread (isReal_real lat1) hlat0
    obtain ⟨lon0, rfl⟩ := isReal_of_reads hread hzero hlon0
    obtain ⟨x, rfl⟩ := isReal_of_reads hread hzero hx
    obtain ⟨y, rfl⟩ := isReal_of_reads hread hzero hy
    exact ⟨.lambertConformal lat0 lon0 lat1 lat2 x y, rfl⟩

end Definition

namespace Projection

open scoped Exact

/-- Whatever a text describes can be used where it is sound.  Where its parameters are real it is
sound exactly when the figure is proper and the plan is regular, which nothing that reads it asks
for. -/
theorem sound_iff_regular [Written (Guarded (Extended ℝ))] {s : String}
    {p : Projection (Guarded (Extended ℝ))} (h : ofText s = .ok p) :
    ∃ e, (Definition.ofText s).ellipsoid = .ok e ∧ (IsSound e p → IsUsable p) ∧
      (Written.ReadsReal → ∃ (figure : Ellipsoid.Figure ℝ) (plan : Plan ℝ),
        (Definition.ofText s).Describes (figure.map real) ∧
          (Definition.ofText s).Plans (plan.map real)) ∧
      ∀ (figure : Ellipsoid.Figure ℝ) (plan : Plan ℝ),
        (Definition.ofText s).Describes (figure.map real) →
          (Definition.ofText s).Plans (plan.map real) → plan.IsWithin →
            (IsSound e p ↔ figure.IsProper ∧ plan.IsRegular figure.ellipsoid) := by
  obtain ⟨figure, plan, hfigure, hplan, rfl⟩ := ofText_eq_ok_iff.1 h
  have he := Definition.ellipsoid_of_describes hfigure
  refine ⟨figure.ellipsoid, he, Plan.isUsable_of_isSound, ?_, ?_⟩
  · intro hread
    obtain ⟨figure, rfl⟩ := Definition.exists_real_figure hread hfigure
    obtain ⟨plan, rfl⟩ := Definition.exists_real_plan hread hplan
    exact ⟨figure, plan, hfigure, hplan⟩
  · intro figure' plan' hfigure' hplan' hwithin
    have heq := Except.ok.inj (he.symm.trans (Definition.ellipsoid_of_describes hfigure'))
    have hread := ofText_eq_ok_iff.2 ⟨_, _, hfigure', hplan', rfl⟩
    rw [Except.ok.inj (h.symm.trans hread), heq]
    constructor
    · intro hsound
      have hproper := (Ellipsoid.Figure.isProper_iff figure').2 hsound.ellipsoid
      rw [Ellipsoid.Figure.ellipsoid_map_real hproper] at hsound
      exact ⟨hproper, (Plan.isSound_iff hwithin).1 hsound⟩
    · rintro ⟨hproper, hregular⟩
      rw [Ellipsoid.Figure.ellipsoid_map_real hproper]
      exact (Plan.isSound_iff hwithin).2 hregular

/-- A cone around one parallel of a sphere. -/
theorem sound_iff_regular_cone :
    let _ := Written.exactly
    let s := "+proj=lcc +lat_1=30 +R=6371000"
    ∃ p e, ofText s = .ok p ∧ (Definition.ofText s).ellipsoid = .ok e ∧ IsSound e p ∧
      IsUsable p ∧ ∃ (figure : Ellipsoid.Figure ℝ) (plan : Plan ℝ),
        (Definition.ofText s).Describes (figure.map real) ∧
          (Definition.ofText s).Plans (plan.map real) := by
  intro _ s
  set d := Definition.ofText s with hd
  have hzero {name : String} (h : d.Lacks name) : d.Reads name 0 (real 0) :=
    .inr ⟨h, Guarded.zero_eq.symm⟩
  obtain ⟨radius, hR⟩ : ∃ radius, d.Gives "R" (real radius) :=
    ⟨_, Decimal.gives_exactly "6371000" ⟨6371000, 0⟩ (by decide +kernel) rfl rfl⟩
  obtain ⟨lat1, hlat1, hthirty⟩ : ∃ lat1, d.Gives "lat_1" (real lat1) ∧ lat1 = 30 :=
    ⟨_, Decimal.gives_exactly "30" ⟨30, 0⟩ (by decide +kernel) rfl rfl,
      by norm_num [Decimal.toReal]⟩
  have hfigure : d.Describes ((Ellipsoid.Figure.sphere radius).map real) := .radius hR
  have hplan : d.Plans ((Plan.lambertConformal lat1 0 lat1 lat1 0 0).map real) :=
    .lambertConformal (by decide +kernel) hlat1 (.inr ⟨by decide +kernel, rfl⟩)
      (.inr ⟨by decide +kernel, rfl⟩) (hzero (by decide +kernel)) (hzero (by decide +kernel))
      (hzero (by decide +kernel))
  have hlatitude : |lat1| < 90 := by
    rw [hthirty]
    norm_num [abs_of_pos]
  have hcone : LambertConformal.HasCone lat1 lat1 := by
    unfold LambertConformal.HasCone
    rw [sub_self, abs_zero, if_pos (by norm_num), hthirty]
    norm_num
  have hpole : lat1 ≠ 90 ∧ lat1 ≠ -90 := by
    rw [hthirty]
    norm_num
  have hread := ofText_eq_ok_iff.2 ⟨_, _, hfigure, hplan, rfl⟩
  obtain ⟨e, he, husable, hreal, hsound⟩ := sound_iff_regular hread
  have hregular := (hsound _ _ hfigure hplan
    ⟨hlatitude.le, hlatitude, hlatitude, fun h => absurd h hpole.1⟩).2
      ⟨trivial, hcone, fun h => absurd h hpole.2⟩
  exact ⟨_, e, hread, he, hregular, husable hregular, hreal Written.exactly_readsReal⟩

/-- A cylinder without a scale is read, and the way back from its plane divides by zero. -/
theorem not_sound_without_scale :
    let _ := Written.exactly
    ∃ p : Projection (Guarded (Extended ℝ)), ofText "+proj=merc +R=1 +k=0" = .ok p ∧
      real 0 ∈ p.divisors ∧ (p.inverse ⟨real 0, real 0⟩).x = fault := by
  intro _
  set d := Definition.ofText "+proj=merc +R=1 +k=0" with hd
  have hdefault {name : String} {x : Guarded (Extended ℝ)} (h : d.Lacks name) :
      d.Reads name x x := .inr ⟨h, rfl⟩
  obtain ⟨radius, hR⟩ : ∃ radius, d.Gives "R" (real radius) :=
    ⟨_, Decimal.gives_exactly "1" ⟨1, 0⟩ (by decide +kernel) rfl rfl⟩
  obtain ⟨k, hk, hnone⟩ : ∃ k, d.Gives "k" (real k) ∧ k = 0 :=
    ⟨_, Decimal.gives_exactly "0" ⟨0, 0⟩ (by decide +kernel) rfl rfl,
      by norm_num [Decimal.toReal]⟩
  have hplan : d.Plans (.mercator (.factor (real k)) 0 0 0) :=
    .mercator (by decide +kernel)
      (.factor (by decide +kernel) (hdefault (by decide +kernel)) (.inl hk))
      (hdefault (by decide +kernel)) (hdefault (by decide +kernel)) (hdefault (by decide +kernel))
  have hscale : real radius * real k = real 0 := by
    rw [hnone, Guarded.real_mul, mul_zero]
  refine ⟨_, ofText_eq_ok_iff.2 ⟨_, _, .radius hR, hplan, rfl⟩, ?_, ?_⟩
  · exact List.mem_singleton.2 hscale.symm
  · change Angle.degrees (Angle.wrap (Angle.radians 0 + (real 0 - 0) / (real radius * real k))) =
      fault
    rw [hscale, Guarded.div_zero, Guarded.add_fault, Angle.wrap_fault]
    exact Guarded.fault_mul _

end Projection

end Graticule
