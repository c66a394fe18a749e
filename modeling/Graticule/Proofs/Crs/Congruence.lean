import Graticule.Geometry.Basic
import Graticule.Geometry.ReprojectOptions
import Graticule.Grid.Lattice
import Graticule.Proofs.Crs.Equality
import Graticule.Proofs.Scalar.Real

/-!
# Equal systems in place of one another

Equal systems have projections that are equal but for the signs of zeros.  So they agree in all that
is read off a projection, and one may take the place of the other wherever systems are compared.
What a projection does with a point can depend on the sign of a zero, as it divides by its scale.
-/

namespace Graticule

/-! ## The ellipsoids of equal projections -/

namespace Ellipsoid

variable {e e' : Ellipsoid Float}

theorem agree_b (ha : (e.a == e'.a) = true) (hf : (e.f == e'.f) = true) :
    Scalar.Agree e.b e'.b := by
  have hratio : 1 - e.f = 1 - e'.f := Binary64.apply_eq_of_beq (f := (1 - ·)) (by decide +kernel) hf
  have hb : e'.b = e'.a * (1 - e.f) := by
    rw [hratio]
    rfl
  rw [hb]
  exact Binary64.agree_mul ha _

theorem inverseFlattening_eq (hf : (e.f == e'.f) = true) :
    e.inverseFlattening = e'.inverseFlattening :=
  Binary64.apply_eq_of_beq (f := fun x => if x == 0 then 0 else 1 / x) (by decide +kernel) hf

end Ellipsoid

/-! ## Checks -/

theorem Geometry.isOk_checkCrs {g h : Geometry Float} :
    (g.checkCrs h).isOk = (g.crs == h.crs) := by
  unfold checkCrs
  cases g.crs == h.crs <;> rfl

namespace Grid

def withCrs (g : Grid Float) (c : Crs Float) : Grid Float := { g with crs := c }

theorem toOption_pixelBox_withCrs {a b : Crs Float} {g r : Grid Float}
    (h : (r.crs == a) = (r.crs == b)) :
    ((g.withCrs a).pixelBox r).toOption = ((g.withCrs b).pixelBox r).toOption := by
  by_cases hb : (r.crs == b) = true
  · simp only [pixelBox, withCrs, h, hb, Bool.not_true, Bool.false_eq_true, if_false]
    rfl
  · simp only [pixelBox, withCrs, h, hb]
    rfl

theorem toOption_pixelBox_reference {a b : Crs Float} {g r : Grid Float}
    (h : (a == g.crs) = (b == g.crs)) :
    (g.pixelBox (r.withCrs a)).toOption = (g.pixelBox (r.withCrs b)).toOption := by
  by_cases hb : (b == g.crs) = true
  · simp only [pixelBox, withCrs, h, hb, Bool.not_true, Bool.false_eq_true, if_false]
  · simp only [pixelBox, withCrs, h, hb]
    rfl

end Grid

namespace Crs

/-- Two systems agree in what is read off them, and one may take the place of the other. -/
structure AgreesWith (a b : Crs Float) : Prop where
  projection : a.projection = b.projection ∨ (a.projection == b.projection) = true
  isGeographic : a.isGeographic = b.isGeographic
  dimensions : a.dimensions = b.dimensions
  units : a.units = b.units
  equatorialRadius : Scalar.Agree a.projection.ellipsoid.a b.projection.ellipsoid.a
  polarRadius : Scalar.Agree a.projection.ellipsoid.b b.projection.ellipsoid.b
  inverseFlattening :
    a.projection.ellipsoid.inverseFlattening = b.projection.ellipsoid.inverseFlattening
  resolutionFor : ∀ options : ReprojectOptions Float,
    options.resolutionFor a = options.resolutionFor b
  /-- Equality with any other system, which may be missing. -/
  sameTest : ∀ c : Option (Crs Float), (∀ d ∈ c, d.IsFound) →
    (some a == c) = (some b == c) ∧ (c == some a) = (c == some b)
  /-- The check of two geometries. -/
  checkCrs : ∀ g h : Geometry Float, (∀ c ∈ h.crs, c.IsFound) →
    ((g.withCrs (some a)).checkCrs h).isOk = ((g.withCrs (some b)).checkCrs h).isOk ∧
      (h.checkCrs (g.withCrs (some a))).isOk = (h.checkCrs (g.withCrs (some b))).isOk
  /-- The check of two grids. -/
  pixelBox : ∀ g h : Grid Float, h.crs.IsFound →
    ((g.withCrs a).pixelBox h).toOption = ((g.withCrs b).pixelBox h).toOption ∧
      (h.pixelBox (g.withCrs a)).toOption = (h.pixelBox (g.withCrs b)).toOption
  /-- Passages from and to any other system, if zeros have the same signs. -/
  transformerTo :
    a.projection.formulaNumbers.map Scalar.sign = b.projection.formulaNumbers.map Scalar.sign →
      ∀ (c : Crs Float) (p : Position Float),
        (a.transformerTo c).apply p = (b.transformerTo c).apply p ∧
          (c.transformerTo a).apply p = (c.transformerTo b).apply p

theorem IsFound.projection_of_beq {α : Type} [Elementary α] [Written α] {a b : Crs α}
    (ha : a.IsFound) (hb : b.IsFound) (h : (a == b) = true) :
    a.projection = b.projection ∨ (a.projection == b.projection) = true := by
  obtain hshared | ⟨n, hna, hnb⟩ | ⟨-, hprojection⟩ := beq_cases h
  · exact .inl (by rw [ha.eq_of_isSharedWith hb hshared])
  · exact .inl (ha.projection_eq_of_code hb hna hnb)
  · exact .inr hprojection

theorem IsFound.beq_congr {a b c : Crs Float} (ha : a.IsFound) (hb : b.IsFound) (hc : c.IsFound)
    (h : (a == b) = true) : (a == c) = (b == c) ∧ (c == a) = (c == b) := by
  constructor
  · exact Bool.eq_iff_iff.2
      ⟨fun hac => hb.beq_trans ha hc (beq_symm h) hac, fun hbc => ha.beq_trans hb hc h hbc⟩
  · exact Bool.eq_iff_iff.2
      ⟨fun hca => hc.beq_trans ha hb hca h, fun hcb => hc.beq_trans hb ha hcb (beq_symm h)⟩

theorem IsFound.agreesWith {a b : Crs Float} (ha : a.IsFound) (hb : b.IsFound)
    (h : (a == b) = true) : a.AgreesWith b := by
  have hprojection := ha.projection_of_beq hb h
  have hshape : a.projection.shape = b.projection.shape := by
    rcases hprojection with heq | hbeq
    · rw [heq]
    · exact (Projection.beq_iff_numbers.1 hbeq).1
  have hgeographic : a.isGeographic = b.isGeographic :=
    Projection.isGeographic_eq_of_shape hshape
  have hcongr {c : Crs Float} (hc : c.IsFound) := ha.beq_congr hb hc h
  have hoption {c : Option (Crs Float)} (hc : ∀ d ∈ c, d.IsFound) :
      (some a == c) = (some b == c) ∧ (c == some a) = (c == some b) := by
    cases c with
    | none => exact ⟨rfl, rfl⟩
    | some d => exact hcongr (hc d rfl)
  exact {
    projection := hprojection
    isGeographic := hgeographic
    dimensions := by
      unfold dimensions
      rw [hgeographic]
    units := by
      have haxis : a.projection.axisUnit = b.projection.axisUnit := by
        unfold Projection.axisUnit
        rw [Projection.isGeographic_eq_of_shape hshape]
      unfold units
      rw [hgeographic, haxis]
    equatorialRadius := hprojection.imp (congrArg fun p : Projection Float => p.ellipsoid.a)
      fun hbeq => (Projection.ellipsoid_beq hbeq).1
    polarRadius := by
      rcases hprojection with heq | hbeq
      · exact .inl (by rw [heq])
      · exact Ellipsoid.agree_b (Projection.ellipsoid_beq hbeq).1 (Projection.ellipsoid_beq hbeq).2
    inverseFlattening := by
      rcases hprojection with heq | hbeq
      · rw [heq]
      · exact Ellipsoid.inverseFlattening_eq (Projection.ellipsoid_beq hbeq).2
    resolutionFor := by
      intro options
      unfold ReprojectOptions.resolutionFor
      rw [hgeographic]
    sameTest := fun c hc => hoption hc
    checkCrs := by
      intro g g' hfound
      simp only [Geometry.isOk_checkCrs]
      exact hoption hfound
    pixelBox := fun g g' hfound => ⟨Grid.toOption_pixelBox_withCrs (hcongr hfound).2,
      Grid.toOption_pixelBox_reference (hcongr hfound).1⟩
    transformerTo := by
      -- equal by the test and with the same signs of zeros, the numbers are the same
      intro hsigns c p
      have hformulas : a.projection.forward = b.projection.forward ∧
          a.projection.inverse = b.projection.inverse := by
        rcases hprojection with heq | hbeq
        · rw [heq]
          exact ⟨rfl, rfl⟩
        · exact Projection.forward_inverse_eq_of_beq hbeq hsigns
      unfold Crs.transformerTo Transformer.apply
      rw [hformulas.1, hformulas.2]
      exact ⟨rfl, rfl⟩ }

/-- Where there is one zero equal systems have the same projection. -/
theorem IsFound.projection_eq_of_beq {α : Type} [Elementary α] [Written α] [Scalar.OneZero α]
    {a b : Crs α} (ha : a.IsFound) (hb : b.IsFound) (h : (a == b) = true) :
    a.projection = b.projection :=
  (ha.projection_of_beq hb h).elim id Projection.eq_of_beq

/-- Equality is an equivalence on the systems that texts identify, and equal ones agree.  Over
scalars with one zero they have the same projection. -/
theorem beq_equivalence :
    (∀ a : Crs Float, (a == a) = true) ∧
    (∀ a b : Crs Float, (a == b) = true → (b == a) = true) ∧
    (∀ a b c : Crs Float, a.IsFound → b.IsFound → c.IsFound → (a == b) = true → (b == c) = true →
      (a == c) = true) ∧
    (∀ a b : Crs Float, a.IsFound → b.IsFound → (a == b) = true → a.AgreesWith b) ∧
    ∀ (α : Type) [Elementary α] [Written α] [Scalar.OneZero α] (a b : Crs α), a.IsFound →
      b.IsFound → (a == b) = true → a.projection = b.projection :=
  ⟨beq_refl, fun _ _ => beq_symm, fun _ _ _ ha hb hc => ha.beq_trans hb hc,
    fun _ _ ha hb => ha.agreesWith hb, fun _ _ _ _ _ _ ha hb => ha.projection_eq_of_beq hb⟩

/-- The projection of web maps by an older code, by its parameters and by its code; over the reals,
which no text gives here, by the two codes. -/
theorem beq_equivalence_web :
    (∃ a b c : Crs Float, ofText "EPSG:900913" = .ok a ∧ ofText "+proj=merc +R=6378137" = .ok b ∧
      ofText "EPSG:3857" = .ok c ∧ (a == a) = true ∧ (b == a) = true ∧ (b == c) = true ∧
        (a == c) = true ∧ a.AgreesWith b ∧ (some c == some a) = (some c == some b) ∧
          (a.transformerTo c).apply ⟨1000, 2000⟩ = (b.transformerTo c).apply ⟨1000, 2000⟩) ∧
    let _ : Written (Extended ℝ) := ⟨fun _ => "", fun _ => none⟩
    ∃ a b : Crs (Extended ℝ), ofText "EPSG:900913" = .ok a ∧ ofText "EPSG:3857" = .ok b ∧
      (a == b) = true ∧ a.projection = b.projection := by
  constructor
  · have hread : (do
        let a : Crs Float ← ofText "EPSG:900913"
        let b ← ofText "+proj=merc +R=6378137"
        let c ← ofText "EPSG:3857"
        pure (a == b, b == c, decide (a.projection.formulaNumbers.map Scalar.sign =
          b.projection.formulaNumbers.map Scalar.sign))).toOption = some (true, true, true) := by
      decide +kernel
    obtain ⟨a, ha, hread⟩ := exists_of_bind_eq_ok (eq_ok_of_toOption_eq_some hread)
    obtain ⟨b, hb, hread⟩ := exists_of_bind_eq_ok hread
    obtain ⟨c, hc, hread⟩ := exists_of_bind_eq_ok hread
    obtain ⟨hab, hrest⟩ := Prod.mk.inj (Except.ok.inj hread)
    obtain ⟨hbc, hsigns⟩ := Prod.mk.inj hrest
    obtain ⟨hrefl, hsymm, htrans, hcongr, -⟩ := beq_equivalence
    have hac := htrans a b c ⟨_, ha⟩ ⟨_, hb⟩ ⟨_, hc⟩ hab hbc
    have hagree := hcongr a b ⟨_, ha⟩ ⟨_, hb⟩ hab
    exact ⟨a, b, c, ha, hb, hc, hrefl a, hsymm a b hab, hbc, hac, hagree,
      (hagree.sameTest (some c) (by simpa using ⟨_, hc⟩)).2,
      (hagree.transformerTo (of_decide_eq_true hsigns) c _).1⟩
  · intro _
    obtain ⟨-, -, -, -, hexact⟩ := beq_equivalence
    let web (s : String) : Crs (Extended ℝ) :=
      ⟨⟨s, some 3857, "WGS 84 / Pseudo-Mercator", .mercator .web⟩, 0⟩
    have ha : ofText "EPSG:900913" = .ok (web "EPSG:900913") := rfl
    have hb : ofText "EPSG:3857" = .ok (web "EPSG:3857") := rfl
    have hab : (web "EPSG:900913" == web "EPSG:3857") = true := beq_of_code rfl rfl
    exact ⟨_, _, ha, hb, hab, hexact _ _ _ ⟨_, ha⟩ ⟨_, hb⟩ hab⟩

/-- Scales of zero are equal, but one takes a point to the north pole, the other to the south
pole. -/
theorem not_beq_congruence_zeroScale :
    ∃ a b c : Crs Float, ofText "+proj=merc +k=0 +R=1" = .ok a ∧
      ofText "+proj=merc +k=-0 +R=1" = .ok b ∧ ofText "+proj=longlat +R=1" = .ok c ∧
        (a == b) = true ∧ ((a.transformerTo c).apply ⟨0, 1⟩).y = 90 ∧
          ((b.transformerTo c).apply ⟨0, 1⟩).y = -90 := by
  have hread : (do
      let a : Crs Float ← ofText "+proj=merc +k=0 +R=1"
      let b ← ofText "+proj=merc +k=-0 +R=1"
      let c ← ofText "+proj=longlat +R=1"
      pure (a == b, ((a.transformerTo c).apply ⟨0, 1⟩).y,
        ((b.transformerTo c).apply ⟨0, 1⟩).y)).toOption = some (true, 90, -90) := by
    decide +kernel
  obtain ⟨a, ha, hread⟩ := exists_of_bind_eq_ok (eq_ok_of_toOption_eq_some hread)
  obtain ⟨b, hb, hread⟩ := exists_of_bind_eq_ok hread
  obtain ⟨c, hc, hread⟩ := exists_of_bind_eq_ok hread
  obtain ⟨hab, hrest⟩ := Prod.mk.inj (Except.ok.inj hread)
  obtain ⟨hnorth, hsouth⟩ := Prod.mk.inj hrest
  exact ⟨a, b, c, ha, hb, hc, hab, hnorth, hsouth⟩

end Crs

end Graticule
