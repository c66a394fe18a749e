import Graticule.Proofs.Geometry.Envelope
import Mathlib.Algebra.Order.Group.Pointwise.Interval
import Mathlib.Data.Rat.Floor

/-!
# Images of boxes

The image of a box under an affine map is the smallest box around the images of all its points: an
affine function has its extremes over a rectangle at corners.  So the image under a product lies in
the image of the image, and they are equal when the map applied first neither turns nor shears, as
that one takes rectangles to rectangles.  An ordered box comes back through the inverse of such a
map: `Box.image_isTightAround`.

The corners of a box may be in any order, and the map may be singular.
-/

namespace Graticule.Box

open scoped Exact

variable {K : Type} [Field K] [LinearOrder K] [FloorRing K]

def points (b : Box K) : Set (Position K) :=
  {p | p.x ∈ Set.uIcc b.left b.right ∧ p.y ∈ Set.uIcc b.bottom b.top}

/-- The smallest box around points: they all lie in it, and each side goes through one of them. -/
structure IsTightAround (c : Box K) (s : Set (Position K)) : Prop where
  left : IsLeast (Position.x '' s) c.left
  bottom : IsLeast (Position.y '' s) c.bottom
  right : IsGreatest (Position.x '' s) c.right
  top : IsGreatest (Position.y '' s) c.top

/-- No side of `b` lies outside of `c`. -/
structure LiesIn (b c : Box K) : Prop where
  left : c.left ≤ b.left
  bottom : c.bottom ≤ b.bottom
  right : b.right ≤ c.right
  top : b.top ≤ c.top

namespace IsTightAround

variable {b c : Box K} {s t : Set (Position K)}

omit [Field K] [FloorRing K] in
theorem eq (hb : IsTightAround b s) (hc : IsTightAround c s) : b = c := by
  have hleft := hb.left.unique hc.left
  have hbottom := hb.bottom.unique hc.bottom
  have hright := hb.right.unique hc.right
  have htop := hb.top.unique hc.top
  cases b
  cases c
  simp_all

omit [Field K] [FloorRing K] in
theorem liesIn (hb : IsTightAround b s) (hc : IsTightAround c t) (h : s ⊆ t) : LiesIn b c where
  left := hb.left.mono hc.left (Set.image_mono h)
  bottom := hb.bottom.mono hc.bottom (Set.image_mono h)
  right := hb.right.mono hc.right (Set.image_mono h)
  top := hb.top.mono hc.top (Set.image_mono h)

omit [Field K] [FloorRing K] in
theorem subset_points (hc : IsTightAround c s) : s ⊆ c.points := by
  intro p hp
  have hleft := hc.left.2 (Set.mem_image_of_mem _ hp)
  have hbottom := hc.bottom.2 (Set.mem_image_of_mem _ hp)
  have hright := hc.right.2 (Set.mem_image_of_mem _ hp)
  have htop := hc.top.2 (Set.mem_image_of_mem _ hp)
  constructor
  · rw [Set.uIcc_of_le (hleft.trans hright)]
    exact ⟨hleft, hright⟩
  · rw [Set.uIcc_of_le (hbottom.trans htop)]
    exact ⟨hbottom, htop⟩

end IsTightAround

/-! ## The box around some positions -/

theorem join_finite (b c : Box K) : join b.finite c.finite = (join b c).finite := by
  simp only [join, finite, Extended.least_finite, Extended.greatest_finite, Exact.least_eq,
    Exact.greatest_eq]

theorem foldl_join_finite (b : Box K) (bs : List (Box K)) :
    (bs.map finite).foldl join b.finite = (bs.foldl join b).finite := by
  induction bs generalizing b with
  | nil => rfl
  | cons c cs ih => rw [List.map_cons, List.foldl_cons, join_finite, ih, List.foldl_cons]

theorem hull_finite (b : Box K) (bs : List (Box K)) :
    hull ((b :: bs).map finite) = (bs.foldl join b).finite := by
  have hfirst : join everted b.finite = b.finite := rfl
  rw [hull, List.map_cons, List.foldl_cons, hfirst, foldl_join_finite]

theorem isTightAround_foldl_join (p : Position K) (ps : List (Position K)) :
    IsTightAround ((ps.map ofPosition).foldl join (ofPosition p)) {q | q ∈ p :: ps} := by
  have hfold (b : Box K) : (ps.map ofPosition).foldl join b =
      ⟨(ps.map (·.x)).foldl min b.left, (ps.map (·.y)).foldl min b.bottom,
        (ps.map (·.x)).foldl max b.right, (ps.map (·.y)).foldl max b.top⟩ := by
    induction ps generalizing b with
    | nil => rfl
    | cons q qs ih =>
      rw [List.map_cons, List.foldl_cons, ih]
      rfl
  have hcoordinates (f : Position K → K) :
      f '' {q | q ∈ p :: ps} = {v | v ∈ f p :: ps.map f} := by
    ext v
    rw [← List.map_cons]
    exact List.mem_map.symm
  rw [hfold]
  constructor <;> rw [hcoordinates]
  · exact isLeast_foldl_min _ _
  · exact isLeast_foldl_min _ _
  · exact isGreatest_foldl_max _ _
  · exact isGreatest_foldl_max _ _

theorem exists_image_eq (t : Affine K) (b : Box K) :
    ∃ c : Box K, image t.finite b.finite = c.finite ∧
      IsTightAround c (t.apply '' {p | p ∈ b.corners}) := by
  have himage : image t.finite b.finite =
      hull (((b.corners.map t.apply).map ofPosition).map finite) := rfl
  have hcorners : t.apply '' {p | p ∈ b.corners} = {q | q ∈ b.corners.map t.apply} := by
    ext q
    exact List.mem_map.symm
  refine ⟨_, himage.trans (hull_finite _ _), ?_⟩
  rw [hcorners]
  exact isTightAround_foldl_join (t.apply ⟨b.left, b.bottom⟩) _

/-! ## Extremes of affine functions -/

omit [Field K] [FloorRing K] in
theorem corners_subset_points (b : Box K) : {p | p ∈ b.corners} ⊆ b.points := by
  intro p hp
  simp only [corners, Set.mem_ofPred_eq, List.mem_cons, List.not_mem_nil, or_false] at hp
  rcases hp with rfl | rfl | rfl | rfl <;>
    exact ⟨by simp, by simp⟩

section

variable [IsStrictOrderedRing K]

omit [FloorRing K] in
/-- A linear function is least over an interval at one of its ends. -/
theorem exists_end_mul_le (a : K) {u v x : K} (hx : x ∈ Set.uIcc u v) :
    ∃ w, (w = u ∨ w = v) ∧ a * w ≤ a * x := by
  wlog huv : u ≤ v generalizing u v
  · rw [Set.uIcc_comm] at hx
    obtain ⟨w, hw, hle⟩ := this hx (le_of_not_ge huv)
    exact ⟨w, hw.symm, hle⟩
  rw [Set.uIcc_of_le huv] at hx
  rcases le_total 0 a with ha | ha
  · exact ⟨u, Or.inl rfl, mul_le_mul_of_nonneg_left hx.1 ha⟩
  · exact ⟨v, Or.inr rfl, mul_le_mul_of_nonpos_left hx.2 ha⟩

omit [FloorRing K] in
/-- An affine function is least over a rectangle at one of its corners. -/
theorem exists_corner_le (a b c : K) {box : Box K} {p : Position K} (hp : p ∈ box.points) :
    ∃ q ∈ box.corners, a * q.x + b * q.y + c ≤ a * p.x + b * p.y + c := by
  obtain ⟨x, hx, hxle⟩ := exists_end_mul_le a hp.1
  obtain ⟨y, hy, hyle⟩ := exists_end_mul_le b hp.2
  refine ⟨⟨x, y⟩, ?_, by linarith⟩
  rcases hx with rfl | rfl <;> rcases hy with rfl | rfl <;> simp [corners]

omit [FloorRing K] in
theorem exists_le_corner (a b c : K) {box : Box K} {p : Position K} (hp : p ∈ box.points) :
    ∃ q ∈ box.corners, a * p.x + b * p.y + c ≤ a * q.x + b * q.y + c := by
  obtain ⟨q, hq, hle⟩ := exists_corner_le (-a) (-b) (-c) hp
  exact ⟨q, hq, by linarith⟩

/-- What is tight around the images of the corners is so around those of all points. -/
theorem IsTightAround.of_corners {t : Affine K} {b c : Box K}
    (hc : IsTightAround c (t.apply '' {p | p ∈ b.corners})) :
    IsTightAround c (t.apply '' b.points) := by
  have hsubset := Set.image_mono (f := t.apply) b.corners_subset_points
  constructor
  case left =>
    refine ⟨Set.image_mono hsubset hc.left.1, ?_⟩
    rintro _ ⟨_, ⟨p, hp, rfl⟩, rfl⟩
    obtain ⟨q, hq, hle⟩ := exists_corner_le t.a t.b t.c hp
    exact (hc.left.2 ⟨_, ⟨q, hq, rfl⟩, rfl⟩).trans hle
  case bottom =>
    refine ⟨Set.image_mono hsubset hc.bottom.1, ?_⟩
    rintro _ ⟨_, ⟨p, hp, rfl⟩, rfl⟩
    obtain ⟨q, hq, hle⟩ := exists_corner_le t.d t.e t.f hp
    exact (hc.bottom.2 ⟨_, ⟨q, hq, rfl⟩, rfl⟩).trans hle
  case right =>
    refine ⟨Set.image_mono hsubset hc.right.1, ?_⟩
    rintro _ ⟨_, ⟨p, hp, rfl⟩, rfl⟩
    obtain ⟨q, hq, hle⟩ := exists_le_corner t.a t.b t.c hp
    exact hle.trans (hc.right.2 ⟨_, ⟨q, hq, rfl⟩, rfl⟩)
  case top =>
    refine ⟨Set.image_mono hsubset hc.top.1, ?_⟩
    rintro _ ⟨_, ⟨p, hp, rfl⟩, rfl⟩
    obtain ⟨q, hq, hle⟩ := exists_le_corner t.d t.e t.f hp
    exact hle.trans (hc.top.2 ⟨_, ⟨q, hq, rfl⟩, rfl⟩)

theorem exists_image_isTightAround (t : Affine K) (b : Box K) :
    ∃ c : Box K, image t.finite b.finite = c.finite ∧ IsTightAround c (t.apply '' b.points) := by
  obtain ⟨c, himage, htight⟩ := exists_image_eq t b
  exact ⟨c, himage, htight.of_corners⟩

end

/-! ## Products and inverses -/

/-- The box with the same points whose sides are in order. -/
def ordered (b : Box K) : Box K :=
  ⟨min b.left b.right, min b.bottom b.top, max b.left b.right, max b.bottom b.top⟩

omit [Field K] [FloorRing K] in
theorem points_ordered (b : Box K) : b.ordered.points = b.points := by
  have hinterval (u v : K) : Set.uIcc (min u v) (max u v) = Set.uIcc u v :=
    Set.uIcc_of_le min_le_max
  unfold points ordered
  rw [hinterval, hinterval]

omit [Field K] [FloorRing K] in
theorem ordered_eq_self {b : Box K} (hx : b.left ≤ b.right) (hy : b.bottom ≤ b.top) :
    b.ordered = b := by
  unfold ordered
  rw [min_eq_left hx, min_eq_left hy, max_eq_right hx, max_eq_right hy]

omit [Field K] [FloorRing K] in
theorem isTightAround_points (b : Box K) : IsTightAround b.ordered b.points := by
  have hx : Position.x '' b.points = Set.uIcc b.left b.right := by
    ext x
    constructor
    · rintro ⟨p, hp, rfl⟩
      exact hp.1
    · intro hx
      exact ⟨⟨x, b.bottom⟩, ⟨hx, Set.left_mem_uIcc⟩, rfl⟩
  have hy : Position.y '' b.points = Set.uIcc b.bottom b.top := by
    ext y
    constructor
    · rintro ⟨p, hp, rfl⟩
      exact hp.2
    · intro hy
      exact ⟨⟨b.left, y⟩, ⟨Set.left_mem_uIcc, hy⟩, rfl⟩
  constructor
  · rw [hx]
    exact isLeast_Icc min_le_max
  · rw [hy]
    exact isLeast_Icc min_le_max
  · rw [hx]
    exact isGreatest_Icc min_le_max
  · rw [hy]
    exact isGreatest_Icc min_le_max

theorem image_apply_mul (t u : Affine K) (s : Set (Position K)) :
    (t * u).apply '' s = t.apply '' (u.apply '' s) := by
  rw [Set.image_image]
  exact Set.image_congr fun p _ => Affine.apply_mul t u p

variable [IsStrictOrderedRing K]

/-- A map that neither turns nor shears takes rectangles to rectangles. -/
theorem image_apply_points {t : Affine K} (ht : t.isAxisAligned = true) (b : Box K) :
    t.apply '' b.points =
      points ⟨t.a * b.left + t.c, t.e * b.bottom + t.f, t.a * b.right + t.c,
        t.e * b.top + t.f⟩ := by
  obtain ⟨hb, hd⟩ := (Affine.isAxisAligned_iff t).1 ht
  have happly (p : Position K) : t.apply p = ⟨t.a * p.x + t.c, t.e * p.y + t.f⟩ := by
    unfold Affine.apply
    rw [hb, hd, zero_mul, zero_mul, add_zero, zero_add]
  have hinterval (a c u v : K) :
      Set.uIcc (a * u + c) (a * v + c) = (fun x => a * x + c) '' Set.uIcc u v := by
    rw [← Set.image_add_const_uIcc, ← Set.image_const_mul_uIcc, Set.image_image]
  ext q
  simp only [points, hinterval, Set.mem_ofPred_eq, Set.mem_image]
  constructor
  · rintro ⟨p, ⟨hx, hy⟩, rfl⟩
    rw [happly]
    exact ⟨⟨p.x, hx, rfl⟩, p.y, hy, rfl⟩
  · rintro ⟨⟨x, hx, hqx⟩, y, hy, hqy⟩
    refine ⟨⟨x, y⟩, ⟨hx, hy⟩, ?_⟩
    rw [happly, hqx, hqy]

/-- What a box has as its image under such a map spans the images of its points. -/
theorem IsTightAround.points_eq {t : Affine K} (ht : t.isAxisAligned = true) {b c : Box K}
    (hc : IsTightAround c (t.apply '' b.points)) : c.points = t.apply '' b.points := by
  rw [image_apply_points ht] at hc ⊢
  rw [hc.eq (isTightAround_points _), points_ordered]

theorem exists_images_mul (t u : Affine K) (b : Box K) :
    ∃ inner outer : Box K, image (t * u).finite b.finite = inner.finite ∧
      image t.finite (image u.finite b.finite) = outer.finite ∧ LiesIn inner outer ∧
        (u.isAxisAligned = true → inner = outer) := by
  obtain ⟨inner, hinner, hinnerTight⟩ := exists_image_isTightAround (t * u) b
  obtain ⟨middle, hmiddle, hmiddleTight⟩ := exists_image_isTightAround u b
  obtain ⟨outer, houter, houterTight⟩ := exists_image_isTightAround t middle
  rw [image_apply_mul] at hinnerTight
  refine ⟨inner, outer, hinner, by rw [hmiddle, houter], ?_, ?_⟩
  · exact hinnerTight.liesIn houterTight (Set.image_mono hmiddleTight.subset_points)
  · intro hu
    rw [hmiddleTight.points_eq hu] at houterTight
    exact hinnerTight.eq houterTight

theorem image_identity {b : Box K} (hx : b.left ≤ b.right) (hy : b.bottom ≤ b.top) :
    image (Affine.identity : Affine K).finite b.finite = b.finite := by
  obtain ⟨c, hc, htight⟩ := exists_image_isTightAround Affine.identity b
  have hself : (Affine.identity : Affine K).apply '' b.points = b.points := by
    have happly (p : Position K) : (Affine.identity : Affine K).apply p = p := by
      rw [Affine.identity_eq]
      simp [Affine.apply]
    simp [happly]
  rw [hself] at htight
  rw [hc, htight.eq (isTightAround_points b), ordered_eq_self hx hy]

theorem image_image_inverse {t u : Affine K} (ht : t.isAxisAligned = true)
    (hinverse : u * t = .identity) {b : Box K} (hx : b.left ≤ b.right) (hy : b.bottom ≤ b.top) :
    image u.finite (image t.finite b.finite) = b.finite := by
  obtain ⟨inner, outer, hinner, houter, -, heq⟩ := exists_images_mul u t b
  rw [houter, ← heq ht, ← hinner, hinverse, image_identity hx hy]

/-- The image of a box is the smallest box around the images of all its points.  That under a
product lies in the image of the image, and is the same when the map applied first neither turns nor
shears.  The inverse of such a map takes the image of an ordered box back. -/
theorem image_isTightAround :
    (∀ (t : Affine K) (b : Box K), ∃ c : Box K,
      image t.finite b.finite = c.finite ∧ IsTightAround c (t.apply '' b.points)) ∧
    (∀ (t u : Affine K) (b : Box K), ∃ inner outer : Box K,
      image (t * u).finite b.finite = inner.finite ∧
        image t.finite (image u.finite b.finite) = outer.finite ∧ LiesIn inner outer ∧
          (u.isAxisAligned = true → inner = outer)) ∧
    ∀ (t : Affine K) (b : Box K), t.isAxisAligned = true → t.determinant ≠ 0 →
      b.left ≤ b.right → b.bottom ≤ b.top →
        ∃ u : Affine K, u * t = .identity ∧
          (Affine.negligible ≤ |t.determinant| → t.finite.inverse? = some u.finite) ∧
            image u.finite (image t.finite b.finite) = b.finite := by
  refine ⟨exists_image_isTightAround, exists_images_mul, ?_⟩
  intro t b ht hdet hx hy
  obtain ⟨u, hself, hinverse⟩ := Affine.exists_inverse hdet
  refine ⟨u, hself, fun hlarge => ?_, image_image_inverse ht hself hx hy⟩
  rw [Affine.inverse?_finite, hinverse hlarge, Option.map_some]

/-- The pixels of a grid with rows downward, in the world and back. -/
theorem image_isTightAround_pixels :
    let t : Affine ℚ := ⟨10, 0, 100, 0, -10, 200⟩
    let pixels : Box ℚ := ⟨0, 0, 4, 3⟩
    (∃ inner outer : Box ℚ, image (t * t).finite pixels.finite = inner.finite ∧
      image t.finite (image t.finite pixels.finite) = outer.finite ∧ inner = outer) ∧
    ∃ u : Affine ℚ, t.finite.inverse? = some u.finite ∧
      image u.finite (image t.finite pixels.finite) = pixels.finite := by
  intro t pixels
  obtain ⟨-, hproduct, hback⟩ := image_isTightAround (K := ℚ)
  have ht : t.isAxisAligned = true := by decide
  have hdet : t.determinant = -100 := by decide +kernel
  constructor
  · obtain ⟨inner, outer, hinner, houter, -, heq⟩ := hproduct t t pixels
    exact ⟨inner, outer, hinner, houter, heq ht⟩
  · obtain ⟨u, -, hinverse, hpixels⟩ := hback t pixels ht (by rw [hdet]; norm_num)
      (by norm_num [pixels]) (by norm_num [pixels])
    refine ⟨u, hinverse ?_, hpixels⟩
    rw [hdet, Affine.negligible_eq]
    norm_num [abs_of_neg]

end Graticule.Box
