import Graticule.Proofs.PixelAxis
import Mathlib.Data.Rat.Floor

/-!
# Symmetries of pixel covers

Moving an interval by whole pixels moves its first pixel edge along and keeps the number of pixels,
`cover_add`.  An offset counts modulo the size of a pixel, so a mirror, which takes it to its
opposite, may as well take it to the rest of a pixel: `cover_neg_offset`.
-/

namespace Graticule.PixelAxis

open scoped Exact

variable {K : Type} [Field K] [LinearOrder K] [IsStrictOrderedRing K] [FloorRing K]

/-! ## Offsets -/

theorem floor_sub_pixels {res : K} (hres : res ≠ 0) (x : K) (k : ℤ) :
    ⌊(x - k * res) / res⌋ = ⌊x / res⌋ - k := by
  rw [sub_div, mul_div_cancel_right₀ _ hres, Int.floor_sub_intCast]

/-- Offsets that differ by whole pixels give the same pixel edges. -/
theorem cover_add_offset_of_pos (left right off : K) {res : K} (hres : 0 < res) (k : ℤ) :
    cover left right res (off + k * res) = cover left right res off := by
  have hedge : (⌊(left - (off + k * res)) / res⌋ : K) * res + (off + k * res) =
      ⌊(left - off) / res⌋ * res + off := by
    rw [← sub_sub, floor_sub_pixels hres.ne']
    push_cast
    ring
  rw [cover_of_pos _ _ _ hres, cover_of_pos _ _ _ hres, hedge]

/-- A mirror takes an offset to the rest of a pixel. -/
theorem cover_neg_offset (left right off : K) {res : K} (hres : 0 < res) :
    cover left right (-res) off =
      (-(cover (-right) (-left) res (res - off)).1,
        (cover (-right) (-left) res (res - off)).2) := by
  have hrest : res - off = -off + (1 : ℤ) * res := by
    push_cast
    ring
  rw [cover_neg _ _ _ hres, hrest, cover_add_offset_of_pos _ _ _ hres]

/-! ## Whole pixels along an axis -/

theorem cover_add_of_pos (left right off : K) {res : K} (hres : 0 < res) (k : ℤ) :
    cover (left + k * res) (right + k * res) res off =
      ((cover left right res off).1 + k * res, (cover left right res off).2) := by
  have hfirst : (⌊(left + k * res - off) / res⌋ : K) * res + off =
      ⌊(left - off) / res⌋ * res + off + k * res := by
    have hmoved : left + k * res - off = left - off - (-k : ℤ) * res := by
      push_cast
      ring
    rw [hmoved, floor_sub_pixels hres.ne']
    push_cast
    ring
  rw [cover_of_pos _ _ _ hres, cover_of_pos _ _ _ hres, hfirst, add_sub_add_right_eq_sub]

/-- An interval moved by whole pixels is covered by as many pixels, moved along. -/
theorem cover_add (left right off : K) {res : K} (hres : res ≠ 0) (k : ℤ) :
    cover (left + k * |res|) (right + k * |res|) res off =
      ((cover left right res off).1 + k * |res|, (cover left right res off).2) := by
  rcases lt_or_gt_of_ne hres with hneg | hpos
  · obtain ⟨size, rfl⟩ : ∃ size, res = -size := ⟨-res, (neg_neg res).symm⟩
    have hsize : 0 < size := neg_lt_zero.1 hneg
    have hmirror (x : K) : -(x + k * size) = -x + (-k : ℤ) * size := by
      push_cast
      ring
    rw [abs_neg, abs_of_pos hsize, cover_neg _ _ _ hsize, cover_neg _ _ _ hsize, hmirror, hmirror,
      cover_add_of_pos _ _ _ hsize]
    push_cast
    rw [neg_add, neg_mul, neg_neg]
  · rw [abs_of_pos hpos, cover_add_of_pos _ _ _ hpos]

/-! ## Both symmetries -/

/-- A descending axis covers an interval as an ascending one covers its mirror image, with the rest
of a pixel for an offset.  On an axis of either direction, an interval moved by whole pixels is
covered by as many pixels, moved along. -/
theorem cover_mirror_shift :
    (∀ (left right res off origin : K) (count : ℕ), 0 < res →
      (cover (-right) (-left) res (res - off) = (origin, count) ↔
        cover left right (-res) off = (-origin, count))) ∧
    ∀ (left right res off origin : K) (count : ℕ) (k : ℤ), res ≠ 0 →
      (cover left right res off = (origin, count) ↔
        cover (left + k * |res|) (right + k * |res|) res off =
          (origin + k * |res|, count)) := by
  constructor
  · intro left right res off origin count hres
    rw [cover_neg_offset _ _ _ hres, Prod.ext_iff, Prod.ext_iff, neg_inj]
  · intro left right res off origin count k hres
    rw [cover_add _ _ _ hres, Prod.ext_iff, Prod.ext_iff, add_left_inj]

/-- Pixels of size ten with an offset of three, counted down from the high end of an interval of
eleven and a half, and five pixels further down. -/
theorem cover_mirror_shift_descending :
    cover (-63 / 2 : ℚ) (-20) 10 (10 - 3) = (-33, 2) ∧ cover (20 : ℚ) (63 / 2) (-10) 3 = (33, 2) ∧
      cover (20 + (-5 : ℤ) * |(-10 : ℚ)|) (63 / 2 + (-5 : ℤ) * |(-10 : ℚ)|) (-10) 3 =
        (33 + (-5 : ℤ) * |(-10 : ℚ)|, 2) := by
  obtain ⟨hmirror, hshift⟩ := cover_mirror_shift (K := ℚ)
  have hascending : cover (-63 / 2 : ℚ) (-20) 10 (10 - 3) = (-33, 2) := by decide +kernel
  have hdescending : cover (20 : ℚ) (63 / 2) (-10) 3 = (33, 2) := by
    have h := (hmirror 20 (63 / 2) 10 3 (-33) 2 (by norm_num)).1 (by rwa [← neg_div])
    rwa [neg_neg] at h
  refine ⟨hascending, hdescending, ?_⟩
  exact (hshift 20 (63 / 2) (-10) 3 33 2 (-5) (by norm_num)).1 hdescending

end Graticule.PixelAxis
