import Graticule.PixelAxis
import Graticule.Proofs.Scalar.Extended

/-!
# Pixels that cover an interval

A cover of an interval starts at a pixel edge less than a pixel before the interval and has the
least positive number of pixels that come within a tenth of a pixel of its other end:
`isTightCover_cover`.  A descending axis is an ascending one seen in a mirror, `cover_neg`.
-/

namespace Graticule.PixelAxis

open scoped Exact

variable {K : Type} [Field K] [LinearOrder K] [IsStrictOrderedRing K] [FloorRing K]

/-- `count` is the least positive number of pixels that fall short of a distance by no more than a
tenth of a pixel. -/
structure IsLeastCount (distance size : K) (count : ℕ) : Prop where
  pos : 0 < count
  reaches : distance - count * size ≤ size / 10
  least : ∀ n : ℕ, 0 < n → n < count → size / 10 < distance - n * size

/-- The pixels between the edges `low` and `high` cover the interval from `left` to `right` tightly.
They are counted from the low edge when the pixel size is positive and else from the high edge. -/
structure IsTightCover (left right res low high : K) (count : ℕ) : Prop where
  size : high - low = count * |res|
  starts : 0 ≤ (if 0 < res then left - low else high - right)
  close : (if 0 < res then left - low else high - right) < |res|
  ends : IsLeastCount (if 0 < res then right - low else high - left) |res| count

/-! ## Counts -/

omit [IsStrictOrderedRing K] in
theorem slack_eq : (slack : K) = 1 / 10 := by
  unfold slack
  rw [Exact.decimal_eq, Nat.cast_one, pow_one]

/-- The pixels for a distance are no more than any number that reaches it up to a tenth of a pixel. -/
theorem pixelsFor_le_iff (value : K) {res : K} (hres : res ≠ 0) (n : ℤ) :
    pixelsFor value res ≤ n ↔ value - |res| / 10 ≤ n * |res| := by
  have hpixels : pixelsFor value res = ⌈(value - slack * |res|) / |res|⌉ := by
    unfold pixelsFor
    rw [Exact.toInt_eq, Exact.abs_eq, Exact.ceil_eq, Exact.truncate_intCast]
  rw [hpixels, Int.ceil_le, div_le_iff₀ (abs_pos.2 hres), slack_eq, one_div_mul_eq_div]

theorem isLeast_pixelsFor (value : K) {res : K} (hres : res ≠ 0) :
    IsLeast {n : ℤ | value - |res| / 10 ≤ n * |res|} (pixelsFor value res) :=
  ⟨(pixelsFor_le_iff value hres _).1 le_rfl, fun n hn => (pixelsFor_le_iff value hres n).2 hn⟩

theorem lt_pixelsFor_iff (value : K) {res : K} (hres : res ≠ 0) (n : ℤ) :
    n < pixelsFor value res ↔ n * |res| < value - |res| / 10 := by
  rw [← not_le, pixelsFor_le_iff value hres, not_le]

theorem pixelsFor_mul_lt (value : K) {res : K} (hres : res ≠ 0) :
    pixelsFor value res * |res| < value + 9 * |res| / 10 := by
  have hfewer := (lt_pixelsFor_iff value hres _).1 (sub_one_lt (pixelsFor value res))
  push_cast at hfewer
  linarith

theorem pixelsFor_nonneg {value res : K} (hres : res ≠ 0) (hvalue : 0 ≤ value) :
    0 ≤ pixelsFor value res := by
  have hpos := abs_pos.2 hres
  have hlt : (-1 : ℤ) < pixelsFor value res := by
    rw [lt_pixelsFor_iff value hres]
    push_cast
    linarith
  omega

theorem pixelsFor_nonpos {value res : K} (hres : res ≠ 0) (hvalue : value ≤ 0) :
    pixelsFor value res ≤ 0 := by
  have hpos := abs_pos.2 hres
  rw [pixelsFor_le_iff value hres, Int.cast_zero, zero_mul]
  linarith

theorem pixelCount_intCast (n : ℤ) : pixelCount (n : K) = (max n 1).toNat := by
  unfold pixelCount
  rw [Exact.isFinite_eq, Exact.toNat_eq, Exact.truncate_intCast, Exact.numeral_eq, Nat.cast_one]
  by_cases h : 1 < n
  · have hcast : (1 : K) < n := by exact_mod_cast h
    rw [if_pos (by simpa using hcast), max_eq_left h.le]
  · have hcast : ¬(1 : K) < n := by exact_mod_cast h
    rw [if_neg (by simpa using hcast), max_eq_right (not_lt.1 h)]
    rfl

/-- The number of pixels for a distance. -/
theorem isLeastCount_pixelCount (distance : K) {size : K} (hsize : 0 < size) :
    IsLeastCount distance size (pixelCount (Scalar.ceil ((distance - slack * size) / size))) := by
  have hquotient : (distance - slack * size) / size = distance / size - 1 / 10 := by
    rw [slack_eq, sub_div, mul_div_cancel_right₀ _ hsize.ne']
  rw [hquotient, Exact.ceil_eq, pixelCount_intCast]
  have hreach (n : K) : distance - n * size ≤ size / 10 ↔ distance / size - 1 / 10 ≤ n := by
    rw [sub_le_iff_le_add, sub_le_iff_le_add, div_le_iff₀ hsize]
    constructor <;> intro h <;> linarith
  have hcount (n : ℕ) (hn : 0 < n) :
      (max ⌈distance / size - 1 / 10⌉ 1).toNat ≤ n ↔ distance / size - 1 / 10 ≤ n := by
    rw [show (n : K) = ((n : ℤ) : K) by push_cast; rfl, ← Int.ceil_le]
    omega
  refine ⟨by omega, ?_, ?_⟩
  · rw [hreach, ← hcount _ (by omega)]
  · intro n hpos hlt
    rw [← not_le, hreach, ← hcount n hpos]
    omega

/-! ## Covers -/

omit [IsStrictOrderedRing K] in
theorem cover_of_pos (left right off : K) {res : K} (hres : 0 < res) :
    cover left right res off =
      (⌊(left - off) / res⌋ * res + off,
        pixelCount (Scalar.ceil
          ((right - (⌊(left - off) / res⌋ * res + off) - slack * res) / res))) := by
  have hnot : ¬res < 0 := not_lt.2 hres.le
  unfold cover
  simp only [Exact.numeral_eq, Nat.cast_zero, if_neg hnot, Exact.floor_eq]

/-- A descending axis is the mirror image of an ascending one. -/
theorem cover_neg (left right off : K) {res : K} (hres : 0 < res) :
    cover left right (-res) off =
      (-(cover (-right) (-left) res (-off)).1, (cover (-right) (-left) res (-off)).2) := by
  have horigin :
      (⌈(right - off) / res⌉ : K) * res + off = -(⌊(-right - -off) / res⌋ * res + -off) := by
    have hmirror : (-right - -off) / res = -((right - off) / res) := by ring
    rw [hmirror, Int.floor_neg]
    push_cast
    ring
  rw [cover_of_pos _ _ _ hres]
  unfold cover
  simp only [Exact.numeral_eq, Nat.cast_zero, if_pos (neg_lt_zero.2 hres), neg_neg, Exact.ceil_eq,
    horigin]
  generalize (⌊(-right - -off) / res⌋ : K) * res + -off = origin
  rw [neg_sub_comm]

/-- The first edge of a cover lies on the edges that the offset gives. -/
theorem exists_cover_eq (left right off : K) {res : K} (hres : res ≠ 0) :
    ∃ n : ℤ, (cover left right res off).1 = off + n * |res| := by
  rcases lt_or_gt_of_ne hres with hneg | hpos
  · obtain ⟨size, rfl⟩ : ∃ size, res = -size := ⟨-res, (neg_neg res).symm⟩
    have hsize : 0 < size := neg_lt_zero.1 hneg
    refine ⟨-⌊(-right - -off) / size⌋, ?_⟩
    rw [cover_neg _ _ _ hsize, cover_of_pos _ _ _ hsize, abs_neg, abs_of_pos hsize]
    push_cast
    ring
  · refine ⟨⌊(left - off) / res⌋, ?_⟩
    rw [cover_of_pos _ _ _ hpos, abs_of_pos hpos]
    ring

theorem isTightCover_cover_of_pos (left right off : K) {res : K} (hres : 0 < res) :
    IsTightCover left right res (cover left right res off).1
      ((cover left right res off).1 + (cover left right res off).2 * res)
      (cover left right res off).2 := by
  rw [cover_of_pos _ _ _ hres]
  have hleft : left - off = (left - off) / res * res := (div_mul_cancel₀ _ hres.ne').symm
  have hfloor := Int.floor_le ((left - off) / res)
  have hlt := Int.lt_floor_add_one ((left - off) / res)
  generalize (left - off) / res = q at hleft hfloor hlt ⊢
  refine ⟨?_, ?_, ?_, ?_⟩
  · rw [abs_of_pos hres]
    ring
  · rw [if_pos hres]
    have := mul_le_mul_of_nonneg_right hfloor hres.le
    linarith
  · rw [if_pos hres, abs_of_pos hres]
    have := mul_lt_mul_of_pos_right hlt hres
    linarith
  · rw [if_pos hres, abs_of_pos hres]
    exact isLeastCount_pixelCount _ hres

theorem IsTightCover.mirror {left right res low high : K} {count : ℕ} (hres : 0 < res)
    (h : IsTightCover left right res low high count) :
    IsTightCover (-right) (-left) (-res) (-high) (-low) count := by
  obtain ⟨hsize, hstarts, hclose, hends⟩ := h
  have hnot : ¬0 < -res := not_lt.2 (neg_nonpos.2 hres.le)
  rw [if_pos hres] at hstarts hclose hends
  refine ⟨?_, ?_, ?_, ?_⟩
  · rw [abs_neg, ← hsize]
    ring
  · rw [if_neg hnot, neg_sub_neg]
    exact hstarts
  · rw [if_neg hnot, neg_sub_neg, abs_neg]
    exact hclose
  · rw [if_neg hnot, neg_sub_neg, abs_neg]
    exact hends

/-- Whatever the interval, the offset and the direction of the axis, the pixels counted from the
first edge of a cover are a tight cover. -/
theorem isTightCover_cover (left right off : K) {res : K} (hres : res ≠ 0) :
    let edge := (cover left right res off).1
    let count := (cover left right res off).2
    IsTightCover left right res (min edge (edge + count * res)) (max edge (edge + count * res))
      count := by
  intro edge count
  rcases lt_or_gt_of_ne hres with hneg | hpos
  · obtain ⟨size, rfl⟩ : ∃ size, res = -size := ⟨-res, (neg_neg res).symm⟩
    have hsize : 0 < size := neg_lt_zero.1 hneg
    have hcover := (isTightCover_cover_of_pos (-right) (-left) (-off) hsize).mirror hsize
    have hedge : edge = -(cover (-right) (-left) size (-off)).1 := by
      simp only [edge, cover_neg _ _ _ hsize]
    have hcount : count = (cover (-right) (-left) size (-off)).2 := by
      simp only [count, cover_neg _ _ _ hsize]
    have hlow : edge + count * -size =
        -((cover (-right) (-left) size (-off)).1 + (cover (-right) (-left) size (-off)).2 * size)
        := by
      rw [hedge, hcount]
      ring
    have hle : edge + count * -size ≤ edge := by
      have : 0 ≤ (count : K) * size := by positivity
      linarith
    rw [min_eq_right hle, max_eq_left hle, hlow, hedge, hcount]
    rwa [neg_neg, neg_neg] at hcover
  · have hle : edge ≤ edge + count * res := le_add_of_nonneg_right (by positivity)
    rw [min_eq_left hle, max_eq_right hle]
    exact isTightCover_cover_of_pos left right off hpos

/-! ## Whole pixels -/

/-- The ceiling of a whole number of pixels less the slack is that number. -/
theorem pixelCount_whole {n : ℕ} (hn : 0 < n) {size : K} (hsize : 0 < size) :
    pixelCount (Scalar.ceil ((n * size - slack * size) / size)) = n := by
  have hquotient : (n * size - slack * size) / size = (n : ℤ) - 1 / 10 := by
    rw [slack_eq, ← sub_mul, mul_div_cancel_right₀ _ hsize.ne']
    push_cast
    rfl
  have hceil : ⌈((n : ℤ) : K) - 1 / 10⌉ = n := by
    rw [Int.ceil_eq_iff]
    constructor <;> norm_num
  rw [hquotient, Exact.ceil_eq, hceil, pixelCount_intCast]
  omega

theorem cover_whole_of_pos (off : K) {edge res : K} {n : ℕ} (hres : 0 < res) (hn : 0 < n)
    (hedge : ∃ k : ℤ, edge = off + k * res) :
    cover edge (edge + n * res) res off = (edge, n) := by
  obtain ⟨k, rfl⟩ := hedge
  have hfirst : (⌊(off + k * res - off) / res⌋ : K) * res + off = off + k * res := by
    rw [add_sub_cancel_left, mul_div_cancel_right₀ _ hres.ne', Int.floor_intCast, add_comm]
  rw [cover_of_pos _ _ _ hres, hfirst, add_sub_cancel_left, pixelCount_whole hn hres]

/-- Pixels whose edges keep the offset cover the interval that they fill, in either direction. -/
theorem cover_whole (off : K) {edge res : K} {n : ℕ} (hres : res ≠ 0) (hn : 0 < n)
    (hedge : ∃ k : ℤ, edge = off + k * |res|) :
    cover (min edge (edge + n * res)) (max edge (edge + n * res)) res off = (edge, n) := by
  obtain ⟨k, hk⟩ := hedge
  rcases lt_or_gt_of_ne hres with hneg | hpos
  · obtain ⟨size, rfl⟩ : ∃ size, res = -size := ⟨-res, (neg_neg res).symm⟩
    have hsize : 0 < size := neg_lt_zero.1 hneg
    have hle : edge + n * -size ≤ edge := by
      have : 0 ≤ (n : K) * size := by positivity
      linarith
    have hlow : -(edge + n * -size) = -edge + n * size := by ring
    have hmirror : -edge = -off + (-k : ℤ) * size := by
      rw [hk, abs_neg, abs_of_pos hsize]
      push_cast
      ring
    rw [min_eq_right hle, max_eq_left hle, cover_neg _ _ _ hsize, hlow,
      cover_whole_of_pos (-off) hsize hn ⟨-k, hmirror⟩, neg_neg]
  · have hle : edge ≤ edge + n * res := le_add_of_nonneg_right (by positivity)
    rw [abs_of_pos hpos] at hk
    rw [min_eq_left hle, max_eq_right hle]
    exact cover_whole_of_pos off hpos hn ⟨k, hk⟩

/-! ## Finite values -/

section

open Extended

omit [IsStrictOrderedRing K] in
theorem pixelCount_finite (x : K) : pixelCount (finite x) = pixelCount x := by
  unfold pixelCount
  simp only [isFinite_finite, Exact.isFinite_eq, Extended.numeral_eq, Exact.numeral_eq, finite_lt,
    toNat_finite, Exact.toNat_eq]

omit [IsStrictOrderedRing K] in
theorem slack_finite : (slack : Extended K) = finite slack := by
  unfold slack
  rw [Extended.decimal_eq, Exact.decimal_eq]

omit [IsStrictOrderedRing K] in
/-- On finite values a cover is that of the field. -/
theorem cover_finite (left right off : K) {res : K} (hres : res ≠ 0) :
    cover (finite left) (finite right) (finite res) (finite off) =
      (finite (cover left right res off).1, (cover left right res off).2) := by
  unfold cover
  by_cases hneg : res < 0
  · have hfinite : (finite res : Extended K) < 0 := by
      rw [Extended.numeral_eq, Nat.cast_zero, finite_lt]
      exact hneg
    rw [if_pos hfinite]
    rw [if_pos (by rwa [Exact.numeral_eq, Nat.cast_zero])]
    simp only [finite_neg, finite_sub, finite_div _ (neg_ne_zero.2 hres), ceil_finite, finite_mul,
      finite_add, slack_finite, pixelCount_finite]
    rfl
  · have hfinite : ¬(finite res : Extended K) < 0 := by
      rw [Extended.numeral_eq, Nat.cast_zero, finite_lt]
      exact hneg
    rw [if_neg hfinite]
    rw [if_neg (by rwa [Exact.numeral_eq, Nat.cast_zero])]
    simp only [finite_sub, finite_div _ hres, floor_finite, ceil_finite, finite_mul,
      finite_add, slack_finite, pixelCount_finite]
    rfl

theorem pixelCount_pos (count : Extended K) : 0 < pixelCount count := by
  cases count with
  | finite x =>
    rw [pixelCount_finite]
    unfold pixelCount
    rw [Exact.isFinite_eq, Exact.toNat_eq, Exact.numeral_eq, Nat.cast_one]
    by_cases h : 1 < x
    · have hfloor : 1 ≤ ⌊x⌋ := Int.le_floor.2 (by exact_mod_cast h.le)
      have htruncate : Exact.truncate x = ⌊x⌋ := if_neg (by linarith)
      rw [if_pos (by simpa using h), htruncate]
      omega
    · rw [if_neg (by simpa using h)]
      exact Nat.one_pos
  | infinite s => exact Nat.one_pos
  | nan => exact Nat.one_pos

theorem cover_pos (left right res off : Extended K) : 0 < (cover left right res off).2 := by
  unfold cover
  split_ifs
  · exact pixelCount_pos _
  · exact pixelCount_pos _

omit [IsStrictOrderedRing K] in
/-- A pixel edge next to a coordinate is finite only if the coordinate is. -/
theorem exists_of_edge_eq_finite {f : K → K} {x : Extended K} {off size edge : K} (hsize : size ≠ 0)
    (h : Extended.map f ((x - finite off) / finite size) * finite size + finite off = finite edge) :
    ∃ v, x = finite v := by
  obtain ⟨product, hproduct⟩ := exists_of_add_eq_finite h
  obtain ⟨whole, hwhole⟩ := exists_of_mul_eq_finite hsize hproduct
  obtain ⟨quotient, hquotient⟩ := exists_of_map_eq_finite hwhole
  obtain ⟨difference, hdifference⟩ := exists_of_div_eq_finite hquotient
  exact exists_of_sub_eq_finite hdifference

/-- When the first edge of a cover is finite it lies on the edges that the offset gives, whatever
the other end of the interval is. -/
theorem exists_cover_eq_finite {left right : Extended K} {res off edge : K} (hres : res ≠ 0)
    (h : (cover left right (finite res) (finite off)).1 = finite edge) :
    ∃ n : ℤ, edge = off + n * |res| := by
  -- only one end of the interval decides the first edge
  have hends : ∃ v, (cover (finite v) (finite v) (finite res) (finite off)).1 = finite edge := by
    unfold cover at h ⊢
    by_cases hneg : (finite res : Extended K) < 0
    · rw [if_pos hneg] at h
      obtain ⟨v, rfl⟩ := exists_of_edge_eq_finite (neg_ne_zero.2 hres) h
      exact ⟨v, by rw [if_pos hneg]; exact h⟩
    · rw [if_neg hneg] at h
      obtain ⟨v, rfl⟩ := exists_of_edge_eq_finite hres h
      exact ⟨v, by rw [if_neg hneg]; exact h⟩
  obtain ⟨v, hv⟩ := hends
  obtain ⟨n, hn⟩ := exists_cover_eq v v off hres
  rw [cover_finite _ _ _ hres] at hv
  exact ⟨n, (finite_injective hv).symm.trans hn⟩

end

end Graticule.PixelAxis
