import Graticule.Geometry.Antimeridian
import Graticule.Proofs.Planar.EvenOdd

/-!
# Half planes at a cut line

The ring of a half plane is a vertical far side, the cut line with its ends prolonged, and two
horizontal edges that no ray crosses.  So within the heights of a box a point lies in the half plane
exactly when it lies on one side of the vertical and of the prolonged line, `encloses_halfPlane`.
Inside the box this leaves the line alone to decide, in opposite ways for the half planes from the
left and from the right.
-/

namespace Graticule

namespace Box

structure Surrounds {K : Type} [LT K] (b : Box K) (p : Position K) : Prop where
  left : b.left < p.x
  right : p.x < b.right
  bottom : b.bottom < p.y
  top : p.y < b.top

end Box

namespace Antimeridian

/-- The line with its ends prolonged vertically to reach from `bottom` to `top`. -/
def extension {α : Type} [Scalar α] (bottom top : α) (line : Path α) : Path α :=
  match line.head?, line.getLast? with
  | some first, some last =>
    ⟨first.x, Scalar.least bottom first.y⟩ :: line ++ [⟨last.x, Scalar.greatest top last.y⟩]
  | _, _ => []

/-- The ray from a point to the left crosses the prolonged line an odd number of times. -/
def isBeyond {α : Type} [Scalar α] (bottom top : α) (line : Path α) (p : Position α) : Bool :=
  (extension bottom top line).crossings p % 2 == 1

open scoped Exact

variable {K : Type} [Field K] [LinearOrder K] [FloorRing K]

theorem exists_ends {α : Type} {line : Path α} (h : line ≠ []) :
    ∃ first last, line.head? = some first ∧ line.getLast? = some last := by
  exact ⟨line.head h, line.getLast h, List.head?_eq_some_head h, List.getLast?_eq_some_getLast h⟩

theorem extension_eq {α : Type} [Scalar α] (bottom top : α) {line : Path α}
    {first last : Position α} (hfirst : line.head? = some first)
    (hlast : line.getLast? = some last) :
    extension bottom top line =
      ⟨first.x, Scalar.least bottom first.y⟩ :: line ++ [⟨last.x, Scalar.greatest top last.y⟩] := by
  unfold extension
  rw [hfirst, hlast]

/-- The ring runs down the far side, along the prolonged line and back. -/
theorem halfPlane_eq {α : Type} [Scalar α] (x bottom top : α) {line : Path α}
    {first last : Position α} (hfirst : line.head? = some first)
    (hlast : line.getLast? = some last) :
    halfPlane x bottom top line =
      .ofPaths (Path.dropRepeats
        ([⟨x, Scalar.greatest top last.y⟩, ⟨x, Scalar.least bottom first.y⟩] ++
          extension bottom top line ++ [⟨x, Scalar.greatest top last.y⟩])) [] := by
  unfold halfPlane
  rw [extension_eq bottom top hfirst hlast, hfirst, hlast]
  simp only [List.cons_append, List.nil_append, List.append_assoc]

/-! ## Crossings of the ring -/

/-- The horizontal edges of the ring are not crossed, which leaves the far side and the line. -/
theorem crossings_halfPlane (x bottom top : K) {line : Path K} {first last : Position K}
    (hfirst : line.head? = some first) (hlast : line.getLast? = some last) (p : Position K) :
    (halfPlane x bottom top line).crossings p =
      (Edge.crosses ⟨⟨x, max top last.y⟩, ⟨x, min bottom first.y⟩⟩ p).toNat +
        (extension bottom top line).crossings p := by
  let upper : Position K := ⟨x, max top last.y⟩
  let lower : Position K := ⟨x, min bottom first.y⟩
  let start : Position K := ⟨first.x, min bottom first.y⟩
  let stop : Position K := ⟨last.x, max top last.y⟩
  have hextension : extension bottom top line = start :: line ++ [stop] :=
    extension_eq bottom top hfirst hlast
  have hring : (halfPlane x bottom top line).crossings p =
      Path.crossings ([upper, lower] ++ extension bottom top line ++ [upper]) p := by
    have hclosed : ([upper, lower] ++ extension bottom top line ++ [upper]).head? =
        ([upper, lower] ++ extension bottom top line ++ [upper]).getLast? := by
      rw [List.getLast?_append]
      rfl
    rw [halfPlane_eq x bottom top hfirst hlast]
    exact Path.crossings_close_dropRepeats hclosed p
  -- the two ends of the prolonged line are joined to the far side at its own heights
  have hend : Path.crossings (extension bottom top line ++ [upper]) p =
      (extension bottom top line).crossings p := by
    have hhorizontal : Path.crossings [stop, upper] p = 0 := by
      rw [Path.crossings_cons_cons, Edge.crosses_of_horizontal rfl]
      rfl
    rw [hextension, List.append_assoc]
    exact (Path.crossings_append (start :: line) stop [upper] p).trans
      (by rw [hhorizontal, Nat.add_zero])
  have hstart : Path.crossings (lower :: (extension bottom top line ++ [upper])) p =
      Path.crossings (extension bottom top line ++ [upper]) p := by
    rw [hextension, List.cons_append, List.cons_append, Path.crossings_cons_cons,
      Edge.crosses_of_horizontal rfl]
    exact Nat.zero_add _
  calc (halfPlane x bottom top line).crossings p
      = Path.crossings (upper :: lower :: (extension bottom top line ++ [upper])) p := hring
    _ = (Edge.crosses ⟨upper, lower⟩ p).toNat +
          Path.crossings (lower :: (extension bottom top line ++ [upper])) p :=
        Path.crossings_cons_cons ..
    _ = (Edge.crosses ⟨upper, lower⟩ p).toNat + (extension bottom top line).crossings p := by
        rw [hstart, hend]

/-! ## Membership within the heights of a box -/

/-- A point lies in a half plane when it lies on one side of the far side and the prolonged line. -/
theorem encloses_halfPlane (x : K) {bottom top : K} {line : Path K} (hline : line ≠ [])
    {p : Position K} (hbottom : bottom < p.y) (htop : p.y < top) :
    (halfPlane x bottom top line).encloses p =
      (decide (x < p.x) != isBeyond bottom top line p) := by
  obtain ⟨first, last, hfirst, hlast⟩ := exists_ends hline
  have hupper : ¬ max top last.y ≤ p.y := not_le.2 (htop.trans_le (le_max_left _ _))
  have hlower : min bottom first.y ≤ p.y := (min_le_left _ _).trans hbottom.le
  unfold Polygon.encloses isBeyond
  rw [crossings_halfPlane x bottom top hfirst hlast, odd_toNat_add, Edge.crosses_of_vertical]
  rw [decide_eq_false hupper, decide_eq_true hlower, Bool.false_bne, Bool.true_and]

theorem encloses_leftHalf {b : Box K} {p : Position K} (hp : b.Surrounds p) {line : Path K}
    (hline : line ≠ []) :
    (halfPlane b.left b.bottom b.top line).encloses p = !isBeyond b.bottom b.top line p := by
  rw [encloses_halfPlane b.left hline hp.bottom hp.top, decide_eq_true hp.left, Bool.true_bne]

theorem encloses_rightHalf {b : Box K} {p : Position K} (hp : b.Surrounds p) {line : Path K}
    (hline : line ≠ []) :
    (halfPlane b.right b.bottom b.top line).encloses p = isBeyond b.bottom b.top line p := by
  rw [encloses_halfPlane b.right hline hp.bottom hp.top, decide_eq_false hp.right.not_gt,
    Bool.false_bne]

theorem crossings_extension (bottom top : K) {line : Path K} {first last : Position K}
    (hfirst : line.head? = some first) (hlast : line.getLast? = some last) (p : Position K) :
    (extension bottom top line).crossings p =
      (Edge.crosses ⟨⟨first.x, min bottom first.y⟩, first⟩ p).toNat + (line.crossings p +
        (Edge.crosses ⟨last, ⟨last.x, max top last.y⟩⟩ p).toNat) := by
  have hstart (path : Path K) :
      Path.crossings (⟨first.x, min bottom first.y⟩ :: (line ++ path)) p =
        (Edge.crosses ⟨⟨first.x, min bottom first.y⟩, first⟩ p).toNat +
          Path.crossings (line ++ path) p := by
    obtain ⟨rest, rfl⟩ := List.head?_eq_some_iff.1 hfirst
    exact Path.crossings_cons_cons ..
  have hstop (stop : Position K) :
      Path.crossings (line ++ [stop]) p = line.crossings p + (Edge.crosses ⟨last, stop⟩ p).toNat := by
    obtain ⟨before, rfl⟩ := List.getLast?_eq_some_iff.1 hlast
    rw [List.append_assoc]
    exact Path.crossings_append before last [stop] p
  rw [extension_eq bottom top hfirst hlast]
  exact (hstart _).trans (by rw [hstop]; rfl)

/-- The pieces that prolong the line count below its first point and above its last. -/
theorem isBeyond_eq {bottom top : K} {line : Path K} {first last : Position K}
    (hfirst : line.head? = some first) (hlast : line.getLast? = some last) {p : Position K}
    (hbottom : bottom < p.y) (htop : p.y < top) :
    isBeyond bottom top line p =
      ((!decide (first.y ≤ p.y) && decide (first.x < p.x)) !=
        ((line.crossings p % 2 == 1) != (decide (last.y ≤ p.y) && decide (last.x < p.x)))) := by
  have hlower : min bottom first.y ≤ p.y := (min_le_left _ _).trans hbottom.le
  have hupper : ¬ max top last.y ≤ p.y := not_le.2 (htop.trans_le (le_max_left _ _))
  have hstart : Edge.crosses ⟨⟨first.x, min bottom first.y⟩, first⟩ p =
      (!decide (first.y ≤ p.y) && decide (first.x < p.x)) := by
    have hvertical := Edge.crosses_of_vertical first.x (min bottom first.y) first.y p
    rwa [decide_eq_true hlower, Bool.true_bne] at hvertical
  have hstop : Edge.crosses ⟨last, ⟨last.x, max top last.y⟩⟩ p =
      (decide (last.y ≤ p.y) && decide (last.x < p.x)) := by
    have hvertical := Edge.crosses_of_vertical last.x last.y (max top last.y) p
    rwa [decide_eq_false hupper, Bool.bne_false] at hvertical
  unfold isBeyond
  rw [crossings_extension bottom top hfirst hlast, hstart, hstop, odd_toNat_add, odd_add,
    odd_toNat]

/-- Of a vertical line a point lies on the one side or the other. -/
theorem isBeyond_of_vertical {bottom top x : K} {line : Path K} (hline : line ≠ [])
    (hx : ∀ q ∈ line, q.x = x) {p : Position K} (hbottom : bottom < p.y) (htop : p.y < top) :
    isBeyond bottom top line p = decide (x < p.x) := by
  obtain ⟨first, last, hfirst, hlast⟩ := exists_ends hline
  rw [isBeyond_eq hfirst hlast hbottom htop, Path.odd_crossings_of_vertical hx hfirst hlast,
    hx first (List.mem_of_head? hfirst), hx last (List.mem_of_getLast? hlast)]
  cases decide (first.y ≤ p.y) <;> cases decide (last.y ≤ p.y) <;> cases decide (x < p.x) <;> rfl

/-! ## Finite values -/

theorem extension_finite (bottom top : K) (line : Path K) :
    extension (.finite bottom) (.finite top) (line.map Position.finite) =
      (extension bottom top line).map Position.finite := by
  cases line with
  | nil => rfl
  | cons first rest =>
    obtain ⟨_, last, -, hlast⟩ := exists_ends (List.cons_ne_nil first rest)
    have hmap : ((first :: rest).map Position.finite).getLast? = some last.finite := by
      rw [List.getLast?_map, hlast]
      rfl
    rw [extension_eq bottom top rfl hlast, extension_eq _ _ rfl hmap, List.map_append]
    simp only [Position.finite, Extended.least_finite, Extended.greatest_finite]
    rfl

theorem isBeyond_finite (bottom top : K) (line : Path K) (p : Position K) :
    isBeyond (.finite bottom) (.finite top) (line.map Position.finite) p.finite =
      isBeyond bottom top line p := by
  unfold isBeyond
  rw [extension_finite, Path.crossings_finite]

theorem halfPlane_finite (x bottom top : K) (line : Path K) :
    halfPlane (.finite x) (.finite bottom) (.finite top) (line.map Position.finite) =
      (halfPlane x bottom top line).finite := by
  cases line with
  | nil => rfl
  | cons first rest =>
    obtain ⟨_, last, -, hlast⟩ := exists_ends (List.cons_ne_nil first rest)
    have hmap : ((first :: rest).map Position.finite).getLast? = some last.finite := by
      rw [List.getLast?_map, hlast]
      rfl
    rw [halfPlane_eq x bottom top rfl hlast, halfPlane_eq _ _ _ rfl hmap, extension_finite,
      ← Polygon.ofPaths_finite, ← Path.dropRepeats_finite, List.map_append, List.map_append]
    simp only [Position.finite, Extended.least_finite, Extended.greatest_finite]
    rfl

end Antimeridian

end Graticule
