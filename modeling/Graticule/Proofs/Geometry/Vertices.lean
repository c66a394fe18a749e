import Graticule.Geometry.Shape
import Graticule.Proofs.Scalar.Machine

/-!
# Vertices and rings of shapes

Two views of a shape: all its vertices, and all rings of its polygons, at any depth.  A shape can
be written down when its vertices are finite and its rings closed, `Shape.IsSound`; making a
polygon closes its rings.  `Shape.plain` is the shape without lines between two points, rectangles
and triangles, which stand for paths and polygons.
-/

namespace Graticule

variable {α : Type}

namespace Shape

mutual

def vertices : Shape α → List (Position α)
  | point p => [p]
  | multiPoint ps => ps
  | segment a b => [a, b]
  | lineString path => path
  | multiLineString paths => paths.flatten
  | polygon p => p.rings.flatten
  | rectangle low high => [low, high]
  | triangle a b c => [a, b, c]
  | multiPolygon ps => ps.flatMap (·.rings.flatten)
  | collection members => memberVertices members

def memberVertices : List (Shape α) → List (Position α)
  | [] => []
  | s :: ss => s.vertices ++ memberVertices ss

end

mutual

def rings : Shape α → List (Path α)
  | polygon p => p.rings
  | multiPolygon ps => ps.flatMap (·.rings)
  | collection members => memberRings members
  | _ => []

def memberRings : List (Shape α) → List (Path α)
  | [] => []
  | s :: ss => s.rings ++ memberRings ss

end

mutual

/-- The shape with lines between two points as paths, and rectangles and triangles as polygons. -/
def plain [BEq α] : Shape α → Shape α
  | segment a b => lineString [a, b]
  | rectangle low high => polygon (rectanglePolygon low high)
  | triangle a b c => polygon (trianglePolygon a b c)
  | collection members => collection (plainMembers members)
  | s => s

def plainMembers [BEq α] : List (Shape α) → List (Shape α)
  | [] => []
  | s :: ss => s.plain :: plainMembers ss

end

/-- The vertices are finite and the rings are closed. -/
structure IsSound [Scalar α] (s : Shape α) : Prop where
  isFinite : ∀ p ∈ s.vertices, p.isFinite = true
  isClosed : ∀ ring ∈ s.rings, Path.isClosed ring = true

end Shape

variable [Scalar α]

/-! ## Closed rings -/

theorem Position.beq_self_of_isFinite [Scalar.FiniteRefl α] {p : Position α}
    (h : p.isFinite = true) : (p == p) = true := by
  obtain ⟨hx, hy⟩ := Bool.and_eq_true_iff.1 h
  exact Bool.and_eq_true_iff.2
    ⟨Scalar.FiniteRefl.beq_self _ hx, Scalar.FiniteRefl.beq_self _ hy⟩

namespace Path

theorem close_cons (p : Position α) (ps : Path α) :
    close (p :: ps) = if isClosed (p :: ps) = true then p :: ps else p :: ps ++ [p] := rfl

theorem close_of_isClosed {path : Path α} (h : path.isClosed = true) : path.close = path := by
  cases path with
  | nil => rfl
  | cons p ps => rw [close_cons, if_pos h]

theorem mem_of_mem_close {path : Path α} {p : Position α} (hp : p ∈ path.close) : p ∈ path := by
  cases path with
  | nil => exact hp
  | cons q qs =>
    rw [close_cons] at hp
    split at hp
    · exact hp
    · rcases List.mem_append.1 hp with hp | hp
      · exact hp
      · rw [List.mem_singleton.1 hp]
        exact List.mem_cons_self

theorem isClosed_append_head (p : Position α) (ps : Path α) (hp : (p == p) = true) :
    isClosed (p :: ps ++ [p]) = true := by
  unfold isClosed
  rw [List.getLast?_append]
  exact hp

/-- Closing makes a path closed whose first vertex is finite. -/
theorem isClosed_close_of_head [Scalar.FiniteRefl α] {path : Path α}
    (h : ∀ p ∈ path.head?, p.isFinite = true) : path.close.isClosed = true := by
  cases path with
  | nil => rfl
  | cons p ps =>
    rw [close_cons]
    split
    · assumption
    · exact isClosed_append_head p ps (Position.beq_self_of_isFinite (h p rfl))

theorem isClosed_close [Scalar.FiniteRefl α] {path : Path α}
    (h : ∀ p ∈ path, p.isFinite = true) : path.close.isClosed = true :=
  isClosed_close_of_head fun p hp => h p (List.mem_of_mem_head? hp)

end Path

/-! ## Sound polygons -/

namespace Polygon

theorem ofPaths_of_isClosed {p : Polygon α} (h : ∀ ring ∈ p.rings, Path.isClosed ring = true) :
    ofPaths p.exterior p.holes = p := by
  have hexterior : p.exterior.close = p.exterior :=
    Path.close_of_isClosed (h p.exterior List.mem_cons_self)
  have hholes : p.holes.map Path.close = p.holes :=
    (List.map_congr_left fun ring hring =>
      Path.close_of_isClosed (h ring (List.mem_cons_of_mem _ hring))).trans (List.map_id _)
  unfold ofPaths
  rw [hexterior, hholes]

theorem rings_ofPaths (exterior : Path α) (holes : List (Path α)) :
    (ofPaths exterior holes).rings = (exterior :: holes).map Path.close := rfl

end Polygon

namespace Shape

/-- Without rings only the vertices matter. -/
theorem isSound_of_rings_eq_nil {s : Shape α} (hrings : s.rings = [])
    (h : ∀ p ∈ s.vertices, p.isFinite = true) : s.IsSound := by
  refine ⟨h, fun ring hring => ?_⟩
  rw [hrings] at hring
  cases hring

theorem isSound_polygon {p : Polygon α} :
    (polygon p).IsSound ↔ ∀ ring ∈ p.rings,
      (∀ q ∈ ring, q.isFinite = true) ∧ Path.isClosed ring = true := by
  constructor
  · intro h ring hring
    exact ⟨fun q hq => h.isFinite q (List.mem_flatten_of_mem hring hq), h.isClosed ring hring⟩
  · intro h
    constructor
    · intro q hq
      obtain ⟨ring, hring, hmem⟩ := List.mem_flatten.1 hq
      exact (h ring hring).1 q hmem
    · exact fun ring hring => (h ring hring).2

theorem isSound_multiPolygon {ps : List (Polygon α)} :
    (multiPolygon ps).IsSound ↔ ∀ p ∈ ps, (polygon p).IsSound := by
  constructor
  · intro h p hp
    constructor
    · exact fun q hq => h.isFinite q (List.mem_flatMap.2 ⟨p, hp, hq⟩)
    · exact fun ring hring => h.isClosed ring (List.mem_flatMap.2 ⟨p, hp, hring⟩)
  · intro h
    constructor
    · intro q hq
      obtain ⟨p, hp, hmem⟩ := List.mem_flatMap.1 hq
      exact (h p hp).isFinite q hmem
    · intro ring hring
      obtain ⟨p, hp, hmem⟩ := List.mem_flatMap.1 hring
      exact (h p hp).isClosed ring hmem

theorem isSound_collection_cons {s : Shape α} {ss : List (Shape α)} :
    (collection (s :: ss)).IsSound ↔ s.IsSound ∧ (collection ss).IsSound := by
  constructor
  · intro h
    constructor
    · exact ⟨fun p hp => h.isFinite p (List.mem_append_left _ hp),
        fun ring hring => h.isClosed ring (List.mem_append_left _ hring)⟩
    · exact ⟨fun p hp => h.isFinite p (List.mem_append_right _ hp),
        fun ring hring => h.isClosed ring (List.mem_append_right _ hring)⟩
  · intro ⟨hs, hss⟩
    constructor
    · intro p hp
      exact (List.mem_append.1 hp).elim (hs.isFinite p) (hss.isFinite p)
    · intro ring hring
      exact (List.mem_append.1 hring).elim (hs.isClosed ring) (hss.isClosed ring)

/-- A polygon made of finite paths is sound. -/
theorem isSound_ofPaths [Scalar.FiniteRefl α] {exterior : Path α} {holes : List (Path α)}
    (h : ∀ path ∈ exterior :: holes, ∀ q ∈ path, q.isFinite = true) :
    (polygon (.ofPaths exterior holes)).IsSound := by
  rw [isSound_polygon, Polygon.rings_ofPaths]
  intro ring hring
  obtain ⟨path, hpath, rfl⟩ := List.mem_map.1 hring
  exact ⟨fun q hq => h path hpath q (Path.mem_of_mem_close hq), Path.isClosed_close (h path hpath)⟩

theorem isSound_rectanglePolygon [Scalar.FiniteRefl α] {low high : Position α}
    (h : (rectangle low high).IsSound) : (polygon (rectanglePolygon low high)).IsSound := by
  obtain ⟨hleft, hbottom⟩ := Bool.and_eq_true_iff.1 (h.isFinite low List.mem_cons_self)
  obtain ⟨hright, htop⟩ := Bool.and_eq_true_iff.1
    (h.isFinite high (List.mem_cons_of_mem low List.mem_cons_self))
  refine isSound_ofPaths fun path hpath q hq => ?_
  rw [List.mem_singleton.1 hpath] at hq
  simp only [List.mem_cons, List.not_mem_nil, or_false] at hq
  rcases hq with rfl | rfl | rfl | rfl | rfl <;>
    exact Bool.and_eq_true_iff.2 ⟨by assumption, by assumption⟩

theorem isSound_trianglePolygon [Scalar.FiniteRefl α] {a b c : Position α}
    (h : (triangle a b c).IsSound) : (polygon (trianglePolygon a b c)).IsSound := by
  refine isSound_ofPaths fun path hpath q hq => h.isFinite q ?_
  rw [List.mem_singleton.1 hpath] at hq
  simp only [vertices, List.mem_cons, List.not_mem_nil, or_false] at hq ⊢
  rcases hq with rfl | rfl | rfl | rfl <;> simp

end Shape

end Graticule
