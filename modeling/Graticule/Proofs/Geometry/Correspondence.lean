import Graticule.Geometry.Segmentation
import Graticule.Proofs.Geometry.Vertices
import Mathlib.Data.List.Forall2

/-!
# Shapes of one structure

Two shapes correspond when they are of one kind and have the same nesting of members, parts and
rings, with related vertices, lines and rings in the same places: `Shape.Corresponds`.  The
relations can be weakened, `Corresponds.mono`, where of a ring only what holds of every ring of the
shape is known besides.

Segmentation and moving vertices give corresponding shapes, once lines between two points,
rectangles and triangles are the paths and polygons they stand for.  Segmentation keeps the ends of
a path and its vertices in their order; so a closed path stays closed.
-/

namespace Graticule

theorem forall₂_imp_of_mem {β γ : Type} {R S : β → γ → Prop} {l : List β} {m : List γ}
    (h : ∀ b ∈ l, ∀ c, R b c → S b c) (hR : List.Forall₂ R l m) : List.Forall₂ S l m :=
  ((List.forall₂_and_left _ _).2 ⟨h, hR⟩).imp fun _ c hbc => hbc.1 c hbc.2

theorem forall₂_map_self {β γ : Type} (f : β → γ) (l : List β) :
    List.Forall₂ (fun b c => c = f b) l (l.map f) :=
  List.forall₂_map_right_iff.2 (List.forall₂_same.2 fun _ _ => rfl)

theorem forall_mem_right_of_forall₂ {β γ : Type} {R : β → γ → Prop} {P : γ → Prop} {l : List β}
    {m : List γ} (hR : List.Forall₂ R l m) (h : ∀ b ∈ l, ∀ c, R b c → P c) : ∀ c ∈ m, P c := by
  induction hR with
  | nil => simp
  | cons hbc _ ih =>
    rw [List.forall_mem_cons] at h ⊢
    exact ⟨h.1 _ hbc, ih h.2⟩

/-! ## Segmented paths -/

namespace Path

variable {α : Type} [Elementary α]

theorem segmented_cons_cons (step : α) (p q : Position α) (path : Path α) :
    segmented step (p :: q :: path) =
      p :: (stationsBetween step p q ++ segmented step (q :: path)) := rfl

@[simp] theorem head?_segmented (step : α) (path : Path α) :
    (path.segmented step).head? = path.head? := by
  rcases path with _ | ⟨p, _ | ⟨q, path⟩⟩ <;> rfl

@[simp] theorem getLast?_segmented (step : α) (path : Path α) :
    (path.segmented step).getLast? = path.getLast? := by
  induction path with
  | nil => rfl
  | cons p path ih =>
    cases path with
    | nil => rfl
    | cons q path =>
      rw [segmented_cons_cons, ← List.cons_append, List.getLast?_append, ih,
        List.getLast?_cons_cons, List.getLast?_cons]
      rfl

theorem isClosed_segmented (step : α) (path : Path α) :
    (path.segmented step).isClosed = path.isClosed := by
  unfold isClosed
  rw [head?_segmented, getLast?_segmented]

/-- The vertices of a path stay, in their order. -/
theorem sublist_segmented (step : α) (path : Path α) : path.Sublist (path.segmented step) := by
  induction path with
  | nil => exact List.Sublist.refl _
  | cons p path ih =>
    cases path with
    | nil => exact List.Sublist.refl _
    | cons q path => exact (ih.trans (List.sublist_append_right _ _)).cons_cons p

end Path

namespace Polygon

variable {α : Type} [Scalar α]

theorem rings_mapRings (f : Path α → Path α) (p : Polygon α) :
    (p.mapRings f).rings = p.rings.map fun a => (f a).close := by
  unfold mapRings
  rw [rings_ofPaths]
  simp [rings]

theorem forall₂_mapRings (f : Path α → Path α) (p : Polygon α) :
    List.Forall₂ (fun a b => b = (f a).close) p.rings (p.mapRings f).rings := by
  rw [rings_mapRings]
  exact forall₂_map_self _ _

end Polygon

/-! ## Correspondence -/

namespace Shape

/-- The shapes are of one kind and structure, with vertices, lines and rings related one by one. -/
inductive Corresponds {α β : Type} (vertex : Position α → Position β → Prop)
    (line ring : Path α → Path β → Prop) : Shape α → Shape β → Prop where
  | point {p q} (h : vertex p q) : Corresponds vertex line ring (point p) (point q)
  | multiPoint {ps qs} (h : List.Forall₂ vertex ps qs) :
    Corresponds vertex line ring (multiPoint ps) (multiPoint qs)
  | lineString {a b} (h : line a b) : Corresponds vertex line ring (lineString a) (lineString b)
  | multiLineString {as bs} (h : List.Forall₂ line as bs) :
    Corresponds vertex line ring (multiLineString as) (multiLineString bs)
  | polygon {p q : Polygon _} (h : List.Forall₂ ring p.rings q.rings) :
    Corresponds vertex line ring (polygon p) (polygon q)
  | multiPolygon {ps qs : List (Polygon _)}
    (h : List.Forall₂ (fun p q => List.Forall₂ ring p.rings q.rings) ps qs) :
    Corresponds vertex line ring (multiPolygon ps) (multiPolygon qs)
  | collection {ss ts} (h : List.Forall₂ (Corresponds vertex line ring) ss ts) :
    Corresponds vertex line ring (collection ss) (collection ts)

section

variable {α β : Type} {vertex vertex' : Position α → Position β → Prop}
  {line line' ring ring' : Path α → Path β → Prop}

theorem Corresponds.kind_eq {s : Shape α} {t : Shape β} (h : Corresponds vertex line ring s t) :
    s.kind = t.kind := by
  cases h <;> rfl

mutual

/-- Weaker relations hold in the same places. -/
theorem Corresponds.mono (hvertex : ∀ p q, vertex p q → vertex' p q)
    (hline : ∀ a b, line a b → line' a b) : ∀ {s : Shape α} {t : Shape β},
      (∀ a ∈ s.rings, ∀ b, ring a b → ring' a b) → Corresponds vertex line ring s t →
        Corresponds vertex' line' ring' s t
  | .point _, _, _, .point h => .point (hvertex _ _ h)
  | .multiPoint _, _, _, .multiPoint h => .multiPoint (h.imp hvertex)
  | .lineString _, _, _, .lineString h => .lineString (hline _ _ h)
  | .multiLineString _, _, _, .multiLineString h => .multiLineString (h.imp hline)
  | .polygon _, _, hring, .polygon h => .polygon (forall₂_imp_of_mem hring h)
  | .multiPolygon _, _, hring, .multiPolygon h =>
    .multiPolygon (forall₂_imp_of_mem (fun p hp _ => forall₂_imp_of_mem fun a ha =>
      hring a (List.mem_flatMap.2 ⟨p, hp, ha⟩)) h)
  | .collection _, _, hring, .collection h =>
    .collection (forall₂_corresponds_mono hvertex hline hring h)

theorem forall₂_corresponds_mono (hvertex : ∀ p q, vertex p q → vertex' p q)
    (hline : ∀ a b, line a b → line' a b) : ∀ {ss : List (Shape α)} {ts : List (Shape β)},
      (∀ a ∈ memberRings ss, ∀ b, ring a b → ring' a b) →
        List.Forall₂ (Corresponds vertex line ring) ss ts →
          List.Forall₂ (Corresponds vertex' line' ring') ss ts
  | [], _, _, .nil => .nil
  | _ :: _, _, hring, .cons h hs =>
    .cons (h.mono hvertex hline fun a ha => hring a (List.mem_append_left _ ha))
      (forall₂_corresponds_mono hvertex hline (fun a ha => hring a (List.mem_append_right _ ha)) hs)

end

end

/-! ## Rings -/

section

variable {α β : Type} {vertex : Position α → Position β → Prop}
  {line ring : Path α → Path β → Prop}

mutual

theorem Corresponds.forall₂_rings : ∀ {s : Shape α} {t : Shape β},
    Corresponds vertex line ring s t → List.Forall₂ ring s.rings t.rings
  | .point _, _, .point _ => .nil
  | .multiPoint _, _, .multiPoint _ => .nil
  | .lineString _, _, .lineString _ => .nil
  | .multiLineString _, _, .multiLineString _ => .nil
  | .polygon _, _, .polygon h => h
  | .multiPolygon _, _, .multiPolygon h => List.rel_flatMap h fun _ _ hpq => hpq
  | .collection _, _, .collection h => forall₂_memberRings h

theorem forall₂_memberRings : ∀ {ss : List (Shape α)} {ts : List (Shape β)},
    List.Forall₂ (Corresponds vertex line ring) ss ts →
      List.Forall₂ ring (memberRings ss) (memberRings ts)
  | [], [], .nil => .nil
  | _ :: _, _ :: _, .cons h hs => List.rel_append h.forall₂_rings (forall₂_memberRings hs)

end

end

/-! ## Operations that keep the structure -/

section

variable {α : Type} [Elementary α] {vertex : Position α → Position α → Prop}
  {line ring : Path α → Path α → Prop}

mutual

/-- Segmentation keeps the structure of what a shape stands for. -/
theorem corresponds_segmentedBy (step : α) : ∀ s : Shape α,
    Corresponds Eq (fun a b => b = a.segmented step) (fun a b => b = (a.segmented step).close)
      s.plain (s.segmentedBy step)
  | .point _ => .point rfl
  | .multiPoint _ => .multiPoint (List.forall₂_same.2 fun _ _ => rfl)
  | .segment _ _ => .lineString rfl
  | .lineString _ => .lineString rfl
  | .multiLineString paths => .multiLineString (forall₂_map_self _ paths)
  | .polygon p => .polygon (p.forall₂_mapRings _)
  | .rectangle low high => .polygon ((rectanglePolygon low high).forall₂_mapRings _)
  | .triangle a b c => .polygon ((trianglePolygon a b c).forall₂_mapRings _)
  | .multiPolygon _ => .multiPolygon
    (List.forall₂_map_right_iff.2 (List.forall₂_same.2 fun p _ => p.forall₂_mapRings _))
  | .collection members => .collection (forall₂_segmentedMembers step members)

theorem forall₂_segmentedMembers (step : α) : ∀ members : List (Shape α),
    List.Forall₂
      (Corresponds Eq (fun a b => b = a.segmented step) fun a b => b = (a.segmented step).close)
      (plainMembers members) (segmentedMembers step members)
  | [] => .nil
  | s :: ss => .cons (corresponds_segmentedBy step s) (forall₂_segmentedMembers step ss)

end

/-- Where the rings are closed they stay so without another vertex. -/
theorem corresponds_segmentedBy_of_isClosed (step : α) {s : Shape α}
    (hs : ∀ ring ∈ s.plain.rings, Path.isClosed ring = true) :
    Corresponds Eq (fun line fine => fine = line.segmented step)
      (fun ring fine => fine = ring.segmented step ∧ fine.isClosed = true) s.plain
      (s.segmentedBy step) := by
  refine (corresponds_segmentedBy step s).mono (fun _ _ h => h) (fun _ _ h => h) ?_
  rintro ring hring _ rfl
  have hclosed : (Path.segmented step ring).isClosed = true := by
    rw [Path.isClosed_segmented]
    exact hs ring hring
  rw [Path.close_of_isClosed hclosed]
  exact ⟨rfl, hclosed⟩

theorem segmented_of_not_pos {step : α} (h : ¬(Scalar.isFinite step = true ∧ 0 < step))
    (s : Shape α) : s.segmented step = s := by
  refine if_neg fun hstep => h ?_
  rwa [Bool.and_eq_true, decide_eq_true_iff] at hstep

theorem forall₂_rings_map (f : Position α → Position α)
    {p q : Polygon α} (h : List.Forall₂ ring p.rings q.rings) :
    List.Forall₂ (fun a b => ∃ c, ring a c ∧ b = Path.close (c.map f)) p.rings
      (q.mapRings (·.map f)).rings := by
  rw [Polygon.rings_mapRings]
  exact List.forall₂_map_right_iff.2 (h.imp fun _ _ hab => ⟨_, hab, rfl⟩)

mutual

/-- Moving the vertices keeps the structure; a ring that comes open is closed again. -/
theorem Corresponds.map (f : Position α → Position α) :
    ∀ {s t : Shape α}, Corresponds vertex line ring s t →
      Corresponds (fun p q => ∃ r, vertex p r ∧ q = f r) (fun a b => ∃ c, line a c ∧ b = c.map f)
        (fun a b => ∃ c, ring a c ∧ b = Path.close (c.map f)) s (t.map f)
  | .point _, _, .point h => .point ⟨_, h, rfl⟩
  | .multiPoint _, _, .multiPoint h =>
    .multiPoint (List.forall₂_map_right_iff.2 (h.imp fun _ _ hpq => ⟨_, hpq, rfl⟩))
  | .lineString _, _, .lineString h => .lineString ⟨_, h, rfl⟩
  | .multiLineString _, _, .multiLineString h =>
    .multiLineString (List.forall₂_map_right_iff.2 (h.imp fun _ _ hab => ⟨_, hab, rfl⟩))
  | .polygon _, _, .polygon h => .polygon (forall₂_rings_map f h)
  | .multiPolygon _, _, .multiPolygon h =>
    .multiPolygon (List.forall₂_map_right_iff.2 (h.imp fun _ _ => forall₂_rings_map f))
  | .collection _, _, .collection h => .collection (forall₂_corresponds_map f h)

theorem forall₂_corresponds_map (f : Position α → Position α) :
    ∀ {ss ts : List (Shape α)}, List.Forall₂ (Corresponds vertex line ring) ss ts →
      List.Forall₂
        (Corresponds (fun p q => ∃ r, vertex p r ∧ q = f r) (fun a b => ∃ c, line a c ∧ b = c.map f)
          fun a b => ∃ c, ring a c ∧ b = Path.close (c.map f)) ss (mapMembers f ts)
  | [], _, .nil => .nil
  | _ :: _, _, .cons h hs => .cons (h.map f) (forall₂_corresponds_map f hs)

end

theorem flatten_rings_map {f : Position α → Position α} {p : Polygon α}
    (h : ∀ ring ∈ p.rings, Path.close (ring.map f) = ring.map f) :
    (p.mapRings (·.map f)).rings.flatten = p.rings.flatten.map f := by
  rw [Polygon.rings_mapRings, List.map_congr_left h, List.map_flatten]

mutual

/-- Where no ring comes open each vertex has its image in the same place of the list of all. -/
theorem Corresponds.vertices_map {f : Position α → Position α} :
    ∀ {s t : Shape α}, Corresponds vertex line ring s t →
      (∀ a ∈ t.rings, Path.close (a.map f) = a.map f) → (t.map f).vertices = t.vertices.map f
  | _, .point _, _, _ => rfl
  | _, .multiPoint _, _, _ => rfl
  | _, .lineString _, _, _ => rfl
  | _, .multiLineString _, _, _ => List.map_flatten.symm
  | _, .polygon _, _, h => flatten_rings_map h
  | _, .multiPolygon ps, _, h => by
    unfold map vertices
    rw [List.flatMap_map, List.map_flatMap]
    exact List.flatMap_congr fun p hp =>
      flatten_rings_map fun a ha => h a (List.mem_flatMap.2 ⟨p, hp, ha⟩)
  | _, .collection _, .collection hs, h => memberVertices_mapMembers hs h

theorem memberVertices_mapMembers {f : Position α → Position α} :
    ∀ {ss ts : List (Shape α)}, List.Forall₂ (Corresponds vertex line ring) ss ts →
      (∀ a ∈ memberRings ts, Path.close (a.map f) = a.map f) →
        memberVertices (mapMembers f ts) = (memberVertices ts).map f
  | [], [], .nil, _ => rfl
  | _ :: _, _ :: _, .cons h hs, hrings => by
    unfold mapMembers memberVertices
    rw [List.map_append, h.vertices_map fun a ha => hrings a (List.mem_append_left _ ha),
      memberVertices_mapMembers hs fun a ha => hrings a (List.mem_append_right _ ha)]

end

mutual

theorem corresponds_plain : ∀ s : Shape α, Corresponds Eq Eq Eq s.plain s.plain
  | .point _ => .point rfl
  | .multiPoint _ => .multiPoint (List.forall₂_same.2 fun _ _ => rfl)
  | .segment _ _ => .lineString rfl
  | .lineString _ => .lineString rfl
  | .multiLineString _ => .multiLineString (List.forall₂_same.2 fun _ _ => rfl)
  | .polygon _ => .polygon (List.forall₂_same.2 fun _ _ => rfl)
  | .rectangle _ _ => .polygon (List.forall₂_same.2 fun _ _ => rfl)
  | .triangle _ _ _ => .polygon (List.forall₂_same.2 fun _ _ => rfl)
  | .multiPolygon _ =>
    .multiPolygon (List.forall₂_same.2 fun _ _ => List.forall₂_same.2 fun _ _ => rfl)
  | .collection members => .collection (forall₂_plainMembers members)

theorem forall₂_plainMembers : ∀ members : List (Shape α),
    List.Forall₂ (Corresponds Eq Eq Eq) (plainMembers members) (plainMembers members)
  | [] => .nil
  | s :: ss => .cons (corresponds_plain s) (forall₂_plainMembers ss)

end

end

section

variable {α : Type} [Scalar α]

mutual

/-- What a sound shape stands for is sound. -/
theorem IsSound.plain [Scalar.FiniteRefl α] : ∀ {s : Shape α}, s.IsSound → s.plain.IsSound
  | .point _, h => h
  | .multiPoint _, h => h
  | .segment _ _, h => ⟨h.isFinite, h.isClosed⟩
  | .lineString _, h => h
  | .multiLineString _, h => h
  | .polygon _, h => h
  | .rectangle _ _, h => isSound_rectanglePolygon h
  | .triangle _ _ _, h => isSound_trianglePolygon h
  | .multiPolygon _, h => h
  | .collection _, h => isSound_plainMembers h

theorem isSound_plainMembers [Scalar.FiniteRefl α] : ∀ {ss : List (Shape α)},
    (collection ss).IsSound → (collection (plainMembers ss)).IsSound
  | [], h => h
  | _ :: _, h =>
    have hparts := isSound_collection_cons.1 h
    isSound_collection_cons.2 ⟨hparts.1.plain, isSound_plainMembers hparts.2⟩

end

end

end Shape

end Graticule
