import Graticule.Geometry.Basic
import Graticule.Geometry.GeoJson
import Graticule.Proofs.Except
import Graticule.Proofs.Geometry.Vertices

/-!
# Reading back what was written as GeoJSON

Every level of nesting has two lemmas: what is written for a sound value is read as that value, and
what is read from finite numbers is sound.  The two together carry a shape through a collection of
any depth; the first says what a written shape reads as, the second that reading is stable.
-/

namespace Graticule

variable {α : Type} [Scalar α]

/-- All numbers in the value are finite, as they are in every text. -/
inductive Json.IsFinite : Json α → Prop
  | null : IsFinite .null
  | bool (b : Bool) : IsFinite (.bool b)
  | integer {n : Int} (h : Scalar.isFinite (Scalar.ofInt n : α) = true) : IsFinite (.integer n)
  | real {x : α} (h : Scalar.isFinite x = true) : IsFinite (.real x)
  | string (s : String) : IsFinite (.string s)
  | array {items : List (Json α)} (h : ∀ v ∈ items, IsFinite v) : IsFinite (.array items)
  | object {members : List (String × Json α)} (h : ∀ m ∈ members, IsFinite m.2) :
    IsFinite (.object members)

namespace Json

@[simp] theorem isFinite_integer {n : Int} :
    (integer n : Json α).IsFinite ↔ Scalar.isFinite (Scalar.ofInt n : α) = true :=
  ⟨fun | .integer h => h, .integer⟩

@[simp] theorem isFinite_real {x : α} : (real x).IsFinite ↔ Scalar.isFinite x = true :=
  ⟨fun | .real h => h, .real⟩

@[simp] theorem isFinite_string {s : String} : (string s : Json α).IsFinite := .string s

@[simp] theorem isFinite_array {items : List (Json α)} :
    (array items).IsFinite ↔ ∀ v ∈ items, v.IsFinite :=
  ⟨fun | .array h => h, .array⟩

@[simp] theorem isFinite_object {members : List (String × Json α)} :
    (object members).IsFinite ↔ ∀ m ∈ members, m.2.IsFinite :=
  ⟨fun | .object h => h, .object⟩

theorem IsFinite.isFinite_number {v : Json α} (hv : v.IsFinite) {x : α}
    (h : v.number? = some x) : Scalar.isFinite x = true := by
  cases hv with
  | integer hn =>
    cases h
    exact hn
  | real hx =>
    cases h
    exact hx
  | _ => cases h

end Json

namespace Shape

/-! ## Coordinates -/

theorem positionOf_positionJson {p : Position α} (hp : p.isFinite = true) :
    positionOf (positionJson p) = .ok p := by
  obtain ⟨hx, hy⟩ := Bool.and_eq_true_iff.1 hp
  unfold positionJson Json.ofScalar
  rw [if_pos hx, if_pos hy]
  rfl

theorem pathOf_pathJson {path : Path α} (h : ∀ p ∈ path, p.isFinite = true) :
    pathOf (pathJson path) = .ok path :=
  mapM_map_eq_ok fun p hp => positionOf_positionJson (h p hp)

theorem polygonOf_polygonJson {p : Polygon α} (h : (polygon p).IsSound) :
    polygonOf (polygonJson p) = .ok p := by
  have hrings : (p.rings.map pathJson).mapM pathOf = .ok p.rings :=
    mapM_map_eq_ok fun ring hring => pathOf_pathJson (isSound_polygon.1 h ring hring).1
  have hclosed : Polygon.ofPaths p.exterior p.holes = p :=
    Polygon.ofPaths_of_isClosed h.isClosed
  unfold polygonOf polygonJson
  change ((p.rings.map pathJson).mapM pathOf >>= _) = _
  rw [hrings]
  exact congrArg Except.ok hclosed

theorem isFinite_of_itemsOf {v : Json α} (hv : v.IsFinite) {items : List (Json α)}
    (h : itemsOf v = .ok items) : ∀ item ∈ items, item.IsFinite := by
  cases hv with
  | array hitems =>
    cases h
    exact hitems
  | _ => cases h

theorem isFinite_of_positionOf {v : Json α} (hv : v.IsFinite) {p : Position α}
    (h : positionOf v = .ok p) : p.isFinite = true := by
  obtain ⟨items, hitems, hread⟩ := exists_of_bind_eq_ok h
  have hfinite := isFinite_of_itemsOf hv hitems
  split at hread
  next x y rest =>
    split at hread
    next hx hy =>
      cases hread
      have hx := (hfinite x List.mem_cons_self).isFinite_number hx
      have hy := (hfinite y (List.mem_cons_of_mem x List.mem_cons_self)).isFinite_number hy
      exact Bool.and_eq_true_iff.2 ⟨hx, hy⟩
    next => cases hread
  next => cases hread

theorem isFinite_of_pathOf {v : Json α} (hv : v.IsFinite) {path : Path α}
    (h : pathOf v = .ok path) : ∀ p ∈ path, p.isFinite = true := by
  obtain ⟨items, hitems, hread⟩ := exists_of_bind_eq_ok h
  intro p hp
  obtain ⟨item, hitem, hposition⟩ := exists_of_mem_mapM_eq_ok hread p hp
  exact isFinite_of_positionOf (isFinite_of_itemsOf hv hitems item hitem) hposition

theorem isSound_of_polygonOf [Scalar.FiniteRefl α] {v : Json α} (hv : v.IsFinite) {p : Polygon α}
    (h : polygonOf v = .ok p) : (polygon p).IsSound := by
  obtain ⟨items, hitems, hread⟩ := exists_of_bind_eq_ok h
  obtain ⟨paths, hpaths, hmake⟩ := exists_of_bind_eq_ok hread
  have hfinite : ∀ path ∈ paths, ∀ q ∈ path, q.isFinite = true := by
    intro path hpath
    obtain ⟨item, hitem, hpath⟩ := exists_of_mem_mapM_eq_ok hpaths path hpath
    exact isFinite_of_pathOf (isFinite_of_itemsOf hv hitems item hitem) hpath
  cases paths with
  | nil =>
    cases hmake
    refine isSound_ofPaths fun path hpath => ?_
    rw [List.mem_singleton.1 hpath]
    exact fun q hq => absurd hq List.not_mem_nil
  | cons exterior holes =>
    cases hmake
    exact isSound_ofPaths hfinite

/-! ## Kinds -/

theorem ofGeoJson_typed {kind : String} (hfeature : kind ≠ "Feature")
    (hcollection : kind ≠ "GeometryCollection") (v : Json α) :
    ofGeoJson (typed kind v) = ofCoordinates kind v := by
  unfold typed ofGeoJson
  have hkind : ([("coordinates", v), ("type", Json.string kind)].lookup "type").bind Json.string? =
      some kind := rfl
  rw [hkind]
  split
  next => contradiction
  next h => exact absurd (Option.some.inj h) hfeature
  next h => exact absurd (Option.some.inj h) hcollection
  next h =>
    cases h
    rfl

theorem ofGeoJson_lineString {path : Path α} (h : ∀ p ∈ path, p.isFinite = true) :
    ofGeoJson (typed "LineString" (pathJson path)) = .ok (lineString path) := by
  rw [ofGeoJson_typed (by decide) (by decide)]
  change lineString <$> pathOf (pathJson path) = _
  rw [pathOf_pathJson h]
  rfl

theorem ofGeoJson_polygon {p : Polygon α} (h : (polygon p).IsSound) :
    ofGeoJson (typed "Polygon" (polygonJson p)) = .ok (polygon p) := by
  rw [ofGeoJson_typed (by decide) (by decide)]
  change polygon <$> polygonOf (polygonJson p) = _
  rw [polygonOf_polygonJson h]
  rfl

theorem ofGeoJson_collection (items : List (Json α)) :
    ofGeoJson (.object [("geometries", .array items), ("type", .string "GeometryCollection")]) =
      collection <$> ofItems items := by
  unfold ofGeoJson
  change ofCollection _ = _
  unfold ofCollection
  rfl

mutual

theorem ofGeoJson_toGeoJson [Scalar.FiniteRefl α] : ∀ {s : Shape α}, s.IsSound →
    ofGeoJson s.toGeoJson = .ok s.plain
  | point p, h => by
    rw [toGeoJson, ofGeoJson_typed (by decide) (by decide)]
    change point <$> positionOf (positionJson p) = _
    rw [positionOf_positionJson (h.isFinite p List.mem_cons_self)]
    rfl
  | multiPoint ps, h => by
    rw [toGeoJson, ofGeoJson_typed (by decide) (by decide)]
    have hps : pathOf (pathJson ps) = .ok ps := pathOf_pathJson h.isFinite
    change multiPoint <$> pathOf (pathJson ps) = _
    rw [hps]
    rfl
  | segment _ _, h => by
    rw [toGeoJson]
    exact ofGeoJson_lineString h.isFinite
  | lineString _, h => by
    rw [toGeoJson]
    exact ofGeoJson_lineString h.isFinite
  | multiLineString paths, h => by
    rw [toGeoJson, ofGeoJson_typed (by decide) (by decide)]
    change multiLineString <$> (paths.map pathJson).mapM pathOf = _
    rw [mapM_map_eq_ok fun path hpath =>
      pathOf_pathJson fun p hp => h.isFinite p (List.mem_flatten_of_mem hpath hp)]
    rfl
  | polygon _, h => by
    rw [toGeoJson]
    exact ofGeoJson_polygon h
  | rectangle _ _, h => by
    rw [toGeoJson]
    exact ofGeoJson_polygon (isSound_rectanglePolygon h)
  | triangle _ _ _, h => by
    rw [toGeoJson]
    exact ofGeoJson_polygon (isSound_trianglePolygon h)
  | multiPolygon ps, h => by
    rw [toGeoJson, ofGeoJson_typed (by decide) (by decide)]
    change multiPolygon <$> (ps.map polygonJson).mapM polygonOf = _
    rw [mapM_map_eq_ok fun p hp => polygonOf_polygonJson (isSound_multiPolygon.1 h p hp)]
    rfl
  | collection _, h => by
    rw [toGeoJson, ofGeoJson_collection, ofItems_membersToGeoJson h]
    rfl

theorem ofItems_membersToGeoJson [Scalar.FiniteRefl α] : ∀ {ss : List (Shape α)},
    (collection ss).IsSound → ofItems (membersToGeoJson ss) = .ok (plainMembers ss)
  | [], _ => rfl
  | s :: ss, h => by
    obtain ⟨hs, hss⟩ := isSound_collection_cons.1 h
    rw [membersToGeoJson, ofItems, ofGeoJson_toGeoJson hs, ofItems_membersToGeoJson hss]
    rfl

end

/-! ## What is read -/

theorem isSound_of_ofCoordinates [Scalar.FiniteRefl α] {kind : String} {v : Json α}
    (hv : v.IsFinite) {s : Shape α} (h : ofCoordinates kind v = .ok s) :
    s.IsSound ∧ s.plain = s := by
  unfold ofCoordinates at h
  split at h
  next =>
    obtain ⟨p, hp, rfl⟩ := exists_of_map_eq_ok h
    refine ⟨isSound_of_rings_eq_nil rfl fun q hq => ?_, rfl⟩
    rw [List.mem_singleton.1 hq]
    exact isFinite_of_positionOf hv hp
  next =>
    obtain ⟨ps, hps, rfl⟩ := exists_of_map_eq_ok h
    exact ⟨isSound_of_rings_eq_nil rfl (isFinite_of_pathOf hv hps), rfl⟩
  next =>
    obtain ⟨path, hpath, rfl⟩ := exists_of_map_eq_ok h
    exact ⟨isSound_of_rings_eq_nil rfl (isFinite_of_pathOf hv hpath), rfl⟩
  next =>
    obtain ⟨items, hitems, hread⟩ := exists_of_bind_eq_ok h
    obtain ⟨paths, hpaths, rfl⟩ := exists_of_map_eq_ok hread
    refine ⟨isSound_of_rings_eq_nil rfl fun q hq => ?_, rfl⟩
    -- each vertex comes from an item, through the path that was read from it
    obtain ⟨path, hmem, hq⟩ := List.mem_flatten.1 hq
    obtain ⟨item, hitem, hpath⟩ := exists_of_mem_mapM_eq_ok hpaths path hmem
    exact isFinite_of_pathOf (isFinite_of_itemsOf hv hitems item hitem) hpath q hq
  next =>
    obtain ⟨p, hp, rfl⟩ := exists_of_map_eq_ok h
    exact ⟨isSound_of_polygonOf hv hp, rfl⟩
  next =>
    obtain ⟨items, hitems, hread⟩ := exists_of_bind_eq_ok h
    obtain ⟨ps, hps, rfl⟩ := exists_of_map_eq_ok hread
    refine ⟨isSound_multiPolygon.2 fun p hmem => ?_, rfl⟩
    obtain ⟨item, hitem, hp⟩ := exists_of_mem_mapM_eq_ok hps p hmem
    exact isSound_of_polygonOf (isFinite_of_itemsOf hv hitems item hitem) hp
  next => cases h

theorem isFinite_of_lookup {members : List (String × Json α)} (hm : ∀ m ∈ members, m.2.IsFinite)
    {key : String} {v : Json α} (h : members.lookup key = some v) : v.IsFinite := by
  obtain ⟨before, after, rfl, _⟩ := List.lookup_eq_some_iff.1 h
  exact hm (key, v) (List.mem_append_right _ List.mem_cons_self)

mutual

theorem isSound_of_ofGeoJson [Scalar.FiniteRefl α] : ∀ {v : Json α} {s : Shape α},
    v.IsFinite → ofGeoJson v = .ok s → s.IsSound ∧ s.plain = s
  | .object members, s, hv, h => by
    have hm : ∀ m ∈ members, m.2.IsFinite := Json.isFinite_object.1 hv
    unfold ofGeoJson at h
    split at h
    next => cases h
    next => exact isSound_of_ofFeature hm h
    next => exact isSound_of_ofCollection hm h
    next =>
      split at h
      next => cases h
      next hlookup => exact isSound_of_ofCoordinates (isFinite_of_lookup hm hlookup) h

theorem isSound_of_ofFeature [Scalar.FiniteRefl α] :
    ∀ {members : List (String × Json α)} {s : Shape α}, (∀ m ∈ members, m.2.IsFinite) →
      ofFeature members = .ok s → s.IsSound ∧ s.plain = s
  | (name, v) :: rest, s, hm, h => by
    unfold ofFeature at h
    split at h
    · exact isSound_of_ofGeoJson (hm (name, v) List.mem_cons_self) h
    · exact isSound_of_ofFeature (fun m hmem => hm m (List.mem_cons_of_mem _ hmem)) h

theorem isSound_of_ofCollection [Scalar.FiniteRefl α] :
    ∀ {members : List (String × Json α)} {s : Shape α}, (∀ m ∈ members, m.2.IsFinite) →
      ofCollection members = .ok s → s.IsSound ∧ s.plain = s
  | (name, v) :: rest, s, hm, h => by
    unfold ofCollection at h
    split at h
    · split at h
      next items =>
        have hitems : ∀ v ∈ items, v.IsFinite :=
          Json.isFinite_array.1 (hm (name, .array items) List.mem_cons_self)
        obtain ⟨ss, hss, rfl⟩ := exists_of_map_eq_ok h
        obtain ⟨hsound, hplain⟩ := isSound_of_ofItems hitems hss
        exact ⟨hsound, congrArg collection hplain⟩
      next => cases h
    · exact isSound_of_ofCollection (fun m hmem => hm m (List.mem_cons_of_mem _ hmem)) h

theorem isSound_of_ofItems [Scalar.FiniteRefl α] :
    ∀ {items : List (Json α)} {ss : List (Shape α)}, (∀ v ∈ items, v.IsFinite) →
      ofItems items = .ok ss → (collection ss).IsSound ∧ plainMembers ss = ss
  | [], ss, hv, h => by
    cases h
    exact ⟨isSound_of_rings_eq_nil rfl fun p hp => absurd hp List.not_mem_nil, rfl⟩
  | v :: vs, ss, hv, h => by
    unfold ofItems at h
    obtain ⟨s, hs, hrest⟩ := exists_of_bind_eq_ok h
    obtain ⟨ss', hss, hcons⟩ := exists_of_bind_eq_ok hrest
    cases hcons
    obtain ⟨hsound, hplain⟩ := isSound_of_ofGeoJson (hv v List.mem_cons_self) hs
    obtain ⟨hsounds, hplains⟩ :=
      isSound_of_ofItems (fun w hw => hv w (List.mem_cons_of_mem v hw)) hss
    exact ⟨isSound_collection_cons.2 ⟨hsound, hsounds⟩, by rw [plainMembers, hplain, hplains]⟩

end

end Shape

namespace Geometry

/-- A geometry is read back from what was written for it, with lines between two points, rectangles
and triangles as the paths and polygons they stand for; and whatever is read at all is written so
that it reads the same. -/
theorem geoJson_read_back :
    (∀ g : Geometry Float, g.shape.IsSound →
      (Geometry.mk · g.crs) <$> Shape.ofGeoJson g.shape.toGeoJson =
        .ok (g.withShape g.shape.plain)) ∧
    (∀ (v : Json Float) (crs : Option (Crs Float)) (g : Geometry Float), v.IsFinite →
      (Geometry.mk · crs) <$> Shape.ofGeoJson v = .ok g →
      (Geometry.mk · crs) <$> Shape.ofGeoJson g.shape.toGeoJson = .ok g) := by
  constructor
  · intro g hg
    rw [Shape.ofGeoJson_toGeoJson hg]
    rfl
  · intro v crs g hv h
    obtain ⟨s, hs, rfl⟩ := exists_of_map_eq_ok h
    obtain ⟨hsound, hplain⟩ := Shape.isSound_of_ofGeoJson hv hs
    rw [Shape.ofGeoJson_toGeoJson hsound, hplain]
    rfl

def nestedShape : Shape Float :=
  .collection
    [.rectangle ⟨0, 0⟩ ⟨2, 1⟩,
      .collection [.segment ⟨0, 0⟩ ⟨0.5, 3⟩, .point ⟨-1, 4⟩],
      .polygon ⟨[], []⟩,
      .multiPolygon
        [⟨[⟨0, 0⟩, ⟨3, 0⟩, ⟨0, 3⟩, ⟨0, 0⟩], [[⟨1, 1⟩, ⟨1.5, 1⟩, ⟨1, 1.5⟩, ⟨1, 1⟩], []]⟩]]

def openFeature : Json Float :=
  .object
    [("geometry", .object
        [("coordinates", .array
            [.array
              [.array [.integer 0, .integer 0, .real 7.5],
                .array [.integer 1, .integer 0],
                .array [.integer 0, .real 0.5]]]),
          ("type", .string "Polygon")]),
      ("type", .string "Feature")]

theorem isFinite_openFeature : openFeature.IsFinite := by
  simp only [openFeature, Json.isFinite_object, Json.isFinite_array, Json.isFinite_integer,
    Json.isFinite_real, Json.isFinite_string, List.mem_cons, List.not_mem_nil, or_false,
    forall_eq_or_imp, forall_eq, and_true]
  decide +kernel

/-- Both halves apply: the nested shape reads back as its plain form, and the feature as the closed
ring that it was read as. -/
theorem geoJson_read_back_nested :
    (Geometry.mk · none) <$> Shape.ofGeoJson nestedShape.toGeoJson = .ok ⟨nestedShape.plain, none⟩ ∧
    ∃ g : Geometry Float, (Geometry.mk · none) <$> Shape.ofGeoJson openFeature = .ok g ∧
      (Geometry.mk · none) <$> Shape.ofGeoJson g.shape.toGeoJson = .ok g := by
  constructor
  · exact geoJson_read_back.1 ⟨nestedShape, none⟩ ⟨by decide +kernel, by decide +kernel⟩
  · refine ⟨⟨.polygon (.ofPaths
      [⟨Scalar.ofInt 0, Scalar.ofInt 0⟩, ⟨Scalar.ofInt 1, Scalar.ofInt 0⟩, ⟨Scalar.ofInt 0, 0.5⟩]
      []), none⟩, rfl, ?_⟩
    exact geoJson_read_back.2 openFeature none _ isFinite_openFeature rfl

end Geometry

end Graticule
