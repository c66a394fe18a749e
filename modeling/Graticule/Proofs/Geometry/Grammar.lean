import Graticule.Proofs.Geometry.GeoJson

/-!
# The grammar of GeoJSON

`GeoJson.Derives v s` says that the value `v` is derived by the grammar and stands for a shape `s`:
each production says what its value looks like and what vertices it gives.  A position gives one
vertex; an array gives one part for each item, in order; and a ring of a polygon gives one vertex
more where it is not empty and its ends differ.

The reader accepts exactly what is derived, with the shape that the derivation gives, and every
rejection is of one kind: `Geometry.geoJson_eq_ok_iff_derives`.  There is one lemma for each
production, and the values within values are handled by recursion along the value.
-/

namespace Graticule

namespace GeoJson

variable {α β : Type}

/-- An array whose items stand for the entries of a list, one for one and in their order. -/
inductive IsArray (item : Json α → β → Prop) : Json α → List β → Prop
  | array {vs bs} (h : List.Forall₂ item vs bs) : IsArray item (.array vs) bs

section
variable [Scalar α]

/-- A position is an array whose first two items are numbers, the coordinates of its point. -/
inductive IsPosition : Json α → Position α → Prop
  | array {v w : Json α} {x y : α} (hx : v.number? = some x) (hy : w.number? = some y)
    (rest : List (Json α)) : IsPosition (.array (v :: w :: rest)) ⟨x, y⟩

def IsPath : Json α → Path α → Prop := IsArray IsPosition

/-- The ring of a path has one vertex more, the first once again, where the path is not empty and
its ends differ. -/
inductive Closes : Path α → Path α → Prop
  | empty : Closes [] []
  | closed {p path} (h : (p == (p :: path).getLast (List.cons_ne_nil p path)) = true) :
    Closes (p :: path) (p :: path)
  | opened {p path} (h : ¬(p == (p :: path).getLast (List.cons_ne_nil p path)) = true) :
    Closes (p :: path) (p :: path ++ [p])

def IsRing (v : Json α) (ring : Path α) : Prop := ∃ path, IsPath v path ∧ Closes path ring

/-- A polygon is an array of rings, the outer one first; without any, its outer ring is empty. -/
inductive IsPolygon : Json α → Polygon α → Prop
  | empty : IsPolygon (.array []) ⟨[], []⟩
  | rings {v vs exterior holes} (h : IsRing v exterior) (hs : List.Forall₂ IsRing vs holes) :
    IsPolygon (.array (v :: vs)) ⟨exterior, holes⟩

/-- The coordinates of the six kinds of shapes that have them. -/
inductive IsOfKind : String → Json α → Shape α → Prop
  | point {v p} (h : IsPosition v p) : IsOfKind "Point" v (.point p)
  | multiPoint {v ps} (h : IsPath v ps) : IsOfKind "MultiPoint" v (.multiPoint ps)
  | lineString {v path} (h : IsPath v path) : IsOfKind "LineString" v (.lineString path)
  | multiLineString {v paths} (h : IsArray IsPath v paths) :
    IsOfKind "MultiLineString" v (.multiLineString paths)
  | polygon {v p} (h : IsPolygon v p) : IsOfKind "Polygon" v (.polygon p)
  | multiPolygon {v ps} (h : IsArray IsPolygon v ps) : IsOfKind "MultiPolygon" v (.multiPolygon ps)

/-- The grammar: what value is derived, and the shape that it stands for. -/
inductive Derives : Json α → Shape α → Prop
  | feature {members v s} (htype : members.lookup "type" = some (.string "Feature"))
    (hgeometry : members.lookup "geometry" = some v) (h : Derives v s) :
    Derives (.object members) s
  | collection {members items ss}
    (htype : members.lookup "type" = some (.string "GeometryCollection"))
    (hitems : members.lookup "geometries" = some (.array items))
    (h : List.Forall₂ Derives items ss) : Derives (.object members) (.collection ss)
  | coordinates {members kind v s} (htype : members.lookup "type" = some (.string kind))
    (hcoordinates : members.lookup "coordinates" = some v) (h : IsOfKind kind v s) :
    Derives (.object members) s

end

/-! ## Arrays and members -/

theorem isArray_iff {item : Json α → β → Prop} {v : Json α} {bs : List β} :
    IsArray item v bs ↔ ∃ vs, v = .array vs ∧ List.Forall₂ item vs bs := by
  constructor
  · rintro ⟨h⟩
    exact ⟨_, rfl, h⟩
  · rintro ⟨vs, rfl, h⟩
    exact .array h

theorem itemsOf_eq_ok_iff {v : Json α} {items : List (Json α)} :
    Shape.itemsOf v = .ok items ↔ v = .array items := by
  cases v <;> simp [Shape.itemsOf]

/-- The items of an array are read one by one. -/
theorem mapM_itemsOf_eq_ok_iff {f : Json α → Except (Error α) β} {item : Json α → β → Prop}
    (hf : ∀ v b, f v = .ok b ↔ item v b) {v : Json α} {bs : List β} :
    (Shape.itemsOf v >>= fun items => items.mapM f) = .ok bs ↔ IsArray item v bs := by
  rw [bind_eq_ok_iff, isArray_iff]
  apply exists_congr
  intro vs
  rw [itemsOf_eq_ok_iff, mapM_eq_ok_iff]
  simp only [hf]

theorem map_mapM_itemsOf_eq_ok_iff {γ : Type} {f : Json α → Except (Error α) β}
    {item : Json α → β → Prop} (hf : ∀ v b, f v = .ok b ↔ item v b) {make : List β → γ} {v : Json α}
    {c : γ} :
    (Shape.itemsOf v >>= fun items => make <$> items.mapM f) = .ok c ↔
      ∃ bs, IsArray item v bs ∧ make bs = c := by
  rw [← map_bind, map_eq_ok_iff]
  simp only [mapM_itemsOf_eq_ok_iff hf]

theorem type_eq_some_iff {members : List (String × Json α)} {kind : String} :
    (members.lookup "type").bind Json.string? = some kind ↔
      members.lookup "type" = some (.string kind) := by
  rw [Option.bind_eq_some_iff]
  constructor
  · rintro ⟨v, hv, hkind⟩
    cases v with
    | string s =>
      cases hkind
      exact hv
    | _ => cases hkind
  · intro h
    exact ⟨_, h, rfl⟩

theorem lookup_cons_eq_ite (key name : String) (v : Json α) (rest : List (String × Json α)) :
    ((name, v) :: rest).lookup key = if name == key then some v else rest.lookup key := by
  rw [List.lookup_cons, BEq.comm]
  cases name == key <;> rfl

def IsRejection (e : Error α) : Prop := e.kind = .invalidGeometry

theorem faultsIn_itemsOf (v : Json α) : FaultsIn IsRejection (Shape.itemsOf v) := by
  unfold Shape.itemsOf
  split
  next => exact faultsIn_ok _
  next => exact faultsIn_error rfl

variable [Scalar α]

/-! ## Coordinates -/

theorem isClosed_cons (p : Position α) (path : Path α) :
    Path.isClosed (p :: path) = (p == (p :: path).getLast (List.cons_ne_nil p path)) := by
  unfold Path.isClosed
  rw [List.getLast?_eq_some_getLast (List.cons_ne_nil p path)]
  rfl

theorem closes_iff {path ring : Path α} : Closes path ring ↔ path.close = ring := by
  constructor
  · intro h
    cases h with
    | empty => rfl
    | closed h => rw [Path.close_cons, isClosed_cons, if_pos h]
    | opened h => rw [Path.close_cons, isClosed_cons, if_neg h]
  · rintro rfl
    cases path with
    | nil => exact .empty
    | cons p path =>
      rw [Path.close_cons, isClosed_cons]
      split
      next h => exact .closed h
      next h => exact .opened h

theorem positionOf_eq_ok_iff (v : Json α) (p : Position α) :
    Shape.positionOf v = .ok p ↔ IsPosition v p := by
  constructor
  · intro h
    obtain ⟨items, hitems, hread⟩ := exists_of_bind_eq_ok h
    rw [itemsOf_eq_ok_iff] at hitems
    split at hread
    next v w rest =>
      split at hread
      next hx hy =>
        cases hread
        rw [hitems]
        exact .array hx hy rest
      next => cases hread
    next => cases hread
  · intro h
    cases h with
    | array hx hy rest =>
      simp only [Shape.positionOf, Shape.itemsOf, bind, Except.bind, hx, hy]

theorem pathOf_eq_ok_iff (v : Json α) (path : Path α) :
    Shape.pathOf v = .ok path ↔ IsPath v path :=
  mapM_itemsOf_eq_ok_iff positionOf_eq_ok_iff

theorem isRing_iff {v : Json α} {ring : Path α} :
    IsRing v ring ↔ ∃ path, Shape.pathOf v = .ok path ∧ path.close = ring := by
  simp only [IsRing, pathOf_eq_ok_iff, closes_iff]

theorem forall₂_isRing_iff {vs : List (Json α)} {rings : List (Path α)} :
    List.Forall₂ IsRing vs rings ↔
      ∃ paths, vs.mapM Shape.pathOf = .ok paths ∧ paths.map Path.close = rings := by
  constructor
  · intro h
    induction h with
    | nil => exact ⟨[], rfl, rfl⟩
    | cons h _ ih =>
      obtain ⟨path, hpath, rfl⟩ := isRing_iff.1 h
      obtain ⟨paths, hpaths, rfl⟩ := ih
      exact ⟨path :: paths, mapM_eq_ok_iff.2 (.cons hpath (mapM_eq_ok_iff.1 hpaths)), rfl⟩
  · rintro ⟨paths, hpaths, rfl⟩
    rw [List.forall₂_map_right_iff]
    exact (mapM_eq_ok_iff.1 hpaths).imp fun _ path h => isRing_iff.2 ⟨path, h, rfl⟩

theorem polygonOf_eq_ok_iff (v : Json α) (p : Polygon α) :
    Shape.polygonOf v = .ok p ↔ IsPolygon v p := by
  unfold Shape.polygonOf
  constructor
  · intro h
    obtain ⟨items, hitems, hread⟩ := bind_eq_ok_iff.1 h
    obtain ⟨paths, hpaths, hmake⟩ := bind_eq_ok_iff.1 hread
    rw [itemsOf_eq_ok_iff] at hitems
    rw [hitems]
    have hrings := forall₂_isRing_iff.2 ⟨paths, hpaths, rfl⟩
    cases paths with
    | nil =>
      cases hmake
      cases hrings
      exact .empty
    | cons exterior holes =>
      cases hmake
      cases hrings with
      | cons h hs => exact .rings h hs
  · intro h
    cases h with
    | empty => rfl
    | rings h hs =>
      obtain ⟨paths, hpaths, hclose⟩ := forall₂_isRing_iff.1 (.cons h hs)
      refine bind_eq_ok_iff.2 ⟨_, rfl, bind_eq_ok_iff.2 ⟨paths, hpaths, ?_⟩⟩
      cases paths with
      | nil => cases hclose
      | cons exterior holes =>
        cases hclose
        rfl

theorem ofCoordinates_eq_ok_iff (kind : String) (v : Json α) (s : Shape α) :
    Shape.ofCoordinates kind v = .ok s ↔ IsOfKind kind v s := by
  constructor
  · intro h
    unfold Shape.ofCoordinates at h
    split at h
    next =>
      obtain ⟨p, hp, rfl⟩ := exists_of_map_eq_ok h
      exact .point ((positionOf_eq_ok_iff v p).1 hp)
    next =>
      obtain ⟨ps, hps, rfl⟩ := exists_of_map_eq_ok h
      exact .multiPoint ((pathOf_eq_ok_iff v ps).1 hps)
    next =>
      obtain ⟨path, hpath, rfl⟩ := exists_of_map_eq_ok h
      exact .lineString ((pathOf_eq_ok_iff v path).1 hpath)
    next =>
      obtain ⟨paths, hpaths, rfl⟩ := (map_mapM_itemsOf_eq_ok_iff pathOf_eq_ok_iff).1 h
      exact .multiLineString hpaths
    next =>
      obtain ⟨p, hp, rfl⟩ := exists_of_map_eq_ok h
      exact .polygon ((polygonOf_eq_ok_iff v p).1 hp)
    next =>
      obtain ⟨ps, hps, rfl⟩ := (map_mapM_itemsOf_eq_ok_iff polygonOf_eq_ok_iff).1 h
      exact .multiPolygon hps
    next => cases h
  · intro h
    cases h with
    | point h => exact map_eq_ok_iff.2 ⟨_, (positionOf_eq_ok_iff _ _).2 h, rfl⟩
    | multiPoint h => exact map_eq_ok_iff.2 ⟨_, (pathOf_eq_ok_iff _ _).2 h, rfl⟩
    | lineString h => exact map_eq_ok_iff.2 ⟨_, (pathOf_eq_ok_iff _ _).2 h, rfl⟩
    | multiLineString h => exact (map_mapM_itemsOf_eq_ok_iff pathOf_eq_ok_iff).2 ⟨_, h, rfl⟩
    | polygon h => exact map_eq_ok_iff.2 ⟨_, (polygonOf_eq_ok_iff _ _).2 h, rfl⟩
    | multiPolygon h => exact (map_mapM_itemsOf_eq_ok_iff polygonOf_eq_ok_iff).2 ⟨_, h, rfl⟩

/-! ## Members -/

theorem IsOfKind.ne {kind : String} {v : Json α} {s : Shape α} (h : IsOfKind kind v s) :
    kind ≠ "Feature" ∧ kind ≠ "GeometryCollection" := by
  cases h <;> decide

section

variable {members : List (String × Json α)} {s : Shape α}

theorem Derives.exists_type (h : Derives (.object members) s) :
    ∃ kind, members.lookup "type" = some (.string kind) := by
  cases h with
  | feature htype _ _ => exact ⟨_, htype⟩
  | collection htype _ _ => exact ⟨_, htype⟩
  | coordinates htype _ _ => exact ⟨_, htype⟩

theorem derives_feature_iff (h : members.lookup "type" = some (.string "Feature")) :
    Derives (.object members) s ↔
      ∃ v, members.lookup "geometry" = some v ∧ Derives v s := by
  constructor
  · intro hs
    cases hs with
    | feature _ hgeometry hv => exact ⟨_, hgeometry, hv⟩
    | collection htype _ _ => exact absurd (h.symm.trans htype) (by simp)
    | coordinates htype _ hkind =>
      cases h.symm.trans htype
      exact absurd rfl hkind.ne.1
  · rintro ⟨v, hgeometry, hv⟩
    exact .feature h hgeometry hv

theorem derives_collection_iff (h : members.lookup "type" = some (.string "GeometryCollection")) :
    Derives (.object members) s ↔ ∃ items ss, members.lookup "geometries" = some (.array items) ∧
      List.Forall₂ Derives items ss ∧ .collection ss = s := by
  constructor
  · intro hs
    cases hs with
    | feature htype _ _ => exact absurd (h.symm.trans htype) (by simp)
    | collection _ hitems hss => exact ⟨_, _, hitems, hss, rfl⟩
    | coordinates htype _ hkind =>
      cases h.symm.trans htype
      exact absurd rfl hkind.ne.2
  · rintro ⟨items, ss, hitems, hss, rfl⟩
    exact .collection h hitems hss

theorem derives_coordinates_iff {kind : String} (h : members.lookup "type" = some (.string kind))
    (hfeature : kind ≠ "Feature") (hcollection : kind ≠ "GeometryCollection") :
    Derives (.object members) s ↔
      ∃ v, members.lookup "coordinates" = some v ∧ IsOfKind kind v s := by
  constructor
  · intro hs
    cases hs with
    | feature htype _ _ =>
      cases h.symm.trans htype
      exact absurd rfl hfeature
    | collection htype _ _ =>
      cases h.symm.trans htype
      exact absurd rfl hcollection
    | coordinates htype hv hkind =>
      cases h.symm.trans htype
      exact ⟨_, hv, hkind⟩
  · rintro ⟨v, hv, hkind⟩
    exact .coordinates h hv hkind

end

mutual

theorem ofGeoJson_eq_ok_iff : ∀ (v : Json α) (s : Shape α),
    Shape.ofGeoJson v = .ok s ↔ Derives v s
  | .object members, s => by
    unfold Shape.ofGeoJson
    split
    next htype =>
      constructor
      · intro h
        cases h
      · intro h
        obtain ⟨kind, hkind⟩ := h.exists_type
        rw [type_eq_some_iff.2 hkind] at htype
        cases htype
    next htype =>
      rw [derives_feature_iff (type_eq_some_iff.1 htype), ofFeature_eq_ok_iff members s]
    next htype =>
      rw [derives_collection_iff (type_eq_some_iff.1 htype), ofCollection_eq_ok_iff members s]
    next kind hfeature hcollection htype =>
      rw [derives_coordinates_iff (type_eq_some_iff.1 htype) hfeature hcollection]
      split
      next hnone => simp [hnone]
      next v hv => simp [hv, ofCoordinates_eq_ok_iff]
  | .null, s | .bool _, s | .integer _, s | .real _, s | .string _, s | .array _, s => by
    unfold Shape.ofGeoJson
    constructor
    · intro h
      cases h
    · intro h
      cases h

theorem ofFeature_eq_ok_iff : ∀ (members : List (String × Json α)) (s : Shape α),
    Shape.ofFeature members = .ok s ↔ ∃ v, members.lookup "geometry" = some v ∧ Derives v s
  | [], s => by simp [Shape.ofFeature]
  | (name, v) :: rest, s => by
    unfold Shape.ofFeature
    rw [lookup_cons_eq_ite]
    split
    next => simp [ofGeoJson_eq_ok_iff v s]
    next => exact ofFeature_eq_ok_iff rest s

theorem ofCollection_eq_ok_iff : ∀ (members : List (String × Json α)) (s : Shape α),
    Shape.ofCollection members = .ok s ↔ ∃ items ss,
      members.lookup "geometries" = some (.array items) ∧ List.Forall₂ Derives items ss ∧
        .collection ss = s
  | [], s => by simp [Shape.ofCollection]
  | (name, v) :: rest, s => by
    unfold Shape.ofCollection
    rw [lookup_cons_eq_ite]
    split
    next =>
      split
      next items => simp [map_eq_ok_iff, ofItems_eq_ok_iff items]
      next h => simpa using fun items hv => absurd hv (h items)
    next => exact ofCollection_eq_ok_iff rest s

theorem ofItems_eq_ok_iff : ∀ (items : List (Json α)) (ss : List (Shape α)),
    Shape.ofItems items = .ok ss ↔ List.Forall₂ Derives items ss
  | [], ss => by
    rw [Shape.ofItems, List.forall₂_nil_left_iff]
    exact ⟨fun h => (Except.ok.inj h).symm, fun h => congrArg Except.ok h.symm⟩
  | v :: vs, ss => by
    rw [Shape.ofItems, bind_eq_ok_iff, List.forall₂_cons_left_iff]
    apply exists_congr
    intro s
    rw [bind_eq_ok_iff, ofGeoJson_eq_ok_iff v s]
    constructor
    · rintro ⟨hs, ss', hss, hcons⟩
      exact ⟨ss', hs, (ofItems_eq_ok_iff vs ss').1 hss, (Except.ok.inj hcons).symm⟩
    · rintro ⟨ss', hs, hss, rfl⟩
      exact ⟨hs, ss', (ofItems_eq_ok_iff vs ss').2 hss, rfl⟩

end

/-! ## Faults -/

theorem faultsIn_positionOf (v : Json α) : FaultsIn IsRejection (Shape.positionOf v) := by
  refine (faultsIn_itemsOf v).bind fun items => ?_
  split
  next =>
    split
    next => exact faultsIn_ok _
    next => exact faultsIn_error rfl
  next => exact faultsIn_error rfl

theorem faultsIn_pathOf (v : Json α) : FaultsIn IsRejection (Shape.pathOf v) :=
  (faultsIn_itemsOf v).bind fun items => .mapM faultsIn_positionOf items

theorem faultsIn_polygonOf (v : Json α) : FaultsIn IsRejection (Shape.polygonOf v) := by
  refine (faultsIn_itemsOf v).bind fun items => .bind (.mapM faultsIn_pathOf items) fun paths => ?_
  cases paths with
  | nil => exact faultsIn_ok _
  | cons exterior holes => exact faultsIn_ok _

theorem faultsIn_ofCoordinates (kind : String) (v : Json α) :
    FaultsIn IsRejection (Shape.ofCoordinates kind v) := by
  unfold Shape.ofCoordinates
  split
  next => exact (faultsIn_positionOf v).map _
  next => exact (faultsIn_pathOf v).map _
  next => exact (faultsIn_pathOf v).map _
  next => exact (faultsIn_itemsOf v).bind fun _ => (FaultsIn.mapM faultsIn_pathOf _).map _
  next => exact (faultsIn_polygonOf v).map _
  next => exact (faultsIn_itemsOf v).bind fun _ => (FaultsIn.mapM faultsIn_polygonOf _).map _
  next => exact faultsIn_error rfl

mutual

theorem faultsIn_ofGeoJson : ∀ v : Json α, FaultsIn IsRejection (Shape.ofGeoJson v)
  | .object members => by
    unfold Shape.ofGeoJson
    split
    next => exact faultsIn_error rfl
    next => exact faultsIn_ofFeature members
    next => exact faultsIn_ofCollection members
    next =>
      split
      next => exact faultsIn_error rfl
      next => exact faultsIn_ofCoordinates _ _
  | .null | .bool _ | .integer _ | .real _ | .string _ | .array _ => by
    unfold Shape.ofGeoJson
    exact faultsIn_error rfl

theorem faultsIn_ofFeature : ∀ members : List (String × Json α),
    FaultsIn IsRejection (Shape.ofFeature members)
  | [] => faultsIn_error rfl
  | (name, v) :: rest => by
    unfold Shape.ofFeature
    split
    next => exact faultsIn_ofGeoJson v
    next => exact faultsIn_ofFeature rest

theorem faultsIn_ofCollection : ∀ members : List (String × Json α),
    FaultsIn IsRejection (Shape.ofCollection members)
  | [] => faultsIn_error rfl
  | (name, v) :: rest => by
    unfold Shape.ofCollection
    split
    next =>
      split
      next items => exact (faultsIn_ofItems items).map _
      next => exact faultsIn_error rfl
    next => exact faultsIn_ofCollection rest

theorem faultsIn_ofItems : ∀ items : List (Json α),
    FaultsIn IsRejection (Shape.ofItems items)
  | [] => faultsIn_ok _
  | v :: vs => by
    unfold Shape.ofItems
    exact (faultsIn_ofGeoJson v).bind fun s => (faultsIn_ofItems vs).bind fun ss => faultsIn_ok _

end

end GeoJson

namespace Geometry

/-- The reader accepts exactly what the grammar derives, with the shape that the derivation gives
and the reference system that it was told, and rejects everything else as no geometry. -/
theorem geoJson_eq_ok_iff_derives {α : Type} [Scalar α] (v : Json α) (crs : Option (Crs α)) :
    (∀ g : Geometry α, (Geometry.mk · crs) <$> Shape.ofGeoJson v = .ok g ↔
      GeoJson.Derives v g.shape ∧ g.crs = crs) ∧
    ∀ e, (Geometry.mk · crs) <$> Shape.ofGeoJson v = .error e → e.kind = .invalidGeometry := by
  constructor
  · intro g
    rw [map_eq_ok_iff]
    simp only [GeoJson.ofGeoJson_eq_ok_iff]
    constructor
    · rintro ⟨s, hs, rfl⟩
      exact ⟨hs, rfl⟩
    · rintro ⟨hs, rfl⟩
      exact ⟨g.shape, hs, rfl⟩
  · exact (GeoJson.faultsIn_ofGeoJson v).map _

def openPath : Path Float := [⟨0, 0⟩, ⟨1, 0⟩, ⟨0, 0.5⟩]

theorem close_openPath : openPath.close = [⟨0, 0⟩, ⟨1, 0⟩, ⟨0, 0.5⟩, ⟨0, 0⟩] := by
  have hopen : ¬openPath.isClosed = true := by decide +kernel
  rw [openPath, Path.close_cons, ← openPath, if_neg hopen]
  rfl

def shortPoint : Json Float := Shape.typed "Point" (.array [.integer 7])

/-- The feature is derived as the closed ring, and the short point is rejected. -/
theorem geoJson_eq_ok_iff_derives_openFeature :
    GeoJson.Derives openFeature (.polygon ⟨[⟨0, 0⟩, ⟨1, 0⟩, ⟨0, 0.5⟩, ⟨0, 0⟩], []⟩) ∧
    ∃ e, (Geometry.mk · none) <$> Shape.ofGeoJson shortPoint = .error e ∧
      e.kind = .invalidGeometry := by
  constructor
  · have hread : (Geometry.mk · none) <$> Shape.ofGeoJson openFeature =
        .ok ⟨.polygon ⟨openPath.close, []⟩, none⟩ := rfl
    rw [close_openPath] at hread
    exact (((geoJson_eq_ok_iff_derives openFeature none).1 _).1 hread).1
  · exact ⟨_, rfl, (geoJson_eq_ok_iff_derives shortPoint none).2 _ rfl⟩

end Geometry

end Graticule
