import Graticule.Binary64.Scalar
import Graticule.Crs.Basic
import Graticule.Proofs.Except
import Graticule.Proofs.Projection.Words

/-!
# Projections read back from their text

The text of a projection gives its numbers by name.  Reading it looks each name up again: angles come
back through radians, the pole of a polar plane from the sign of its latitude, and the ellipsoid from
its axis and the reciprocal of its flattening.  So the same parameters are read, if each number comes
back from its own text, but for an ellipsoid whose flattening has gone through two reciprocals:
`Projection.ofText_text`.  This asks of scalars that their texts are words and that the poles are
told apart when they are read, `Scalar.Legible`.
-/

namespace Graticule

theorem Registration.mem_of_find_eq_ok {α : Type} [Elementary α] {code : Nat} {r : Registration α}
    (h : Registration.find code = .ok r) :
    r ∈ Registration.all ∧ r.code = Registration.properCode code := by
  unfold Registration.find at h
  split at h
  · rename_i r' hfind
    cases h
    exact ⟨List.mem_of_find?_eq_some hfind, by simpa using List.find?_some hfind⟩
  · cases h

/-! ## Looking a parameter up -/

namespace Definition

@[simp] theorem get?_nil (name : String) : get? [] name = none := rfl

@[simp] theorem get?_append (l m : Definition) (name : String) :
    get? (l ++ m) name = (get? m name).or (get? l name) := by
  unfold get?
  rw [List.reverse_append, List.lookup_append]

@[simp] theorem get?_cons (p : String × String) (d : Definition) (name : String) :
    get? (p :: d) name = (get? d name).or (if name = p.1 then some p.2 else none) := by
  have hsingle : get? [p] name = if name = p.1 then some p.2 else none := by
    rw [get?, List.reverse_singleton, List.lookup_singleton]
    simp only [beq_iff_eq]
  rw [← List.singleton_append, get?_append, hsingle]

section

variable {α : Type} [Written α] {d : Definition} {name : String}

theorem number?_of_get?_none (h : d.get? name = none) : d.number? name = .ok (none : Option α) := by
  unfold number?
  rw [h]

theorem number?_of_get?_some {x : α} (hx : Written.ofText? (Written.text x) = some x)
    (h : d.get? name = some (Written.text x)) : d.number? name = .ok (some x) := by
  unfold number?
  rw [h]
  simp only [hx]

end

end Definition

/-- Scalars that are written without blanks, and of which the two poles are read as different ones. -/
class Scalar.Legible (α : Type) [Elementary α] [Written α] : Prop where
  isWord_text : ∀ x : α, Text.IsWord (Written.text x).toList
  exists_pole : ∀ south : Bool,
    ∃ lat0 : α, Written.ofText? (if south then "-90" else "90") = some lat0 ∧
      ¬Projection.polarTolerance < Scalar.abs (Scalar.abs lat0 - 90) ∧ decide (lat0 < 0) = south
  zero_beq : ((0 : α) == 0) = true

instance Binary64.legible : Scalar.Legible Float where
  isWord_text := Decimal.isWord_text
  exists_pole south := by
    cases south
    · exact ⟨90, by decide +kernel, by decide +kernel, by decide +kernel⟩
    · exact ⟨-90, by decide +kernel, by decide +kernel, by decide +kernel⟩
  zero_beq := by decide +kernel

section

variable {α : Type} [Elementary α] [Written α]

def IsExact (x : α) : Prop := Written.ofText? (Written.text x) = some x

instance [DecidableEq α] (x : α) : Decidable (IsExact x) :=
  inferInstanceAs (Decidable (Written.ofText? (Written.text x) = some x))

/-- An angle in degrees that comes back from its radians, and its text too. -/
def IsExactAngle (d : α) : Prop := Angle.degrees (Angle.radians d) = d ∧ IsExact d

instance [DecidableEq α] (d : α) : Decidable (IsExactAngle d) :=
  inferInstanceAs (Decidable (Angle.degrees (Angle.radians d) = d ∧ IsExact d))

namespace Ellipsoid

/-- The numbers that are written for an ellipsoid are read back. -/
def IsExact (e : Ellipsoid α) : Prop :=
  Graticule.IsExact e.a ∧ (e.isSphere = false → Graticule.IsExact e.inverseFlattening)

instance [DecidableEq α] (e : Ellipsoid α) : Decidable e.IsExact :=
  inferInstanceAs (Decidable (Graticule.IsExact e.a ∧
    (e.isSphere = false → Graticule.IsExact e.inverseFlattening)))

/-- What is read from the text of an ellipsoid: its flattening went through two reciprocals. -/
def reread (e : Ellipsoid α) : Ellipsoid α :=
  if e.isSphere then .sphere e.a
  else ⟨e.a, if e.inverseFlattening == 0 then 0 else 1 / e.inverseFlattening⟩

/-- The flattening comes back from its reciprocal. -/
def IsRecovered (e : Ellipsoid α) : Prop :=
  (e.f == 0) = true ∨ (1 / (1 / e.f) == e.f) = true

instance (e : Ellipsoid α) : Decidable e.IsRecovered :=
  inferInstanceAs (Decidable ((e.f == 0) = true ∨ (1 / (1 / e.f) == e.f) = true))

end Ellipsoid

namespace Projection

theorem get?_ellipsoidParameters {e : Ellipsoid α} {name : String} (hR : name ≠ "R")
    (ha : name ≠ "a") (hrf : name ≠ "rf") : (ellipsoidParameters e).get? name = none := by
  unfold ellipsoidParameters
  split <;> simp [hR, ha, hrf]

theorem ellipsoid_append_ellipsoidParameters {e : Ellipsoid α} (he : e.IsExact) {d : Definition}
    (hR : d.get? "R" = none) : (d ++ ellipsoidParameters e).ellipsoid = .ok e.reread := by
  unfold Definition.ellipsoid Ellipsoid.reread ellipsoidParameters
  by_cases hsphere : e.isSphere = true
  · have hget : (d ++ [("R", Written.text e.a)]).get? "R" = some (Written.text e.a) := by
      simp
    rw [if_pos hsphere, if_pos hsphere, Definition.number?_of_get?_some he.1 hget]
    rfl
  · have hrf := he.2 (Bool.eq_false_iff.2 hsphere)
    have hnone : (d ++ [("a", Written.text e.a),
        ("rf", Written.text e.inverseFlattening)]).get? "R" = none := by
      simp [hR]
    have hgeta : (d ++ [("a", Written.text e.a),
        ("rf", Written.text e.inverseFlattening)]).get? "a" = some (Written.text e.a) := by
      simp
    have hgetrf : (d ++ [("a", Written.text e.a),
        ("rf", Written.text e.inverseFlattening)]).get? "rf" =
          some (Written.text e.inverseFlattening) := by
      simp
    rw [if_neg hsphere, if_neg hsphere, Definition.number?_of_get?_none hnone,
      Definition.number?_of_get?_some he.1 hgeta, Definition.number?_of_get?_some hrf hgetrf]
    rfl

end Projection

end

/-! ## The parameters of a projection -/

namespace Projection

/-- What a projection is made of; angles are in degrees. -/
inductive Parameters (α : Type) where
  | longLat (ellipsoid : Ellipsoid α)
  | mercator (ellipsoid : Ellipsoid α) (lon0 k0 falseEasting falseNorthing : α)
  | polarStereographic (ellipsoid : Ellipsoid α) (south : Bool)
    (latTs lon0 falseEasting falseNorthing : α)
  | lambertConformal (lat0 lon0 lat1 lat2 radius falseEasting falseNorthing : α)

namespace Parameters

variable {α : Type} [Elementary α] [Written α]

def projection : Parameters α → Projection α
  | longLat e => .longLat e
  | mercator e lon0 k0 falseEasting falseNorthing =>
    .mercator (.ofDegrees e lon0 k0 falseEasting falseNorthing)
  | polarStereographic e south latTs lon0 falseEasting falseNorthing =>
    .polarStereographic (.ofDegrees e south latTs lon0 falseEasting falseNorthing)
  | lambertConformal lat0 lon0 lat1 lat2 radius falseEasting falseNorthing =>
    .lambertConformal (.ofDegrees lat0 lon0 lat1 lat2 radius falseEasting falseNorthing)

/-- Every number that is written is read back, and angles come back from their radians. -/
def IsExact : Parameters α → Prop
  | longLat e => e.IsExact
  | mercator e lon0 k0 falseEasting falseNorthing =>
    e.IsExact ∧ IsExactAngle lon0 ∧ Graticule.IsExact k0 ∧ Graticule.IsExact falseEasting ∧
      Graticule.IsExact falseNorthing
  | polarStereographic e _ latTs lon0 falseEasting falseNorthing =>
    e.IsExact ∧ IsExactAngle latTs ∧ IsExactAngle lon0 ∧ Graticule.IsExact falseEasting ∧
      Graticule.IsExact falseNorthing
  | lambertConformal lat0 lon0 lat1 lat2 radius falseEasting falseNorthing =>
    IsExactAngle lat0 ∧ IsExactAngle lon0 ∧ IsExactAngle lat1 ∧ IsExactAngle lat2 ∧
      Graticule.IsExact radius ∧ Graticule.IsExact falseEasting ∧ Graticule.IsExact falseNorthing

instance [DecidableEq α] : (p : Parameters α) → Decidable p.IsExact
  | longLat e => inferInstanceAs (Decidable e.IsExact)
  | mercator _ _ _ _ _ => inferInstanceAs (Decidable (_ ∧ _ ∧ _ ∧ _ ∧ _))
  | polarStereographic _ _ _ _ _ _ => inferInstanceAs (Decidable (_ ∧ _ ∧ _ ∧ _ ∧ _))
  | lambertConformal _ _ _ _ _ _ _ => inferInstanceAs (Decidable (_ ∧ _ ∧ _ ∧ _ ∧ _ ∧ _ ∧ _))

def reread : Parameters α → Parameters α
  | longLat e => longLat e.reread
  | mercator e lon0 k0 falseEasting falseNorthing =>
    mercator e.reread lon0 k0 falseEasting falseNorthing
  | polarStereographic e south latTs lon0 falseEasting falseNorthing =>
    polarStereographic e.reread south latTs lon0 falseEasting falseNorthing
  | lambertConformal lat0 lon0 lat1 lat2 radius falseEasting falseNorthing =>
    lambertConformal lat0 lon0 lat1 lat2 radius falseEasting falseNorthing

end Parameters

/-! ## Reading the parameters of each method -/

section

variable {α : Type} [Elementary α] [Written α]

theorem definition_mercator (e : Ellipsoid α) (lon0 k0 falseEasting falseNorthing : α) :
    (mercator (.ofDegrees e lon0 k0 falseEasting falseNorthing)).definition =
      [("proj", "merc"), ("lon_0", Written.text (Angle.degrees (Angle.radians lon0))),
        ("k", Written.text k0), ("x_0", Written.text falseEasting),
        ("y_0", Written.text falseNorthing)] ++ ellipsoidParameters e := rfl

theorem definition_polarStereographic (e : Ellipsoid α) (south : Bool)
    (latTs lon0 falseEasting falseNorthing : α) :
    (polarStereographic (.ofDegrees e south latTs lon0 falseEasting falseNorthing)).definition =
      [("proj", "stere"), ("lat_0", if south then "-90" else "90"),
        ("lat_ts", Written.text (Angle.degrees (Angle.radians latTs))),
        ("lon_0", Written.text (Angle.degrees (Angle.radians lon0))),
        ("x_0", Written.text falseEasting), ("y_0", Written.text falseNorthing)] ++
          ellipsoidParameters e := rfl

theorem definition_lambertConformal (lat0 lon0 lat1 lat2 radius falseEasting falseNorthing : α) :
    (lambertConformal
      (.ofDegrees lat0 lon0 lat1 lat2 radius falseEasting falseNorthing)).definition =
        [("proj", "lcc"), ("lat_0", Written.text (Angle.degrees (Angle.radians lat0))),
          ("lon_0", Written.text (Angle.degrees (Angle.radians lon0))),
          ("lat_1", Written.text (Angle.degrees (Angle.radians lat1))),
          ("lat_2", Written.text (Angle.degrees (Angle.radians lat2))),
          ("x_0", Written.text falseEasting), ("y_0", Written.text falseNorthing)] ++
            ellipsoidParameters (.sphere radius) := rfl

theorem mercatorOf_definition (e : Ellipsoid α) {e' : Ellipsoid α}
    {lon0 k0 falseEasting falseNorthing : α} (hlon0 : IsExactAngle lon0) (hk0 : IsExact k0)
    (hx : IsExact falseEasting) (hy : IsExact falseNorthing) :
    mercatorOf (mercator (.ofDegrees e' lon0 k0 falseEasting falseNorthing)).definition e =
      .ok (.ofDegrees e lon0 k0 falseEasting falseNorthing) := by
  have hlon0' := hlon0.2
  unfold IsExact at hlon0' hk0 hx hy
  rw [definition_mercator]
  simp [mercatorOf, hlon0.1, Definition.numberOr, Definition.number?,
    get?_ellipsoidParameters, hlon0', hk0, hx, hy]
  rfl

theorem polarStereographicOf_definition [Scalar.Legible α] (e : Ellipsoid α) {e' : Ellipsoid α}
    (south : Bool) {latTs lon0 falseEasting falseNorthing : α} (hlatTs : IsExactAngle latTs)
    (hlon0 : IsExactAngle lon0) (hx : IsExact falseEasting) (hy : IsExact falseNorthing) :
    polarStereographicOf (polarStereographic
      (.ofDegrees e' south latTs lon0 falseEasting falseNorthing)).definition e =
        .ok (.ofDegrees e south latTs lon0 falseEasting falseNorthing) := by
  obtain ⟨lat0, hpole, hnear, hsouth⟩ := Scalar.Legible.exists_pole (α := α) south
  have hlatTs' := hlatTs.2
  have hlon0' := hlon0.2
  unfold IsExact at hlatTs' hlon0' hx hy
  rw [definition_polarStereographic]
  simp [polarStereographicOf, hlatTs.1, hlon0.1, Definition.numberOr, Definition.number?,
    get?_ellipsoidParameters, hlatTs', hlon0', hx, hy, hpole]
  refine (if_neg hnear).trans ?_
  subst hsouth
  rfl

theorem lambertConformalOf_definition {e : Ellipsoid α} {lat0 lon0 lat1 lat2 radius falseEasting
    falseNorthing : α} (he : e.a = radius) (hlat0 : IsExactAngle lat0) (hlon0 : IsExactAngle lon0)
    (hlat1 : IsExactAngle lat1) (hlat2 : IsExactAngle lat2) (hx : IsExact falseEasting)
    (hy : IsExact falseNorthing) :
    lambertConformalOf (lambertConformal
      (.ofDegrees lat0 lon0 lat1 lat2 radius falseEasting falseNorthing)).definition e =
        .ok (.ofDegrees lat0 lon0 lat1 lat2 radius falseEasting falseNorthing) := by
  have hlat0' := hlat0.2
  have hlon0' := hlon0.2
  have hlat1' := hlat1.2
  have hlat2' := hlat2.2
  unfold IsExact at hlat0' hlon0' hlat1' hlat2' hx hy
  rw [definition_lambertConformal]
  simp [lambertConformalOf, hlat0.1, hlon0.1, hlat1.1, hlat2.1,
    Definition.numberOr, Definition.number?, get?_ellipsoidParameters, hlat0', hlon0', hlat1',
    hlat2', hx, hy, he]
  rfl

theorem get?_proj (p : Projection α) : p.definition.get? "proj" = some p.method := by
  cases p <;> simp [definition, method, originParameters, get?_ellipsoidParameters]

theorem ellipsoid_definition {p : Projection α} (he : p.ellipsoid.IsExact) :
    p.definition.ellipsoid = .ok p.ellipsoid.reread := by
  unfold definition
  apply ellipsoid_append_ellipsoidParameters he
  cases p <;> simp [originParameters]

def parameterNames : List String :=
  ["proj", "lon_0", "k", "x_0", "y_0", "lat_0", "lat_ts", "lat_1", "lat_2", "R", "a", "rf"]

theorem isName_of_mem : ∀ name ∈ parameterNames, Definition.IsName name := by decide

omit [Elementary α] [Written α] in
theorem isWord_method (p : Projection α) : Text.IsWord p.method.toList := by
  have hmethods : ∀ name ∈ ["longlat", "merc", "stere", "lcc"], Text.IsWord name.toList := by decide
  cases p <;> exact hmethods _ (by simp [method])

section

variable [Scalar.Legible α]

theorem isSphere_sphere (radius : α) : (Ellipsoid.sphere radius).isSphere = true :=
  Scalar.Legible.zero_beq

theorem reread_sphere (radius : α) :
    (Ellipsoid.sphere radius).reread = Ellipsoid.sphere radius := by
  unfold Ellipsoid.reread
  rw [if_pos (isSphere_sphere radius)]
  rfl

theorem isExact_sphere {radius : α} (hradius : IsExact radius) :
    (Ellipsoid.sphere radius).IsExact :=
  ⟨hradius, fun h => absurd (isSphere_sphere radius) (by simp [h])⟩

/-- The definition of a projection gives back its parameters, but for its ellipsoid. -/
theorem ofDefinition_definition {p : Parameters α} (hp : p.IsExact) :
    ofDefinition p.projection.definition = .ok p.reread.projection := by
  cases p with
  | longLat e =>
    have he := ellipsoid_definition (p := longLat e) hp
    unfold ofDefinition
    simp only [Parameters.projection, get?_proj, he]
    rfl
  | mercator e lon0 k0 falseEasting falseNorthing =>
    obtain ⟨hellipsoid, hlon0, hk0, hx, hy⟩ := hp
    have he := ellipsoid_definition
      (p := mercator (.ofDegrees e lon0 k0 falseEasting falseNorthing)) hellipsoid
    unfold ofDefinition
    simp only [Parameters.projection, get?_proj, he]
    exact congrArg (mercator <$> ·) (mercatorOf_definition e.reread hlon0 hk0 hx hy)
  | polarStereographic e south latTs lon0 falseEasting falseNorthing =>
    obtain ⟨hellipsoid, hlatTs, hlon0, hx, hy⟩ := hp
    have he := ellipsoid_definition (p := polarStereographic
      (.ofDegrees e south latTs lon0 falseEasting falseNorthing)) hellipsoid
    unfold ofDefinition
    simp only [Parameters.projection, get?_proj, he]
    exact congrArg (polarStereographic <$> ·)
      (polarStereographicOf_definition e.reread south hlatTs hlon0 hx hy)
  | lambertConformal lat0 lon0 lat1 lat2 radius falseEasting falseNorthing =>
    obtain ⟨hlat0, hlon0, hlat1, hlat2, hradius, hx, hy⟩ := hp
    have he := ellipsoid_definition (p := lambertConformal
      (.ofDegrees lat0 lon0 lat1 lat2 radius falseEasting falseNorthing)) (isExact_sphere hradius)
    have hread := lambertConformalOf_definition (e := (Ellipsoid.sphere radius).reread)
      (congrArg Ellipsoid.a (reread_sphere radius)) hlat0 hlon0 hlat1 hlat2 hx hy
    unfold ofDefinition
    simp only [Parameters.projection, get?_proj, he]
    exact congrArg (lambertConformal <$> ·) hread

theorem isPlain_ellipsoidParameters (e : Ellipsoid α) : (ellipsoidParameters e).IsPlain := by
  have hnames := isName_of_mem
  simp only [parameterNames, List.forall_mem_cons] at hnames
  unfold ellipsoidParameters
  split <;> simp [Scalar.Legible.isWord_text, hnames]

/-- Everything that is written for a projection is a word. -/
theorem isPlain_definition (p : Projection α) : p.definition.IsPlain := by
  have hmethod := isWord_method p
  have hpole (south : Bool) : Text.IsWord (if south then "-90" else "90").toList := by
    cases south <;> decide
  have hnames := isName_of_mem
  simp only [parameterNames, List.forall_mem_cons] at hnames
  unfold definition
  refine Definition.isPlain_append.2 ⟨?_, isPlain_ellipsoidParameters _⟩
  cases p <;> simp [originParameters, Scalar.Legible.isWord_text, hmethod, hpole, hnames]

/-- The parameters of a projection are read back from its text, but for its ellipsoid. -/
theorem ofText_text {p : Parameters α} (hp : p.IsExact) :
    ofText p.projection.text = .ok p.reread.projection := by
  unfold ofText text
  rw [Definition.ofText_text (isPlain_definition _), ofDefinition_definition hp]

end

/-! ## What is read is made of parameters -/

theorem exists_parameters_of_mercatorOf {d : Definition} {e : Ellipsoid α} {m : Mercator α}
    (h : mercatorOf d e = .ok m) :
    ∃ p : Parameters α, p.projection = mercator m := by
  obtain ⟨lon0, -, h⟩ := exists_of_bind_eq_ok h
  obtain ⟨falseEasting, -, h⟩ := exists_of_bind_eq_ok h
  obtain ⟨falseNorthing, -, h⟩ := exists_of_bind_eq_ok h
  obtain ⟨latTs?, -, h⟩ := exists_of_bind_eq_ok h
  cases latTs? with
  | some latTs =>
    cases h
    exact ⟨.mercator e lon0 (Mercator.scaleOfParallel e latTs) falseEasting falseNorthing, rfl⟩
  | none =>
    obtain ⟨other, -, h⟩ := exists_of_bind_eq_ok h
    obtain ⟨k0, -, h⟩ := exists_of_bind_eq_ok h
    cases h
    exact ⟨.mercator e lon0 k0 falseEasting falseNorthing, rfl⟩

theorem exists_parameters_of_polarStereographicOf {d : Definition} {e : Ellipsoid α}
    {s : PolarStereographic α} (h : polarStereographicOf d e = .ok s) :
    ∃ p : Parameters α, p.projection = polarStereographic s := by
  obtain ⟨lat0, -, h⟩ := exists_of_bind_eq_ok h
  by_cases hnear : polarTolerance < Scalar.abs (Scalar.abs lat0 - 90)
  · rw [if_pos hnear] at h
    cases h
  · rw [if_neg hnear] at h
    obtain ⟨latTs, -, h⟩ := exists_of_bind_eq_ok h
    obtain ⟨lon0, -, h⟩ := exists_of_bind_eq_ok h
    obtain ⟨falseEasting, -, h⟩ := exists_of_bind_eq_ok h
    obtain ⟨falseNorthing, -, h⟩ := exists_of_bind_eq_ok h
    cases h
    exact ⟨.polarStereographic e (lat0 < 0) latTs lon0 falseEasting falseNorthing, rfl⟩

theorem exists_parameters_of_lambertConformalOf {d : Definition} {e : Ellipsoid α}
    {c : LambertConformal α} (h : lambertConformalOf d e = .ok c) :
    ∃ p : Parameters α, p.projection = lambertConformal c := by
  obtain ⟨lat1?, -, h⟩ := exists_of_bind_eq_ok h
  cases lat1? with
  | none => cases h
  | some lat1 =>
    obtain ⟨lat2, -, h⟩ := exists_of_bind_eq_ok h
    obtain ⟨lat0, -, h⟩ := exists_of_bind_eq_ok h
    obtain ⟨lon0, -, h⟩ := exists_of_bind_eq_ok h
    obtain ⟨falseEasting, -, h⟩ := exists_of_bind_eq_ok h
    obtain ⟨falseNorthing, -, h⟩ := exists_of_bind_eq_ok h
    cases h
    exact ⟨.lambertConformal lat0 lon0 lat1 lat2 e.a falseEasting falseNorthing, rfl⟩

theorem exists_parameters_of_ofText {s : String} {p : Projection α} (h : ofText s = .ok p) :
    ∃ q : Parameters α, q.projection = p := by
  unfold ofText ofDefinition at h
  cases hmethod : (Definition.ofText s).get? "proj" with
  | none => simp only [hmethod] at h; cases h
  | some method =>
    simp only [hmethod] at h
    obtain ⟨e, -, h⟩ := exists_of_bind_eq_ok h
    split at h
    iterate 4 exact ⟨.longLat e, Except.ok.inj h⟩
    · obtain ⟨m, hm, rfl⟩ := exists_of_map_eq_ok h
      exact exists_parameters_of_mercatorOf hm
    · obtain ⟨t, ht, rfl⟩ := exists_of_map_eq_ok h
      exact exists_parameters_of_polarStereographicOf ht
    · obtain ⟨c, hc, rfl⟩ := exists_of_map_eq_ok h
      exact exists_parameters_of_lambertConformalOf hc
    · cases h

omit [Written α] in
theorem exists_parameters_of_find {code : Nat} {r : Registration α}
    (h : Registration.find code = .ok r) : ∃ q : Parameters α, q.projection = r.projection := by
  have hr : r ∈ Registration.all := (Registration.mem_of_find_eq_ok h).1
  simp only [Registration.all, List.mem_cons, List.not_mem_nil, or_false] at hr
  obtain rfl | rfl | rfl | rfl | rfl | rfl | rfl := hr
  · exact ⟨.longLat .wgs84, rfl⟩
  · exact ⟨.longLat .grs80, rfl⟩
  · exact ⟨.mercator .webSphere 0 1 0 0, rfl⟩
  · exact ⟨.mercator .wgs84 0 1 0 0, rfl⟩
  · exact ⟨.mercator .wgs84 150 1 0 0, rfl⟩
  · exact ⟨.polarStereographic .wgs84 true (-71) 0 0 0, rfl⟩
  · exact ⟨.polarStereographic .wgs84 false 70 (-45) 0 0, rfl⟩

end

end Projection

end Graticule
