import Graticule.Geometry.Basic
import Graticule.Planar.Binary64
import Graticule.Proofs.Grid.Lattice
import Mathlib.Order.Bounds.Basic

/-!
# Combining several areas

Several geometries are united or intersected from left to right.  A step keeps the reference system
of the first geometry and gives polygons, `combine_cases`; so the run stops at the first geometry
that has another system or is no area, and the two faults are told apart there.  The first geometry
is not looked at before the second: `combines_unary`.

The set operations themselves are a parameter.
-/

namespace Graticule

namespace Shape

variable {α : Type}

def isPolygonal : Shape α → Bool
  | polygon _ | rectangle _ _ | triangle _ _ _ | multiPolygon _ => true
  | _ => false

theorem isSome_areas? [BEq α] (s : Shape α) : s.areas?.isSome = s.isPolygonal := by
  cases s <;> rfl

theorem ofPolygons_cases (ps : List (Polygon α)) :
    (∃ p, ofPolygons ps = polygon p) ∨ ofPolygons ps = multiPolygon ps := by
  match ps with
  | [] => exact Or.inr rfl
  | [p] => exact Or.inl ⟨p, rfl⟩
  | _ :: _ :: _ => exact Or.inr rfl

end Shape

namespace Geometry

variable {α : Type} [Scalar α]

/-- The geometry is an area in the given reference system, or without one where none is given. -/
def Fits (crs : Option (Crs α)) (g : Geometry α) : Prop :=
  (crs == g.crs) = true ∧ g.shape.isPolygonal = true

def HasPolygons (g : Geometry α) : Prop :=
  (∃ p, g.shape = .polygon p) ∨ ∃ ps, g.shape = .multiPolygon ps

/-- The geometry at a place after the first cannot be combined with those before it.  At the second
place this may be due to the first geometry. -/
def StopsAt (first : Geometry α) (gs : List (Geometry α)) (i : ℕ) : Prop :=
  1 ≤ i ∧ ∃ g, gs[i]? = some g ∧ (¬g.Fits first.crs ∨ i = 1 ∧ first.shape.isPolygonal = false)

/-- What an operation on any number of geometries gives, and when it fails. -/
structure Combines (run : List (Geometry α) → Except (Error α) (Option (Geometry α))) : Prop where
  eq_none_iff : ∀ gs, run gs = .ok none ↔ gs = []
  single : ∀ g, run [g] = .ok (some g)
  ok_iff : ∀ first second rest, (∃ r, run (first :: second :: rest) = .ok (some r)) ↔
    ∀ g ∈ first :: second :: rest, g.Fits first.crs
  result : ∀ first second rest r, run (first :: second :: rest) = .ok (some r) →
    r.crs = first.crs ∧ r.HasPolygons
  fault : ∀ first rest e, run (first :: rest) = .error e →
    ∃ i g, IsLeast {j | StopsAt first (first :: rest) j} i ∧ (first :: rest)[i]? = some g ∧
      e.kind.name = if (first.crs == g.crs) = true then "NotImplemented" else "CRSMismatch"

omit [Scalar α] in
theorem HasPolygons.isPolygonal {g : Geometry α} (hg : g.HasPolygons) :
    g.shape.isPolygonal = true := by
  rcases hg with ⟨p, hp⟩ | ⟨ps, hps⟩
  · rw [hp]
    rfl
  · rw [hps]
    rfl

theorem crs_beq_self (g : Geometry α) : (g.crs == g.crs) = true := by
  cases g.crs with
  | none => rfl
  | some c => exact Crs.beq_refl c

variable [Planar α] (op : SetOperation)

/-! ## One step -/

/-- Two geometries are refused for their systems before their shapes are looked at, and else combined
in the system of the first. -/
theorem combine_cases (g h : Geometry α) :
    ((g.crs == h.crs) = false ∧
        combine op g h = .error (.crsMismatch (crsLabel g.crs) (crsLabel h.crs))) ∨
      ((g.crs == h.crs) = true ∧
        ¬(g.shape.isPolygonal = true ∧ h.shape.isPolygonal = true) ∧
        combine op g h = .error (.notAreal op.name g.shape.kind h.shape.kind)) ∨
      (g.shape.isPolygonal = true ∧ h.Fits g.crs ∧
        ∃ r, combine op g h = .ok r ∧ r.crs = g.crs ∧ r.HasPolygons) := by
  cases hcrs : g.crs == h.crs with
  | false =>
    refine Or.inl ⟨rfl, ?_⟩
    unfold combine checkCrs
    rw [hcrs]
    rfl
  | true =>
    unfold Fits combine checkCrs
    rw [hcrs, ← Shape.isSome_areas?, ← Shape.isSome_areas?]
    cases g.shape.areas? with
    | none =>
      refine Or.inr (Or.inl ⟨rfl, ?_, rfl⟩)
      rintro ⟨⟨⟩, -⟩
    | some a =>
      cases h.shape.areas? with
      | none =>
        refine Or.inr (Or.inl ⟨rfl, ?_, rfl⟩)
        rintro ⟨-, ⟨⟩⟩
      | some b =>
        refine Or.inr (Or.inr ⟨rfl, ⟨rfl, rfl⟩, _, rfl, rfl, ?_⟩)
        rcases Shape.ofPolygons_cases (Planar.combine op a b) with ⟨p, hp⟩ | hps
        · exact Or.inl ⟨p, hp⟩
        · exact Or.inr ⟨_, hps⟩

/-! ## A run -/

/-- What a run that succeeds says about the geometries and its result. -/
theorem of_foldlM_combine_eq_ok {first b : Geometry α} {rest : List (Geometry α)}
    (h : rest.foldlM (combine op) first = .ok b) :
    b.crs = first.crs ∧ (∀ g ∈ rest, g.Fits first.crs) ∧
      (rest = [] ∧ b = first ∨ first.shape.isPolygonal = true ∧ b.HasPolygons) := by
  induction rest generalizing first with
  | nil =>
    obtain rfl : first = b := Except.ok.inj h
    simp
  | cons g rest ih =>
    obtain ⟨m, hstep, hrun⟩ := exists_of_bind_eq_ok h
    obtain ⟨hcrs, hrest, hlast⟩ := ih hrun
    obtain ⟨-, he⟩ | ⟨-, -, he⟩ | ⟨hfirst, hg, r, hr, hrcrs, hpolygons⟩ := combine_cases op first g
    · cases hstep.symm.trans he
    · cases hstep.symm.trans he
    · obtain rfl : r = m := Except.ok.inj (hr.symm.trans hstep)
      rw [hrcrs] at hcrs hrest
      refine ⟨hcrs, List.forall_mem_cons.2 ⟨hg, hrest⟩, Or.inr ⟨hfirst, ?_⟩⟩
      rcases hlast with ⟨-, rfl⟩ | ⟨-, hb⟩
      · exact hpolygons
      · exact hb

theorem exists_foldlM_combine_eq_ok {first : Geometry α} {rest : List (Geometry α)}
    (hfirst : first.shape.isPolygonal = true) (hrest : ∀ g ∈ rest, g.Fits first.crs) :
    ∃ b, rest.foldlM (combine op) first = .ok b := by
  induction rest generalizing first with
  | nil => exact ⟨first, rfl⟩
  | cons g rest ih =>
    obtain ⟨hg, hrest⟩ := List.forall_mem_cons.1 hrest
    obtain ⟨hcrs, -⟩ | ⟨-, hnot, -⟩ | ⟨-, -, r, hr, hrcrs, hpolygons⟩ := combine_cases op first g
    · rw [hg.1] at hcrs
      cases hcrs
    · exact absurd ⟨hfirst, hg.2⟩ hnot
    · obtain ⟨b, hb⟩ := ih hpolygons.isPolygonal (hrcrs ▸ hrest)
      exact ⟨b, bind_eq_ok hr hb⟩

/-- The places up to which a run has come do not stop it. -/
theorem not_stopsAt_of_foldlM_combine_eq_ok {first b : Geometry α} {rest : List (Geometry α)}
    {i j : ℕ} (h : (rest.take i).foldlM (combine op) first = .ok b) (hj : j ≤ i) :
    ¬StopsAt first (first :: rest) j := by
  obtain ⟨-, hbefore, hlast⟩ := of_foldlM_combine_eq_ok op h
  rintro ⟨hpos, g, hg, hstops⟩
  obtain ⟨k, rfl⟩ : ∃ k, j = k + 1 := ⟨j - 1, by omega⟩
  have hmem : g ∈ rest.take i := by
    rw [List.mem_iff_getElem?]
    exact ⟨k, by rw [List.getElem?_take_of_lt (by omega)]; exact hg⟩
  rcases hstops with hnot | ⟨-, hfirst⟩
  · exact hnot (hbefore g hmem)
  · rcases hlast with ⟨hnil, -⟩ | ⟨hpolygonal, -⟩
    · rw [hnil] at hmem
      cases hmem
    · rw [hpolygonal] at hfirst
      cases hfirst

/-- The place at which a run fails stops it, with a fault of the systems if these differ there. -/
theorem stopsAt_of_combine_eq_error {first b g : Geometry α} {rest : List (Geometry α)} {i : ℕ}
    {e : Error α} (hb : (rest.take i).foldlM (combine op) first = .ok b) (hg : rest[i]? = some g)
    (he : combine op b g = .error e) :
    StopsAt first (first :: rest) (i + 1) ∧
      e.kind.name = if (first.crs == g.crs) = true then "NotImplemented" else "CRSMismatch" := by
  obtain ⟨hcrs, -, hlast⟩ := of_foldlM_combine_eq_ok op hb
  unfold StopsAt Fits
  rw [← hcrs]
  obtain ⟨hother, hmismatch⟩ | ⟨hsame, hnot, hareal⟩ | ⟨-, -, r, hr, -⟩ := combine_cases op b g
  · obtain rfl := Except.error.inj (he.symm.trans hmismatch)
    rw [hother]
    exact ⟨⟨by omega, g, hg, Or.inl (by simp [hother])⟩, rfl⟩
  · obtain rfl := Except.error.inj (he.symm.trans hareal)
    rw [hsame]
    refine ⟨⟨by omega, g, hg, ?_⟩, rfl⟩
    rcases hlast with ⟨hnil, rfl⟩ | ⟨-, hpolygons⟩
    · have hzero : i = 0 := by
        rcases List.take_eq_nil_iff.1 hnil with hzero | hempty
        · exact hzero
        · rw [hempty] at hg
          cases hg
      cases hself : b.shape.isPolygonal with
      | false => exact Or.inr ⟨by omega, rfl⟩
      | true => exact Or.inl fun hfits => hnot ⟨hself, hfits.2⟩
    · exact Or.inl fun hfits => hnot ⟨hpolygons.isPolygonal, hfits.2⟩
  · cases hr.symm.trans he

/-- A run that fails stops at the first geometry that cannot be combined with those before it. -/
theorem exists_of_foldlM_combine_eq_error {first : Geometry α} {rest : List (Geometry α)}
    {e : Error α} (h : rest.foldlM (combine op) first = .error e) :
    ∃ i g, IsLeast {j | StopsAt first (first :: rest) j} i ∧ (first :: rest)[i]? = some g ∧
      e.kind.name = if (first.crs == g.crs) = true then "NotImplemented" else "CRSMismatch" := by
  obtain ⟨c, hc⟩ | ⟨i, g, b, e', hg, hb, hstep, herror⟩ := foldlM_cases (combine op) first rest
  · cases h.symm.trans hc
  obtain rfl : e' = e := Except.error.inj (herror.symm.trans h)
  obtain ⟨hstops, hname⟩ := stopsAt_of_combine_eq_error op hb hg hstep
  refine ⟨i + 1, g, ⟨hstops, fun j hj => ?_⟩, hg, hname⟩
  by_contra hlt
  exact not_stopsAt_of_foldlM_combine_eq_ok op hb (by omega) hj

/-! ## Several geometries -/

theorem combineAll_cons (first : Geometry α) (rest : List (Geometry α)) :
    combineAll op (first :: rest) = some <$> rest.foldlM (combine op) first := rfl

theorem combineAll_eq_some_iff {first r : Geometry α} {rest : List (Geometry α)} :
    combineAll op (first :: rest) = .ok (some r) ↔ rest.foldlM (combine op) first = .ok r := by
  rw [combineAll_cons, map_eq_ok_iff]
  simp

theorem combines_combineAll : Combines (combineAll (α := α) op) where
  eq_none_iff gs := by
    cases gs with
    | nil => simp [combineAll]
    | cons first rest =>
      rw [combineAll_cons, map_eq_ok_iff]
      simp
  single g := rfl
  ok_iff first second rest := by
    simp only [combineAll_eq_some_iff]
    constructor
    · rintro ⟨r, hr⟩
      obtain ⟨-, hrest, ⟨hnil, -⟩ | ⟨hfirst, -⟩⟩ := of_foldlM_combine_eq_ok op hr
      · cases hnil
      · exact List.forall_mem_cons.2 ⟨⟨first.crs_beq_self, hfirst⟩, hrest⟩
    · intro hall
      obtain ⟨⟨-, hfirst⟩, hrest⟩ := List.forall_mem_cons.1 hall
      exact exists_foldlM_combine_eq_ok op hfirst hrest
  result first second rest r hr := by
    rw [combineAll_eq_some_iff] at hr
    obtain ⟨hcrs, -, ⟨hnil, -⟩ | ⟨-, hpolygons⟩⟩ := of_foldlM_combine_eq_ok op hr
    · cases hnil
    · exact ⟨hcrs, hpolygons⟩
  fault first rest e he := by
    apply exists_of_foldlM_combine_eq_error op
    cases hrun : rest.foldlM (combine op) first with
    | ok r =>
      rw [combineAll_cons, hrun] at he
      cases he
    | error e' =>
      rw [combineAll_cons, hrun] at he
      rw [Except.error.inj he]

/-- The union and the intersection of several geometries: none of none, the only one of one, and of
two or more an area in the system of the first exactly when all are areas in that system.  Else the
fault is that of the first place at which this fails. -/
theorem combines_unary :
    Combines (unaryUnion (α := α)) ∧ Combines (unaryIntersection (α := α)) :=
  ⟨combines_combineAll .union, combines_combineAll .intersection⟩

def unitSquare (code : ℕ) : Geometry Float where
  shape := .rectangle ⟨0, 0⟩ ⟨1, 1⟩
  crs := some ⟨⟨"EPSG:" ++ toString code, some code, "", .longLat ⟨6378137, 0⟩⟩, 0⟩

/-- Two squares in one system, one in another and a point: the square in the other system is the
first that does not fit, and it is its system that is at fault. -/
theorem combines_unary_unitSquare :
    ∃ e, unaryUnion [unitSquare 4326, unitSquare 4326, unitSquare 4258, ⟨.point ⟨0, 0⟩, none⟩] =
      .error e ∧ e.kind.name = "CRSMismatch" := by
  have hsame : ((unitSquare 4326).crs == (unitSquare 4326).crs) = true := crs_beq_self _
  have hother : ((unitSquare 4326).crs == (unitSquare 4258).crs) = false := by decide +kernel
  obtain ⟨hunion, -⟩ := combines_unary (α := Float)
  cases hrun : unaryUnion
      [unitSquare 4326, unitSquare 4326, unitSquare 4258, ⟨.point ⟨0, 0⟩, none⟩] with
  | ok r =>
    cases r with
    | none => cases (hunion.eq_none_iff _).1 hrun
    | some r =>
      have hfits := (hunion.ok_iff _ _ _).1 ⟨r, hrun⟩ (unitSquare 4258) (by simp)
      rw [hfits.1] at hother
      cases hother
  | error e =>
    obtain ⟨i, g, ⟨hstops, hleast⟩, hg, hname⟩ := hunion.fault _ _ _ hrun
    have hle : i ≤ 2 := by
      apply hleast
      exact ⟨by decide, unitSquare 4258, rfl, Or.inl fun hfits => by simp [hfits.1] at hother⟩
    obtain ⟨hpos, g', hg', hnot⟩ := hstops
    obtain rfl | rfl : i = 1 ∨ i = 2 := by omega
    · cases hg'
      rcases hnot with hnot | ⟨-, hfirst⟩
      · exact absurd ⟨hsame, rfl⟩ hnot
      · cases hfirst
    · cases hg
      rw [hother] at hname
      exact ⟨e, rfl, hname⟩

end Geometry

end Graticule
