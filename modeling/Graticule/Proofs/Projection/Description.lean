import Graticule.Proofs.Projection.Text

/-!
# What a text says of a projection

A text gives the figure of the globe by precedence: a radius, else an axis with a reciprocal of the
flattening or a second axis, else a name, else the World Geodetic System; `Definition.Describes`.  It
gives a method with its angles and lengths, each read or standing at its default;
`Definition.Plans`.  A projection is read exactly from a text that gives both, and it is that of the
plan on the figure: `Projection.ofText_eq_ok_iff`.
-/

namespace Graticule

/-! ## Figures of the globe -/

/-- A figure of the globe that has a name. -/
inductive Ellipsoid.Model where
  | wgs84
  | grs80
  | sphere
deriving DecidableEq, Repr

namespace Ellipsoid.Model

def ofName? (name : String) : Option Model :=
  match String.ofList (name.toList.map Char.toUpper) with
  | "WGS84" => some wgs84
  | "GRS80" => some grs80
  | "SPHERE" => some sphere
  | _ => none

def ellipsoid {α : Type} [Scalar α] : Model → Ellipsoid α
  | wgs84 => .wgs84
  | grs80 => .grs80
  | sphere => .sphere 6370997

theorem named?_eq {α : Type} [Scalar α] (name : String) :
    (Ellipsoid.named? name : Option (Ellipsoid α)) = (ofName? name).map ellipsoid := by
  unfold Ellipsoid.named? ofName?
  split <;> simp_all [ellipsoid]

end Ellipsoid.Model

/-- A figure of the globe by its parameters or by its name. -/
inductive Ellipsoid.Figure (α : Type) where
  | sphere (radius : α)
  /-- An equatorial radius and the reciprocal of the flattening; zero for a sphere. -/
  | flattened (a rf : α)
  /-- An equatorial and a polar radius. -/
  | axes (a b : α)
  | named (m : Model)

namespace Ellipsoid.Figure

variable {α β : Type}

def map (f : α → β) : Figure α → Figure β
  | sphere radius => sphere (f radius)
  | flattened a rf => flattened (f a) (f rf)
  | axes a b => axes (f a) (f b)
  | named m => named m

def ellipsoid [Scalar α] : Figure α → Ellipsoid α
  | sphere radius => .sphere radius
  | flattened a rf => ⟨a, if rf == 0 then 0 else 1 / rf⟩
  | axes a b => ⟨a, (a - b) / a⟩
  | named m => m.ellipsoid

end Ellipsoid.Figure

/-! ## Plans of projections -/

inductive Mercator.Stretch (α : Type) where
  | ofParallel (latTs : α)
  | factor (k : α)

namespace Mercator.Stretch

variable {α β : Type}

def map (f : α → β) : Stretch α → Stretch β
  | ofParallel latTs => ofParallel (f latTs)
  | factor k => factor (f k)

def scale [Elementary α] (e : Ellipsoid α) : Stretch α → α
  | ofParallel latTs => Mercator.scaleOfParallel e latTs
  | factor k => k

end Mercator.Stretch

/-- A method with its parameters, whatever the figure of the globe; angles are in degrees. -/
inductive Projection.Plan (α : Type) where
  | longLat
  | mercator (stretch : Mercator.Stretch α) (lon0 falseEasting falseNorthing : α)
  | polarStereographic (lat0 latTs lon0 falseEasting falseNorthing : α)
  | lambertConformal (lat0 lon0 lat1 lat2 falseEasting falseNorthing : α)

namespace Projection.Plan

variable {α β : Type}

def map (f : α → β) : Plan α → Plan β
  | longLat => longLat
  | mercator stretch lon0 falseEasting falseNorthing =>
    mercator (stretch.map f) (f lon0) (f falseEasting) (f falseNorthing)
  | polarStereographic lat0 latTs lon0 falseEasting falseNorthing =>
    polarStereographic (f lat0) (f latTs) (f lon0) (f falseEasting) (f falseNorthing)
  | lambertConformal lat0 lon0 lat1 lat2 falseEasting falseNorthing =>
    lambertConformal (f lat0) (f lon0) (f lat1) (f lat2) (f falseEasting) (f falseNorthing)

/-- The projection of an ellipsoid by the plan; a cone stands on the sphere of the equator. -/
def projection [Elementary α] (e : Ellipsoid α) : Plan α → Projection α
  | longLat => .longLat e
  | mercator stretch lon0 falseEasting falseNorthing =>
    .mercator (.ofDegrees e lon0 (stretch.scale e) falseEasting falseNorthing)
  | polarStereographic lat0 latTs lon0 falseEasting falseNorthing =>
    .polarStereographic (.ofDegrees e (lat0 < 0) latTs lon0 falseEasting falseNorthing)
  | lambertConformal lat0 lon0 lat1 lat2 falseEasting falseNorthing =>
    .lambertConformal (.ofDegrees lat0 lon0 lat1 lat2 e.a falseEasting falseNorthing)

end Projection.Plan

/-! ## Reading parameters -/

namespace Definition

open Ellipsoid (Model)
open Mercator (Stretch)
open Projection (Plan)

section

variable {α : Type} [Written α]

def Lacks (d : Definition) (name : String) : Prop := d.get? name = none

instance (d : Definition) (name : String) : Decidable (d.Lacks name) :=
  inferInstanceAs (Decidable (d.get? name = none))

def Gives (d : Definition) (name : String) (x : α) : Prop :=
  ∃ value, d.get? name = some value ∧ Written.ofText? value = some x

/-- The parameter is a number, or it is not there and stands at its default. -/
def Reads (d : Definition) (name : String) (default x : α) : Prop :=
  d.Gives name x ∨ d.Lacks name ∧ x = default

variable {d : Definition} {name : String} {x : α}

theorem number?_eq_ok_none_iff : d.number? name = .ok (none : Option α) ↔ d.Lacks name := by
  unfold number? Lacks
  cases d.get? name with
  | none => simp
  | some value => cases h : (Written.ofText? value : Option α) <;> simp [h]

theorem number?_eq_ok_some_iff : d.number? name = .ok (some x) ↔ d.Gives name x := by
  unfold number? Gives
  cases d.get? name with
  | none => simp
  | some value => cases h : (Written.ofText? value : Option α) <;> simp [h]

theorem numberOr_eq_ok_iff {default : α} :
    d.numberOr name default = .ok x ↔ d.Reads name default x := by
  have hmap : d.numberOr name default = (·.getD default) <$> d.number? name := rfl
  unfold Reads
  rw [hmap, map_eq_ok_iff]
  constructor
  · rintro ⟨x?, hx?, rfl⟩
    cases x? with
    | none => exact .inr ⟨number?_eq_ok_none_iff.1 hx?, rfl⟩
    | some x => exact .inl (number?_eq_ok_some_iff.1 hx?)
  · rintro (hx | ⟨hlacks, rfl⟩)
    · exact ⟨some x, number?_eq_ok_some_iff.2 hx, rfl⟩
    · exact ⟨none, number?_eq_ok_none_iff.2 hlacks, rfl⟩

/-- The figure of the globe by precedence. -/
inductive Describes (d : Definition) : Ellipsoid.Figure α → Prop
  | radius {r : α} (hR : d.Gives "R" r) : Describes d (.sphere r)
  | flattening {a rf : α} (hR : d.Lacks "R") (ha : d.Gives "a" a) (hrf : d.Gives "rf" rf) :
    Describes d (.flattened a rf)
  | axes {a b : α} (hR : d.Lacks "R") (ha : d.Gives "a" a) (hrf : d.Lacks "rf")
    (hb : d.Gives "b" b) : Describes d (.axes a b)
  | axis {a : α} (hR : d.Lacks "R") (ha : d.Gives "a" a) (hrf : d.Lacks "rf")
    (hb : d.Lacks "b") : Describes d (.sphere a)
  | name {name : String} {m : Model} (hR : d.Lacks "R") (ha : d.Lacks "a")
    (hname : (d.get? "ellps" <|> d.get? "datum") = some name) (hm : Model.ofName? name = some m) :
    Describes d (.named m)
  | standard (hR : d.Lacks "R") (ha : d.Lacks "a") (hellps : d.Lacks "ellps")
    (hdatum : d.Lacks "datum") : Describes d (.named .wgs84)

end

section

variable {α : Type} [Scalar α] [Written α] {d : Definition} {e : Ellipsoid α}

theorem exists_describes_of_ellipsoid (h : d.ellipsoid = .ok e) :
    ∃ figure : Ellipsoid.Figure α, d.Describes figure ∧ figure.ellipsoid = e := by
  obtain ⟨radius?, hR, h⟩ := exists_of_bind_eq_ok h
  cases radius? with
  | some radius =>
    cases h
    exact ⟨.sphere radius, .radius (number?_eq_ok_some_iff.1 hR), rfl⟩
  | none =>
    replace hR := number?_eq_ok_none_iff.1 hR
    obtain ⟨a?, ha, h⟩ := exists_of_bind_eq_ok h
    cases a? with
    | some a =>
      replace ha := number?_eq_ok_some_iff.1 ha
      obtain ⟨rf?, hrf, h⟩ := exists_of_bind_eq_ok h
      cases rf? with
      | some rf =>
        cases h
        exact ⟨.flattened a rf, .flattening hR ha (number?_eq_ok_some_iff.1 hrf), rfl⟩
      | none =>
        replace hrf := number?_eq_ok_none_iff.1 hrf
        obtain ⟨b?, hb, h⟩ := exists_of_bind_eq_ok h
        cases b? with
        | some b =>
          cases h
          exact ⟨.axes a b, .axes hR ha hrf (number?_eq_ok_some_iff.1 hb), rfl⟩
        | none =>
          cases h
          exact ⟨.sphere a, .axis hR ha hrf (number?_eq_ok_none_iff.1 hb), rfl⟩
    | none =>
      replace ha := number?_eq_ok_none_iff.1 ha
      cases hname : (d.get? "ellps" <|> d.get? "datum") with
      | some name =>
        simp only [hname, Model.named?_eq] at h
        cases hm : Model.ofName? name with
        | some m =>
          rw [hm] at h
          cases h
          exact ⟨.named m, .name hR ha hname hm, rfl⟩
        | none =>
          rw [hm] at h
          cases h
      | none =>
        simp only [hname] at h
        cases h
        obtain ⟨hellps, hdatum⟩ : d.Lacks "ellps" ∧ d.Lacks "datum" := by
          simpa [Lacks] using hname
        exact ⟨.named .wgs84, .standard hR ha hellps hdatum, rfl⟩

theorem ellipsoid_of_describes {figure : Ellipsoid.Figure α} (h : d.Describes figure) :
    d.ellipsoid = .ok figure.ellipsoid := by
  cases h with
  | radius hR => exact bind_eq_ok (number?_eq_ok_some_iff.2 hR) rfl
  | flattening hR ha hrf =>
    refine bind_eq_ok (number?_eq_ok_none_iff.2 hR) ?_
    refine bind_eq_ok (number?_eq_ok_some_iff.2 ha) ?_
    exact bind_eq_ok (number?_eq_ok_some_iff.2 hrf) rfl
  | axes hR ha hrf hb =>
    refine bind_eq_ok (number?_eq_ok_none_iff.2 hR) ?_
    refine bind_eq_ok (number?_eq_ok_some_iff.2 ha) ?_
    refine bind_eq_ok (number?_eq_ok_none_iff.2 hrf) ?_
    exact bind_eq_ok (number?_eq_ok_some_iff.2 hb) rfl
  | axis hR ha hrf hb =>
    refine bind_eq_ok (number?_eq_ok_none_iff.2 hR) ?_
    refine bind_eq_ok (number?_eq_ok_some_iff.2 ha) ?_
    refine bind_eq_ok (number?_eq_ok_none_iff.2 hrf) ?_
    exact bind_eq_ok (number?_eq_ok_none_iff.2 hb) rfl
  | name hR ha hname hm =>
    refine bind_eq_ok (number?_eq_ok_none_iff.2 hR) ?_
    refine bind_eq_ok (number?_eq_ok_none_iff.2 ha) ?_
    simp only [hname, Model.named?_eq, hm]
    rfl
  | standard hR ha hellps hdatum =>
    refine bind_eq_ok (number?_eq_ok_none_iff.2 hR) ?_
    refine bind_eq_ok (number?_eq_ok_none_iff.2 ha) ?_
    rw [hellps, hdatum]
    rfl

end

section

variable {α : Type} [Elementary α] [Written α]

/-- A parallel of true scale, else a factor under either of its names. -/
inductive Stretches (d : Definition) : Stretch α → Prop
  | parallel {latTs : α} (hlatTs : d.Gives "lat_ts" latTs) : Stretches d (.ofParallel latTs)
  | factor {other k : α} (hlatTs : d.Lacks "lat_ts") (hother : d.Reads "k_0" 1 other)
    (hk : d.Reads "k" other k) : Stretches d (.factor k)

/-- The method and its parameters. -/
inductive Plans (d : Definition) : Plan α → Prop
  | longLat {method : String} (hproj : d.get? "proj" = some method)
    (hmethod : method ∈ ["longlat", "latlong", "lonlat", "latlon"]) : Plans d .longLat
  | mercator {stretch : Mercator.Stretch α} {lon0 falseEasting falseNorthing : α}
    (hproj : d.get? "proj" = some "merc") (hstretch : d.Stretches stretch)
    (hlon0 : d.Reads "lon_0" 0 lon0) (hx : d.Reads "x_0" 0 falseEasting)
    (hy : d.Reads "y_0" 0 falseNorthing) :
    Plans d (.mercator stretch lon0 falseEasting falseNorthing)
  | polarStereographic {lat0 latTs lon0 falseEasting falseNorthing : α}
    (hproj : d.get? "proj" = some "stere") (hlat0 : d.Reads "lat_0" 90 lat0)
    (hpole : ¬Projection.polarTolerance < Scalar.abs (Scalar.abs lat0 - 90))
    (hlatTs : d.Reads "lat_ts" lat0 latTs) (hlon0 : d.Reads "lon_0" 0 lon0)
    (hx : d.Reads "x_0" 0 falseEasting) (hy : d.Reads "y_0" 0 falseNorthing) :
    Plans d (.polarStereographic lat0 latTs lon0 falseEasting falseNorthing)
  | lambertConformal {lat0 lon0 lat1 lat2 falseEasting falseNorthing : α}
    (hproj : d.get? "proj" = some "lcc") (hlat1 : d.Gives "lat_1" lat1)
    (hlat2 : d.Reads "lat_2" lat1 lat2) (hlat0 : d.Reads "lat_0" lat1 lat0)
    (hlon0 : d.Reads "lon_0" 0 lon0) (hx : d.Reads "x_0" 0 falseEasting)
    (hy : d.Reads "y_0" 0 falseNorthing) :
    Plans d (.lambertConformal lat0 lon0 lat1 lat2 falseEasting falseNorthing)

end

end Definition

namespace Projection

open Definition

variable {α : Type} [Elementary α] [Written α] {d : Definition} {e : Ellipsoid α}

/-! ## What is read -/

theorem exists_plan_of_mercatorOf {m : Mercator α} (hproj : d.get? "proj" = some "merc")
    (h : mercatorOf d e = .ok m) :
    ∃ plan : Plan α, d.Plans plan ∧ plan.projection e = mercator m := by
  obtain ⟨lon0, hlon0, h⟩ := exists_of_bind_eq_ok h
  obtain ⟨falseEasting, hx, h⟩ := exists_of_bind_eq_ok h
  obtain ⟨falseNorthing, hy, h⟩ := exists_of_bind_eq_ok h
  obtain ⟨latTs?, hlatTs, h⟩ := exists_of_bind_eq_ok h
  replace hlon0 := numberOr_eq_ok_iff.1 hlon0
  replace hx := numberOr_eq_ok_iff.1 hx
  replace hy := numberOr_eq_ok_iff.1 hy
  cases latTs? with
  | some latTs =>
    cases h
    have hstretch := Stretches.parallel (number?_eq_ok_some_iff.1 hlatTs)
    exact ⟨_, .mercator hproj hstretch hlon0 hx hy, rfl⟩
  | none =>
    obtain ⟨other, hother, h⟩ := exists_of_bind_eq_ok h
    obtain ⟨k, hk, h⟩ := exists_of_bind_eq_ok h
    cases h
    have hstretch := Stretches.factor (number?_eq_ok_none_iff.1 hlatTs)
      (numberOr_eq_ok_iff.1 hother) (numberOr_eq_ok_iff.1 hk)
    exact ⟨_, .mercator hproj hstretch hlon0 hx hy, rfl⟩

theorem exists_plan_of_polarStereographicOf {s : PolarStereographic α}
    (hproj : d.get? "proj" = some "stere") (h : polarStereographicOf d e = .ok s) :
    ∃ plan : Plan α, d.Plans plan ∧ plan.projection e = polarStereographic s := by
  obtain ⟨lat0, hlat0, h⟩ := exists_of_bind_eq_ok h
  by_cases hpole : polarTolerance < Scalar.abs (Scalar.abs lat0 - 90)
  · rw [if_pos hpole] at h
    cases h
  · rw [if_neg hpole] at h
    obtain ⟨latTs, hlatTs, h⟩ := exists_of_bind_eq_ok h
    obtain ⟨lon0, hlon0, h⟩ := exists_of_bind_eq_ok h
    obtain ⟨falseEasting, hx, h⟩ := exists_of_bind_eq_ok h
    obtain ⟨falseNorthing, hy, h⟩ := exists_of_bind_eq_ok h
    cases h
    exact ⟨_, .polarStereographic hproj (numberOr_eq_ok_iff.1 hlat0) hpole
      (numberOr_eq_ok_iff.1 hlatTs) (numberOr_eq_ok_iff.1 hlon0) (numberOr_eq_ok_iff.1 hx)
      (numberOr_eq_ok_iff.1 hy), rfl⟩

theorem exists_plan_of_lambertConformalOf {c : LambertConformal α}
    (hproj : d.get? "proj" = some "lcc") (h : lambertConformalOf d e = .ok c) :
    ∃ plan : Plan α, d.Plans plan ∧ plan.projection e = lambertConformal c := by
  obtain ⟨lat1?, hlat1, h⟩ := exists_of_bind_eq_ok h
  cases lat1? with
  | none => cases h
  | some lat1 =>
    obtain ⟨lat2, hlat2, h⟩ := exists_of_bind_eq_ok h
    obtain ⟨lat0, hlat0, h⟩ := exists_of_bind_eq_ok h
    obtain ⟨lon0, hlon0, h⟩ := exists_of_bind_eq_ok h
    obtain ⟨falseEasting, hx, h⟩ := exists_of_bind_eq_ok h
    obtain ⟨falseNorthing, hy, h⟩ := exists_of_bind_eq_ok h
    cases h
    exact ⟨_, .lambertConformal hproj (number?_eq_ok_some_iff.1 hlat1)
      (numberOr_eq_ok_iff.1 hlat2) (numberOr_eq_ok_iff.1 hlat0) (numberOr_eq_ok_iff.1 hlon0)
      (numberOr_eq_ok_iff.1 hx) (numberOr_eq_ok_iff.1 hy), rfl⟩

theorem exists_plan_of_ofDefinition {p : Projection α} (h : ofDefinition d = .ok p) :
    ∃ (figure : Ellipsoid.Figure α) (plan : Plan α), d.Describes figure ∧ d.Plans plan ∧
      plan.projection figure.ellipsoid = p := by
  unfold ofDefinition at h
  cases hproj : d.get? "proj" with
  | none => simp only [hproj] at h; cases h
  | some method =>
    simp only [hproj] at h
    obtain ⟨e, he, h⟩ := exists_of_bind_eq_ok h
    obtain ⟨figure, hfigure, rfl⟩ := exists_describes_of_ellipsoid he
    refine ⟨figure, ?_⟩
    split at h
    iterate 4 exact ⟨.longLat, hfigure, .longLat hproj (by decide), Except.ok.inj h⟩
    · obtain ⟨m, hm, rfl⟩ := exists_of_map_eq_ok h
      obtain ⟨plan, hplan, hp⟩ := exists_plan_of_mercatorOf hproj hm
      exact ⟨plan, hfigure, hplan, hp⟩
    · obtain ⟨s, hs, rfl⟩ := exists_of_map_eq_ok h
      obtain ⟨plan, hplan, hp⟩ := exists_plan_of_polarStereographicOf hproj hs
      exact ⟨plan, hfigure, hplan, hp⟩
    · obtain ⟨c, hc, rfl⟩ := exists_of_map_eq_ok h
      obtain ⟨plan, hplan, hp⟩ := exists_plan_of_lambertConformalOf hproj hc
      exact ⟨plan, hfigure, hplan, hp⟩
    · cases h

/-! ## What is written so -/

theorem mercatorOf_of_plan {stretch : Mercator.Stretch α} {lon0 falseEasting falseNorthing : α}
    (hstretch : d.Stretches stretch) (hlon0 : d.Reads "lon_0" 0 lon0)
    (hx : d.Reads "x_0" 0 falseEasting) (hy : d.Reads "y_0" 0 falseNorthing) :
    mercatorOf d e = .ok (.ofDegrees e lon0 (stretch.scale e) falseEasting falseNorthing) := by
  refine bind_eq_ok (numberOr_eq_ok_iff.2 hlon0) (bind_eq_ok (numberOr_eq_ok_iff.2 hx)
    (bind_eq_ok (numberOr_eq_ok_iff.2 hy) ?_))
  cases hstretch with
  | parallel hlatTs => exact bind_eq_ok (number?_eq_ok_some_iff.2 hlatTs) rfl
  | factor hlatTs hother hk =>
    refine bind_eq_ok (number?_eq_ok_none_iff.2 hlatTs) ?_
    exact bind_eq_ok (numberOr_eq_ok_iff.2 hother) (bind_eq_ok (numberOr_eq_ok_iff.2 hk) rfl)

theorem polarStereographicOf_of_plan {lat0 latTs lon0 falseEasting falseNorthing : α}
    (hlat0 : d.Reads "lat_0" 90 lat0)
    (hpole : ¬polarTolerance < Scalar.abs (Scalar.abs lat0 - 90))
    (hlatTs : d.Reads "lat_ts" lat0 latTs) (hlon0 : d.Reads "lon_0" 0 lon0)
    (hx : d.Reads "x_0" 0 falseEasting) (hy : d.Reads "y_0" 0 falseNorthing) :
    polarStereographicOf d e =
      .ok (.ofDegrees e (lat0 < 0) latTs lon0 falseEasting falseNorthing) := by
  refine bind_eq_ok (numberOr_eq_ok_iff.2 hlat0) ?_
  refine (if_neg hpole).trans ?_
  exact bind_eq_ok (numberOr_eq_ok_iff.2 hlatTs) (bind_eq_ok (numberOr_eq_ok_iff.2 hlon0)
    (bind_eq_ok (numberOr_eq_ok_iff.2 hx) (bind_eq_ok (numberOr_eq_ok_iff.2 hy) rfl)))

theorem lambertConformalOf_of_plan {lat0 lon0 lat1 lat2 falseEasting falseNorthing : α}
    (hlat1 : d.Gives "lat_1" lat1) (hlat2 : d.Reads "lat_2" lat1 lat2)
    (hlat0 : d.Reads "lat_0" lat1 lat0) (hlon0 : d.Reads "lon_0" 0 lon0)
    (hx : d.Reads "x_0" 0 falseEasting) (hy : d.Reads "y_0" 0 falseNorthing) :
    lambertConformalOf d e =
      .ok (.ofDegrees lat0 lon0 lat1 lat2 e.a falseEasting falseNorthing) := by
  refine bind_eq_ok (number?_eq_ok_some_iff.2 hlat1) ?_
  exact bind_eq_ok (numberOr_eq_ok_iff.2 hlat2) (bind_eq_ok (numberOr_eq_ok_iff.2 hlat0)
    (bind_eq_ok (numberOr_eq_ok_iff.2 hlon0) (bind_eq_ok (numberOr_eq_ok_iff.2 hx)
      (bind_eq_ok (numberOr_eq_ok_iff.2 hy) rfl))))

theorem ofDefinition_of_plan {figure : Ellipsoid.Figure α} {plan : Plan α}
    (hfigure : d.Describes figure) (hplan : d.Plans plan) :
    ofDefinition d = .ok (plan.projection figure.ellipsoid) := by
  have he := ellipsoid_of_describes hfigure
  unfold ofDefinition
  cases hplan with
  | longLat hproj hmethod =>
    simp only [List.mem_cons, List.not_mem_nil, or_false] at hmethod
    rw [hproj, he]
    rcases hmethod with rfl | rfl | rfl | rfl <;> rfl
  | mercator hproj hstretch hlon0 hx hy =>
    rw [hproj]
    exact bind_eq_ok he (map_eq_ok_iff.2 ⟨_, mercatorOf_of_plan hstretch hlon0 hx hy, rfl⟩)
  | polarStereographic hproj hlat0 hpole hlatTs hlon0 hx hy =>
    rw [hproj]
    exact bind_eq_ok he (map_eq_ok_iff.2
      ⟨_, polarStereographicOf_of_plan hlat0 hpole hlatTs hlon0 hx hy, rfl⟩)
  | lambertConformal hproj hlat1 hlat2 hlat0 hlon0 hx hy =>
    rw [hproj]
    exact bind_eq_ok he (map_eq_ok_iff.2
      ⟨_, lambertConformalOf_of_plan hlat1 hlat2 hlat0 hlon0 hx hy, rfl⟩)

/-- A projection is read exactly when a figure is described and a method planned, and it is that of
the plan on the figure. -/
theorem ofText_eq_ok_iff {s : String} {p : Projection α} :
    ofText s = .ok p ↔ ∃ (figure : Ellipsoid.Figure α) (plan : Plan α),
      (Definition.ofText s).Describes figure ∧ (Definition.ofText s).Plans plan ∧
        plan.projection figure.ellipsoid = p := by
  constructor
  · exact exists_plan_of_ofDefinition
  · rintro ⟨figure, plan, hfigure, hplan, rfl⟩
    exact ofDefinition_of_plan hfigure hplan

end Projection

end Graticule
