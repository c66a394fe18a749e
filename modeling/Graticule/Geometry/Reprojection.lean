import Graticule.Geometry.Antimeridian
import Graticule.Geometry.ReprojectOptions

/-!
# Reprojection

A geometry passes to another reference system vertex by vertex, after its edges were segmented so
that they follow the curves that straight lines become.
-/

namespace Graticule

namespace Geometry

variable {α : Type} [Elementary α] [Planar α]

/-- The geometry in another reference system; as it is when it is in the same system. -/
def toCrs (g : Geometry α) (target : Crs α) (options : ReprojectOptions α) :
    Except (Error α) (Geometry α) :=
  match g.crs with
  | none => .error .geometryWithoutCrs
  | some source =>
    if source == target then .ok g
    else
      let passage := source.transformerTo target
      let cut :=
        if options.wrapDateline && target.isGeographic then
          Antimeridian.chop passage.apply passage.inverse.apply g
        else g
      .ok (((cut.segmented (options.resolutionFor source)).mapVertices passage.apply).withCrs
        (some target))

end Geometry

end Graticule
