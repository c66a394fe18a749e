import Graticule.Projection.Basic
import Graticule.Projection.Error

/-!
# Registered projections

The projections that have a code, each with its name.
-/

namespace Graticule

structure Registration (α : Type) where
  code : Nat
  name : String
  projection : Projection α

namespace Registration

variable {α : Type} [Elementary α]

def all : List (Registration α) :=
  [ ⟨4326, "WGS 84", .longLat .wgs84⟩,
    ⟨4269, "NAD83", .longLat .grs80⟩,
    ⟨3857, "WGS 84 / Pseudo-Mercator", .mercator .web⟩,
    ⟨3395, "WGS 84 / World Mercator", .mercator .world⟩,
    ⟨3832, "WGS 84 / PDC Mercator", .mercator .pacific⟩,
    ⟨3031, "WGS 84 / Antarctic Polar Stereographic", .polarStereographic .antarctic⟩,
    ⟨3413, "WGS 84 / NSIDC Sea Ice Polar Stereographic North", .polarStereographic .arctic⟩ ]

def codes : List Nat := [4326, 4269, 3857, 3395, 3832, 3031, 3413]

theorem map_code_all : (all : List (Registration α)).map (·.code) = codes := rfl

/-- The code that a code stands for: `900913` is another name of `3857`. -/
def properCode (code : Nat) : Nat := if code = 900913 then 3857 else code

def find (code : Nat) : Except ProjectionError (Registration α) :=
  match all.find? fun r => r.code = properCode code with
  | some r => .ok r
  | none => .error (.unknownCode code)

end Registration

end Graticule
