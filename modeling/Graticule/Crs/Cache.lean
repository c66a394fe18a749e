import Graticule.Crs.Definition

/-!
# Memory of reference systems

A cache remembers every system that was found, by its identifier.  What is remembered is never
replaced or forgotten, and an identifier that names no system leaves the cache as it was.

A system is one definition in memory, made once and shared from then on.  Definitions of one text
have the same contents, so they are numbered: the identifier and the number tell the definitions in
memory apart.
-/

namespace Graticule

structure Crs (α : Type) extends CrsDefinition α where
  /-- The number of definitions of the same identifier that were made before this one. -/
  serial : Nat

/-- The two systems share one definition in memory. -/
def Crs.isSharedWith {α : Type} (c d : Crs α) : Bool :=
  c.identifier == d.identifier && c.serial == d.serial

/-- The systems found so far, the latest first. -/
structure CrsCache (α : Type) where
  entries : List (String × Crs α)
  /-- The identifiers of all definitions made, remembered or not. -/
  made : List String

namespace CrsCache

variable {α : Type}

def empty : CrsCache α := ⟨[], []⟩

def find? (cache : CrsCache α) (identifier : String) : Option (Crs α) :=
  cache.entries.lookup identifier

def contains (cache : CrsCache α) (identifier : String) : Bool :=
  (cache.find? identifier).isSome

def size (cache : CrsCache α) : Nat := cache.entries.length

/-- A new system with its own definition in memory. -/
def make (cache : CrsCache α) (d : CrsDefinition α) : Crs α × CrsCache α :=
  (⟨d, cache.made.count d.identifier⟩, { cache with made := d.identifier :: cache.made })

/-- The system remembered for an identifier; if there is none, the given one, which is remembered. -/
def findOrInsert (cache : CrsCache α) (identifier : String) (c : Crs α) : Crs α × CrsCache α :=
  match cache.find? identifier with
  | some old => (old, cache)
  | none => (c, { cache with entries := (identifier, c) :: cache.entries })

/-- The system that a text identifies, and the cache after it was asked for. -/
def resolve [Elementary α] [Written α] (cache : CrsCache α) (identifier : String) :
    Except CrsError (Crs α) × CrsCache α :=
  match cache.find? identifier with
  | some c => (.ok c, cache)
  | none =>
    match CrsDefinition.ofText identifier with
    | .ok d =>
      let (c, cache) := cache.make d
      let (c, cache) := cache.findOrInsert identifier c
      (.ok c, cache)
    | .error e => (.error e, cache)

end CrsCache

end Graticule
