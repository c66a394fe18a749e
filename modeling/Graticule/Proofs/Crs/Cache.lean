import Graticule.Decimal.Reader
import Graticule.Grid.Description
import Graticule.Proofs.Crs.Definition
import Graticule.Proofs.Except
import Mathlib.Data.List.Nodup

/-!
# Runs of the memory of reference systems

Whatever was asked for before, an answer is the first definition that the text alone gives, and every
entry of the memory is such an answer under its own identifier.  The memory only grows at its front,
so the entry under which a system was found stays the only one of its identifier.  Asking for the
identifier again makes no second definition: it gives the system itself.
-/

namespace Graticule

variable {α : Type} [Elementary α] [Written α]

namespace CrsCache

/-- Every entry is what its identifier alone identifies, no identifier has two entries, and the
definitions made are those of the entries. -/
structure Sound (cache : CrsCache α) : Prop where
  found : ∀ k c, (k, c) ∈ cache.entries → Crs.ofText k = .ok c
  nodup : (cache.entries.map (·.1)).Nodup
  made : cache.made = cache.entries.map (·.1)

theorem Sound.empty : Sound (empty : CrsCache α) := ⟨nofun, List.nodup_nil, rfl⟩

omit [Elementary α] [Written α] in
theorem mem_of_find?_eq_some {cache : CrsCache α} {s : String} {c : Crs α}
    (h : cache.find? s = some c) : (s, c) ∈ cache.entries := by
  obtain ⟨front, back, heq, -⟩ := List.lookup_eq_some_iff.1 h
  rw [heq]
  exact List.mem_append_right front List.mem_cons_self

omit [Elementary α] [Written α] in
theorem notMem_of_find?_eq_none {cache : CrsCache α} {s : String} (h : cache.find? s = none) :
    s ∉ cache.entries.map (·.1) := by
  intro hs
  obtain ⟨p, hp, rfl⟩ := List.mem_map.1 hs
  have := List.lookup_eq_none_iff.1 h p hp
  simp at this

/-- What is remembered is found. -/
theorem Sound.find?_eq_some {cache : CrsCache α} (hcache : cache.Sound) {s : String} {c : Crs α}
    (h : (s, c) ∈ cache.entries) : cache.find? s = some c := by
  cases hfind : cache.find? s with
  | none => exact absurd (List.mem_map_of_mem h) (notMem_of_find?_eq_none hfind)
  | some d =>
    have hd := hcache.found s d (mem_of_find?_eq_some hfind)
    rw [hcache.found s c h] at hd
    rw [Except.ok.inj hd]

/-! ## One call -/

theorem resolve_of_find?_eq_some {cache : CrsCache α} {s : String} {c : Crs α}
    (h : cache.find? s = some c) : cache.resolve s = (.ok c, cache) := by
  unfold CrsCache.resolve
  rw [h]

/-- A text that is not remembered gets a new definition. -/
theorem resolve_of_find?_eq_none {cache : CrsCache α} {s : String} (h : cache.find? s = none)
    {d : CrsDefinition α} (hd : CrsDefinition.ofText s = .ok d) :
    cache.resolve s = (.ok ⟨d, cache.made.count d.identifier⟩,
      ⟨(s, ⟨d, cache.made.count d.identifier⟩) :: cache.entries, d.identifier :: cache.made⟩) := by
  have hmade : (cache.make d).2.find? s = none := h
  unfold CrsCache.resolve
  simp only [h, hd, findOrInsert, hmade]
  rfl

theorem resolve_of_error {cache : CrsCache α} {s : String} (h : cache.find? s = none)
    {e : CrsError} (he : (CrsDefinition.ofText s : Except CrsError (CrsDefinition α)) = .error e) :
    cache.resolve s = (.error e, cache) := by
  unfold CrsCache.resolve
  simp only [h, he]

/-- What one call does: the answer is that of the text alone, and the memory grows by it at most. -/
theorem Sound.resolve_cases {cache : CrsCache α} (hcache : cache.Sound) (s : String) :
    (∃ c, Crs.ofText s = .ok c ∧ cache.resolve s = (.ok c, cache) ∧ (s, c) ∈ cache.entries) ∨
    (∃ c, Crs.ofText s = .ok c ∧ cache.find? s = none ∧
      cache.resolve s = (.ok c, ⟨(s, c) :: cache.entries, s :: cache.made⟩)) ∨
    (∃ e, (Crs.ofText s : Except CrsError (Crs α)) = .error e ∧
      cache.resolve s = (.error e, cache)) := by
  cases hfind : cache.find? s with
  | some c =>
    have hmem := mem_of_find?_eq_some hfind
    exact .inl ⟨c, hcache.found s c hmem, resolve_of_find?_eq_some hfind, hmem⟩
  | none =>
    cases htext : (CrsDefinition.ofText s : Except CrsError (CrsDefinition α)) with
    | ok d =>
      -- no definition was made without an entry, so this one is the first of its identifier
      have hfirst : cache.made.count s = 0 := by
        rw [hcache.made, List.count_eq_zero]
        exact notMem_of_find?_eq_none hfind
      have hresolve := resolve_of_find?_eq_none hfind htext
      rw [CrsDefinition.identifier_of_ofText htext, hfirst] at hresolve
      exact .inr (.inl ⟨_, Crs.ofText_eq_ok_iff.2 ⟨htext, rfl⟩, rfl, hresolve⟩)
    | error e =>
      exact .inr (.inr ⟨e, Crs.ofText_eq_error_iff.2 htext, resolve_of_error hfind htext⟩)

theorem Sound.resolve {cache : CrsCache α} (hcache : cache.Sound) (s : String) :
    (cache.resolve s).2.Sound := by
  obtain ⟨c, -, hr, -⟩ | ⟨c, htext, hfind, hr⟩ | ⟨e, -, hr⟩ := hcache.resolve_cases s
  · rwa [hr]
  · rw [hr]
    constructor
    · intro k d hd
      rcases List.mem_cons.1 hd with heq | hd
      · cases heq
        exact htext
      · exact hcache.found k d hd
    · exact List.nodup_cons.2 ⟨notMem_of_find?_eq_none hfind, hcache.nodup⟩
    · exact congrArg (s :: ·) hcache.made
  · rwa [hr]

theorem Sound.answer_resolve {cache : CrsCache α} (hcache : cache.Sound) (s : String) :
    (cache.resolve s).1 = Crs.ofText s := by
  obtain ⟨c, htext, hr, -⟩ | ⟨c, htext, -, hr⟩ | ⟨e, htext, hr⟩ := hcache.resolve_cases s <;>
    rw [hr, htext]

theorem Sound.suffix_resolve {cache : CrsCache α} (hcache : cache.Sound) (s : String) :
    cache.entries <:+ (cache.resolve s).2.entries := by
  obtain ⟨c, -, hr, -⟩ | ⟨c, -, -, hr⟩ | ⟨e, -, hr⟩ := hcache.resolve_cases s
  · simp only [hr, List.suffix_refl]
  · simp only [hr, List.suffix_cons]
  · simp only [hr, List.suffix_refl]

theorem Sound.resolve_of_error {cache : CrsCache α} (hcache : cache.Sound) {s : String}
    {e : CrsError} (h : (cache.resolve s).1 = .error e) : (cache.resolve s).2 = cache := by
  obtain ⟨c, -, hr, -⟩ | ⟨c, -, -, hr⟩ | ⟨e', -, hr⟩ := hcache.resolve_cases s
  · rw [hr]
  · rw [hr] at h
    cases h
  · rw [hr]

theorem Sound.mem_resolve {cache : CrsCache α} (hcache : cache.Sound) {s : String} {c : Crs α}
    (h : Crs.ofText s = .ok c) : (s, c) ∈ (cache.resolve s).2.entries := by
  obtain ⟨d, htext, hr, hmem⟩ | ⟨d, htext, -, hr⟩ | ⟨e, htext, -⟩ := hcache.resolve_cases s
  · rw [hr, Except.ok.inj (h.symm.trans htext)]
    exact hmem
  · rw [hr, Except.ok.inj (h.symm.trans htext)]
    exact List.mem_cons_self
  · rw [h] at htext
    cases htext

/-! ## A run of calls -/

/-- The answers to a run of calls, in order, and the memory after them. -/
def run (cache : CrsCache α) : List String → List (Except CrsError (Crs α)) × CrsCache α
  | [] => ([], cache)
  | s :: ss =>
    ((cache.resolve s).1 :: ((cache.resolve s).2.run ss).1, ((cache.resolve s).2.run ss).2)

theorem Sound.run {cache : CrsCache α} (hcache : cache.Sound) (ss : List String) :
    (cache.run ss).2.Sound := by
  induction ss generalizing cache with
  | nil => exact hcache
  | cons s ss ih => exact ih (hcache.resolve s)

theorem Sound.answers_run {cache : CrsCache α} (hcache : cache.Sound) (ss : List String) :
    (cache.run ss).1 = ss.map Crs.ofText := by
  induction ss generalizing cache with
  | nil => rfl
  | cons s ss ih =>
    rw [CrsCache.run, List.map_cons, hcache.answer_resolve, ih (hcache.resolve s)]

theorem Sound.suffix_run {cache : CrsCache α} (hcache : cache.Sound) (ss : List String) :
    cache.entries <:+ (cache.run ss).2.entries := by
  induction ss generalizing cache with
  | nil => exact List.suffix_refl _
  | cons s ss ih => exact (hcache.suffix_resolve s).trans (ih (hcache.resolve s))

/-- A system that was an answer is remembered under its identifier. -/
theorem Sound.mem_run {cache : CrsCache α} (hcache : cache.Sound) {ss : List String} {c : Crs α}
    (h : .ok c ∈ (cache.run ss).1) : (c.identifier, c) ∈ (cache.run ss).2.entries := by
  induction ss generalizing cache with
  | nil => cases h
  | cons s ss ih =>
    have hnext := hcache.resolve s
    rcases List.mem_cons.1 h with hfirst | hrest
    -- remembered in this call, and later calls only add at the front
    · rw [hcache.answer_resolve] at hfirst
      rw [Crs.identifier_of_ofText hfirst.symm]
      exact (hnext.suffix_run ss).subset (hcache.mem_resolve hfirst.symm)
    · exact ih hnext hrest

/-- Two answers of one run share a definition exactly when one text gave both. -/
theorem Sound.isSharedWith_iff_of_mem_run {cache : CrsCache α} (hcache : cache.Sound)
    {ss : List String} {c d : Crs α} (hc : .ok c ∈ (cache.run ss).1)
    (hd : .ok d ∈ (cache.run ss).1) :
    c.isSharedWith d = true ↔ c.identifier = d.identifier := by
  have hfound := (hcache.run ss).found
  have hfirst := (Crs.ofText_eq_ok_iff.1 (hfound _ _ (hcache.mem_run hc))).2
  have hfirst' := (Crs.ofText_eq_ok_iff.1 (hfound _ _ (hcache.mem_run hd))).2
  rw [Crs.isSharedWith_iff, hfirst, hfirst']
  exact and_iff_left rfl

end CrsCache

/-! ## Grids described and built again -/

theorem GridDescription.fst_build (d : GridDescription α) (cache : CrsCache α) :
    (d.build cache).1 = match (cache.resolve d.crs).1 with
      | .ok crs => Grid.make d.width d.height d.affine crs
      | .error cause => .error (.crs cause) := by
  unfold build
  obtain ⟨answer, rest⟩ := cache.resolve d.crs
  cases answer <;> rfl

/-- The grid built from a description does not depend on what was asked for before. -/
theorem CrsCache.Sound.answer_build {cache : CrsCache α} (hcache : cache.Sound)
    (d : GridDescription α) : (d.build cache).1 = d.grid := by
  rw [GridDescription.grid, GridDescription.fst_build, GridDescription.fst_build,
    hcache.answer_resolve, CrsCache.Sound.empty.answer_resolve]

theorem Grid.build_description {g : Grid α} {cache : CrsCache α}
    (h : cache.resolve g.crs.identifier = (.ok g.crs, cache)) :
    g.description.build cache = (.ok g, cache) := by
  have hmake : Grid.make g.width g.height g.affine g.crs = .ok g := dif_pos g.axisAligned
  unfold GridDescription.build Grid.description
  simp only [h, hmake]

omit [Written α] in
theorem Affine.beq_self {t : Affine α} (h : ∀ x ∈ t.coefficients, (x == x) = true) :
    (t == t) = true := by
  have hbeq : (t == t) = (t.a == t.a && (t.b == t.b && (t.c == t.c && (t.d == t.d &&
    (t.e == t.e && t.f == t.f))))) := rfl
  simp only [Affine.coefficients, List.forall_mem_cons] at h
  simp [hbeq, h]

omit [Written α] in
theorem Grid.beq_self {g : Grid α} (h : ∀ x ∈ g.affine.coefficients, (x == x) = true) :
    (g == g) = true := by
  have hbeq : (g == g) =
    (g.width == g.width && g.height == g.height && g.affine == g.affine && g.crs == g.crs) := rfl
  rw [hbeq, beq_self_eq_true, beq_self_eq_true, Affine.beq_self h, Crs.beq_refl]
  rfl

namespace CrsCache

/-- After any run of calls from an empty memory: each answer depends on its own text alone; every
entry carries its identifier and is the definition that the identifier alone gives, no two entries
have one identifier, and no second definition of an identifier was made; one more call leaves the old
entries as they are, and a call that fails changes nothing; a system that was an answer is remembered
under its identifier, which is answered by the system itself with no change, so it shares its
definition with the answers to this identifier and no others, and equals itself; what a description
builds depends on the description alone, and a grid placed in such a system is built again from its
own. -/
theorem run_empty_sound (ss : List String) :
    ((empty : CrsCache α).run ss).1 = ss.map Crs.ofText ∧
    let answers := ((empty : CrsCache α).run ss).1
    let cache := ((empty : CrsCache α).run ss).2
    (∀ k c, (k, c) ∈ cache.entries →
      c.identifier = k ∧ CrsDefinition.ofText k = .ok c.toCrsDefinition) ∧
    (cache.entries.map (·.1)).Nodup ∧ cache.made.Nodup ∧
    (∀ s, (cache.resolve s).1 = Crs.ofText s ∧ cache.entries <:+ (cache.resolve s).2.entries ∧
      ∀ e, (cache.resolve s).1 = .error e → (cache.resolve s).2 = cache) ∧
    (∀ c, .ok c ∈ answers → (c.identifier, c) ∈ cache.entries ∧
      cache.resolve c.identifier = (.ok c, cache) ∧ (c == c) = true ∧
      ∀ d, .ok d ∈ answers → (c.isSharedWith d = true ↔ c.identifier = d.identifier)) ∧
    (∀ d : GridDescription α, (d.build cache).1 = d.grid) ∧
    ∀ g : Grid α, .ok g.crs ∈ answers → g.description.build cache = (.ok g, cache) ∧
      ((∀ x ∈ g.affine.coefficients, (x == x) = true) → (g == g) = true) := by
  refine ⟨Sound.empty.answers_run ss, ?_⟩
  intro answers cache
  have hcache : cache.Sound := Sound.empty.run ss
  have hmem {c : Crs α} (hc : .ok c ∈ answers) : (c.identifier, c) ∈ cache.entries :=
    Sound.empty.mem_run hc
  have hagain {c : Crs α} (hc : .ok c ∈ answers) :
      cache.resolve c.identifier = (.ok c, cache) :=
    resolve_of_find?_eq_some (hcache.find?_eq_some (hmem hc))
  refine ⟨?_, hcache.nodup, hcache.made ▸ hcache.nodup, ?_, ?_, hcache.answer_build, ?_⟩
  · intro k c hc
    have htext := hcache.found k c hc
    exact ⟨Crs.identifier_of_ofText htext, (Crs.ofText_eq_ok_iff.1 htext).1⟩
  · exact fun s => ⟨hcache.answer_resolve s, hcache.suffix_resolve s,
      fun e => hcache.resolve_of_error⟩
  · exact fun c hc => ⟨hmem hc, hagain hc, Crs.beq_refl c,
      fun d hd => Sound.empty.isSharedWith_iff_of_mem_run hc hd⟩
  · exact fun g hg => ⟨Grid.build_description (hagain hg), Grid.beq_self⟩

/-- A radius that is not a number, with a call that fails in between: the system is the same when it
is asked for again, and a grid over it is built again. -/
theorem run_empty_sound_nan :
    let cache := ((empty : CrsCache Float).run ["+proj=longlat +R=nan", "east"]).2
    ∃ c : Crs Float, (c.projection == c.projection) = false ∧
      cache.resolve "+proj=longlat +R=nan" = (.ok c, cache) ∧ (c == c) = true ∧
      ∃ g : Grid Float, g.crs = c ∧ g.description.build cache = (.ok g, cache) ∧
        (g == g) = true := by
  intro cache
  have hread : ((fun c : Crs Float => c.projection == c.projection) <$>
      Crs.ofText "+proj=longlat +R=nan").toOption = some false := by decide +kernel
  obtain ⟨c, htext, hprojection⟩ := exists_of_map_eq_ok (eq_ok_of_toOption_eq_some hread)
  obtain ⟨hanswers, -, -, -, -, hfound, -, hgrid⟩ :=
    run_empty_sound (α := Float) ["+proj=longlat +R=nan", "east"]
  have hanswer : .ok c ∈ ((empty : CrsCache Float).run ["+proj=longlat +R=nan", "east"]).1 := by
    rw [hanswers, List.map_cons, htext]
    exact List.mem_cons_self
  obtain ⟨-, hresolve, hself, -⟩ := hfound c hanswer
  rw [Crs.identifier_of_ofText htext] at hresolve
  have hcoefficients : ∀ x ∈ (⟨1, 0, 0, 0, -1, 0⟩ : Affine Float).coefficients,
      (x == x) = true := by
    decide +kernel
  obtain ⟨hback, hequal⟩ := hgrid ⟨4, 3, ⟨1, 0, 0, 0, -1, 0⟩, c, by decide +kernel⟩ hanswer
  exact ⟨c, hprojection, hresolve, hself, _, rfl, hback, hequal hcoefficients⟩

end CrsCache

end Graticule
