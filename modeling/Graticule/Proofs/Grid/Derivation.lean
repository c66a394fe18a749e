import Graticule.Proofs.Grid.Lattice

/-!
# Grids derived from one grid

A derivation starts from a grid and at each step selects, grows, unites or intersects grids that
are there already.  `Derivation.apply_eq_window` says that a step gives a window of the first grid
when its operands are windows of it, and `Derivation.run_eq_windows` follows a whole run.  So no step
fails, and what windows keep is kept by every derived grid.
-/

namespace Graticule

/-- A step of a derivation.  Operands are named by their place, the first grid being at place zero
and the grid of the `n`th step at place `n`. -/
inductive Derivation.Step (α : Type) where
  | crop (operand : ℕ) (region : Region)
  | buffered (operand : ℕ) (distance : AxisPair α)
  | union (first : ℕ) (rest : List ℕ)
  | intersection (first : ℕ) (rest : List ℕ)

namespace Derivation

def Step.IsContiguous {α : Type} : Step α → Prop
  | crop _ region => region.rows.IsContiguous ∧ region.columns.IsContiguous
  | _ => True

section
variable {α : Type} [Scalar α]

def pick (g : Grid α) (derived : List (Grid α)) (place : ℕ) : Grid α :=
  (g :: derived).getD place g

def Step.apply (g : Grid α) (derived : List (Grid α)) : Step α → Except (Error α) (Grid α)
  | crop operand region => (pick g derived operand).crop region
  | buffered operand distance => (pick g derived operand).buffered distance
  | union first rest => Grid.unionAll (pick g derived first :: rest.map (pick g derived))
  | intersection first rest =>
    Grid.intersectionAll (pick g derived first :: rest.map (pick g derived))

/-- The derived grids with that of a further step at the end. -/
def extend (g : Grid α) (derived : List (Grid α)) (step : Step α) :
    Except (Error α) (List (Grid α)) := do
  return derived ++ [← step.apply g derived]

/-- The grids that the steps give, in order; the first step that fails ends the run. -/
def run (g : Grid α) (steps : List (Step α)) : Except (Error α) (List (Grid α)) :=
  steps.foldlM (extend g) []

end

open scoped Exact

variable {K : Type} [Field K] [LinearOrder K] [IsStrictOrderedRing K] [FloorRing K]

def AreWindows (g : Grid K) (derived : List (Grid K)) : Prop :=
  ∀ h ∈ derived, ∃ w, h = g.window w

omit [IsStrictOrderedRing K] in
theorem exists_pick_eq_window {g : Grid K} {derived : List (Grid K)} (h : AreWindows g derived)
    (place : ℕ) : ∃ w, pick g derived place = g.window w := by
  unfold pick
  rw [List.getD_eq_getElem?_getD]
  cases hplace : (g :: derived)[place]? with
  | none => exact ⟨_, g.window_self.symm⟩
  | some d =>
    rcases List.mem_cons.1 (List.mem_of_getElem? hplace) with rfl | hd
    · exact ⟨_, d.window_self.symm⟩
    · exact h d hd

/-- One step: operands that are windows of an invertible grid give a window of it. -/
theorem apply_eq_window {g : Grid K} (hg : g.affine.inverse?.isSome = true)
    {derived : List (Grid K)} (hderived : AreWindows g derived) {step : Step K}
    (hstep : step.IsContiguous) : ∃ w, step.apply g derived = .ok (g.window w) := by
  have hpick := exists_pick_eq_window hderived
  have hinverse (v : Window) : (g.window v).affine.inverse?.isSome = true := by
    rw [Grid.affine_window, Grid.inverse?_isSome_shifted, hg]
  have hrest (v : Window) (rest : List ℕ) :
      ∀ h ∈ rest.map (pick g derived), (g.window v).OnLattice h := by
    intro h hh
    obtain ⟨place, -, rfl⟩ := List.mem_map.1 hh
    obtain ⟨w, hw⟩ := hpick place
    rw [hw]
    exact g.onLattice_window v w
  cases step with
  | crop operand region =>
    obtain ⟨v, hv⟩ := hpick operand
    obtain ⟨w, hw⟩ := (g.window v).exists_crop_eq_window hstep.1 hstep.2
    exact ⟨_, by rw [Step.apply, hv, hw, Grid.window_window]⟩
  | buffered operand distance =>
    obtain ⟨v, hv⟩ := hpick operand
    exact ⟨_, by rw [Step.apply, hv, Grid.buffered_eq_window, Grid.window_window]⟩
  | union first rest =>
    obtain ⟨v, hv⟩ := hpick first
    obtain ⟨b, -, hb⟩ := Grid.unionAll_eq_window (hinverse v) (hrest v rest)
    exact ⟨_, by rw [Step.apply, hv, hb, Grid.window_window]⟩
  | intersection first rest =>
    obtain ⟨v, hv⟩ := hpick first
    obtain ⟨b, -, hb⟩ := Grid.commonBox_eq (hinverse v) (hrest v rest)
    exact ⟨_, by rw [Step.apply, hv, Grid.intersectionAll_eq_window hb, Grid.window_window]⟩

/-- A whole run: every step succeeds and gives a window of the first grid. -/
theorem foldlM_extend_eq_windows {g : Grid K} (hg : g.affine.inverse?.isSome = true)
    {steps : List (Step K)} (hsteps : ∀ step ∈ steps, step.IsContiguous)
    {derived : List (Grid K)} (hderived : AreWindows g derived) :
    ∃ all, steps.foldlM (extend g) derived = .ok all ∧
      all.length = derived.length + steps.length ∧ AreWindows g all := by
  induction steps generalizing derived with
  | nil => exact ⟨derived, rfl, rfl, hderived⟩
  | cons step steps ih =>
    obtain ⟨w, hw⟩ := apply_eq_window hg hderived (hsteps step List.mem_cons_self)
    have hnext : AreWindows g (derived ++ [g.window w]) := by
      intro h hh
      rcases List.mem_append.1 hh with hold | hnew
      · exact hderived h hold
      · exact ⟨w, List.mem_singleton.1 hnew⟩
    obtain ⟨all, hrun, hlength, hall⟩ :=
      ih (fun s hs => hsteps s (List.mem_cons_of_mem step hs)) hnext
    refine ⟨all, ?_, ?_, hall⟩
    · have hextend : extend g derived step = .ok (derived ++ [g.window w]) := by
        rw [extend, hw]
        rfl
      rw [List.foldlM_cons, hextend]
      exact hrun
    · rw [hlength, List.length_append, List.length_singleton, List.length_cons]
      omega

/-- No step of a derivation from an invertible grid fails, and every derived grid has the system,
the pixel size and the alignment of the first grid and its map moved by whole pixels. -/
theorem run_keeps_lattice (g : Grid K) (hg : Affine.negligible ≤ |g.affine.determinant|)
    (steps : List (Step K)) (hsteps : ∀ step ∈ steps, step.IsContiguous) :
    ∃ derived, run g steps = .ok derived ∧ derived.length = steps.length ∧
      ∀ h ∈ derived,
        h.affine.b = 0 ∧ h.affine.d = 0 ∧ h.crs = g.crs ∧ h.resolution = g.resolution ∧
          h.alignment = g.alignment ∧
          ∃ columns rows : ℤ,
            h.affine = g.affine * .translation (columns : K) (rows : K) := by
  have hinverse := (Affine.inverse?_isSome_iff _).2 hg
  have hstart : AreWindows g [] := by
    intro h hh
    exact absurd hh List.not_mem_nil
  obtain ⟨derived, hrun, hlength, hwindows⟩ := foldlM_extend_eq_windows hinverse hsteps hstart
  refine ⟨derived, hrun, by simpa using hlength, ?_⟩
  intro h hh
  obtain ⟨w, rfl⟩ := hwindows h hh
  obtain ⟨hb, hd⟩ := (g.window w).shears_eq_zero
  exact ⟨hb, hd, rfl, g.resolution_window w, Grid.alignment_window hinverse w, w.column, w.row,
    rfl⟩

/-- The theorem at a grid that is grown, shrunk past nothing, selected beyond its end and backward,
and united and intersected with what came of it. -/
theorem run_keeps_lattice_northUp :
    let g := Grid.northUp 6 4 2 3
    let steps : List (Step ℚ) :=
      [.buffered 0 ⟨15, -25⟩, .crop 1 ⟨.between (-9) 20, ⟨some 30, none, some 1⟩⟩,
        .buffered 2 ⟨-1000, 7⟩, .union 3 [0, 2, 1], .intersection 2 [4, 0], .union 5 []]
    Affine.negligible ≤ |g.affine.determinant| ∧ (∀ step ∈ steps, step.IsContiguous) ∧
      ∃ derived, run g steps = .ok derived ∧ derived.length = steps.length ∧
        ∀ h ∈ derived,
          h.affine.b = 0 ∧ h.affine.d = 0 ∧ h.crs = g.crs ∧ h.resolution = g.resolution ∧
            h.alignment = g.alignment ∧
            ∃ columns rows : ℤ,
              h.affine = g.affine * .translation (columns : ℚ) (rows : ℚ) := by
  intro g steps
  have hg := Grid.negligible_le_determinant_northUp 6 4 2 3
  have hsteps : ∀ step ∈ steps, step.IsContiguous := by
    simp [steps, Step.IsContiguous, Span.IsContiguous, Span.between]
  exact ⟨hg, hsteps, run_keeps_lattice g hg steps hsteps⟩

end Derivation

end Graticule
