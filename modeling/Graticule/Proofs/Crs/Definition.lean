import Graticule.Crs.Basic
import Mathlib.Tactic.SplitIfs

/-!
# Systems and their definitions

Systems share a definition when their identifiers and the numbers of their definitions agree.  A text
that is asked for first identifies the system with the first definition it gives.
-/

namespace Graticule

namespace Crs

variable {α : Type} {c d : Crs α}

theorem isSharedWith_iff :
    c.isSharedWith d = true ↔ c.identifier = d.identifier ∧ c.serial = d.serial := by
  simp [isSharedWith]

theorem isSharedWith_refl (c : Crs α) : c.isSharedWith c = true :=
  isSharedWith_iff.2 ⟨rfl, rfl⟩

theorem isSharedWith_symm (h : c.isSharedWith d = true) : d.isSharedWith c = true := by
  obtain ⟨hidentifier, hserial⟩ := isSharedWith_iff.1 h
  exact isSharedWith_iff.2 ⟨hidentifier.symm, hserial.symm⟩

/-- A system shares its definition with itself, so it equals itself whatever its numbers are. -/
theorem beq_refl [BEq α] (c : Crs α) : (c == c) = true :=
  Bool.or_eq_true_iff.2 (.inl (isSharedWith_refl c))

end Crs

variable {α : Type} [Elementary α] [Written α]

namespace CrsDefinition

omit [Written α] in
theorem identifier_of_registered {s : String} {code : Nat} {d : CrsDefinition α}
    (h : registered s code = .ok d) : d.identifier = s := by
  unfold registered at h
  split at h
  · cases h
    rfl
  · cases h

/-- A definition carries the text that gives it, whatever kind of text that is. -/
theorem identifier_of_ofText {s : String} {d : CrsDefinition α} (h : ofText s = .ok d) :
    d.identifier = s := by
  simp only [ofText] at h
  split at h
  · exact identifier_of_registered h
  · split_ifs at h
    · split at h
      · cases h
        rfl
      · cases h
    · split at h
      · exact identifier_of_registered h
      · cases h

end CrsDefinition

namespace Crs

theorem ofText_eq_map (s : String) :
    (ofText s : Except CrsError (Crs α)) = (CrsDefinition.ofText s).map (⟨·, 0⟩) := by
  have hmiss : (CrsCache.empty : CrsCache α).find? s = none := rfl
  unfold ofText CrsCache.resolve
  cases (CrsDefinition.ofText s : Except CrsError (CrsDefinition α)) <;> rw [hmiss] <;> rfl

theorem ofText_eq_ok_iff {s : String} {c : Crs α} :
    ofText s = .ok c ↔ CrsDefinition.ofText s = .ok c.toCrsDefinition ∧ c.serial = 0 := by
  rw [ofText_eq_map]
  cases (CrsDefinition.ofText s : Except CrsError (CrsDefinition α)) with
  | error e => simp [Except.map]
  | ok d =>
    obtain ⟨d', n⟩ := c
    simp [Except.map, eq_comm]

theorem ofText_eq_error_iff {s : String} {e : CrsError} :
    (ofText s : Except CrsError (Crs α)) = .error e ↔
      (CrsDefinition.ofText s : Except CrsError (CrsDefinition α)) = .error e := by
  rw [ofText_eq_map]
  cases (CrsDefinition.ofText s : Except CrsError (CrsDefinition α)) <;> simp [Except.map]

theorem exists_ofText_code_iff {s : String} {n : Nat} :
    (∃ c : Crs α, ofText s = .ok c ∧ c.code = some n) ↔
      ∃ d : CrsDefinition α, CrsDefinition.ofText s = .ok d ∧ d.code = some n := by
  constructor
  · rintro ⟨c, hc, hn⟩
    exact ⟨_, (ofText_eq_ok_iff.1 hc).1, hn⟩
  · rintro ⟨d, hd, hn⟩
    exact ⟨⟨d, 0⟩, ofText_eq_ok_iff.2 ⟨hd, rfl⟩, hn⟩

/-- A system carries the text it was found by. -/
theorem identifier_of_ofText {s : String} {c : Crs α} (h : ofText s = .ok c) :
    c.identifier = s :=
  CrsDefinition.identifier_of_ofText (ofText_eq_ok_iff.1 h).1

end Crs

end Graticule
