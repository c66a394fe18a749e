import Graticule.Proofs.Crs.Cache
import Graticule.Proofs.Projection.Recovery

/-!
# Equal reference systems

Two systems are compared by their identifiers, by their codes or by their projections, whichever the
pair has.  Among the systems that a text identifies this is an equivalence: an identifier decides
everything, a code decides the projection, and no two registered projections are equal.
-/

namespace Graticule

/-! ## Registered projections -/

namespace Registration

variable {α : Type} [Elementary α]

theorem eq_of_code_eq {r r' : Registration α} (hr : r ∈ all) (hr' : r' ∈ all)
    (h : r.code = r'.code) : r = r' := by
  have hcodes : ((all : List (Registration α)).map (·.code)).Nodup := by
    rw [map_code_all]
    decide
  exact List.inj_on_of_nodup_map hcodes hr hr' h

/-- No two registered projections are equal. -/
theorem code_eq_of_beq {r r' : Registration Float} (hr : r ∈ all) (hr' : r' ∈ all)
    (h : (r.projection == r'.projection) = true) : r.code = r'.code := by
  have hpairs : (all : List (Registration Float)).Pairwise
      fun r r' => (r.projection == r'.projection) = true → r.code = r'.code := by
    decide +kernel
  have hflipped : (all : List (Registration Float)).Pairwise
      fun r r' => (r'.projection == r.projection) = true → r'.code = r.code :=
    hpairs.imp fun hcode hbeq => (hcode (PartialEquivBEq.symm hbeq)).symm
  exact List.Pairwise.forall_of_forall_of_flip (fun _ _ _ => rfl) hpairs hflipped hr hr' h

end Registration

/-! ## Systems that are found -/

namespace CrsDefinition

variable {α : Type} [Elementary α] [Written α]

omit [Written α] in
theorem exists_registration_of_registered {s : String} {code : Nat} {d : CrsDefinition α}
    (h : registered s code = .ok d) :
    ∃ r ∈ Registration.all, d.code = some r.code ∧ d.name = r.name ∧
      d.projection = r.projection := by
  unfold registered at h
  split at h
  · rename_i r hfind
    cases h
    exact ⟨r, (Registration.mem_of_find_eq_ok hfind).1, rfl, rfl, rfl⟩
  · cases h

theorem exists_registration_of_ofText {s : String} {d : CrsDefinition α} (h : ofText s = .ok d)
    {n : Nat} (hn : d.code = some n) :
    ∃ r ∈ Registration.all, d.code = some r.code ∧ d.name = r.name ∧
      d.projection = r.projection := by
  simp only [ofText] at h
  split at h
  · exact exists_registration_of_registered h
  · split_ifs at h
    · split at h
      · cases h
        cases hn
      · cases h
    · split at h
      · exact exists_registration_of_registered h
      · cases h

end CrsDefinition

namespace Crs

section

variable {α : Type} [Elementary α] [Written α]

def IsFound (c : Crs α) : Prop := ∃ s, ofText s = .ok c

theorem IsFound.ofText_identifier {c : Crs α} (hc : c.IsFound) : ofText c.identifier = .ok c := by
  obtain ⟨s, hs⟩ := hc
  rwa [identifier_of_ofText hs]

theorem IsFound.eq_of_identifier {a b : Crs α} (ha : a.IsFound) (hb : b.IsFound)
    (h : a.identifier = b.identifier) : a = b := by
  have htext := ha.ofText_identifier
  rw [h, hb.ofText_identifier] at htext
  exact (Except.ok.inj htext).symm

theorem IsFound.eq_of_isSharedWith {a b : Crs α} (ha : a.IsFound) (hb : b.IsFound)
    (h : a.isSharedWith b = true) : a = b :=
  ha.eq_of_identifier hb (isSharedWith_iff.1 h).1

/-- A system with a code has the name and the projection registered under it. -/
theorem IsFound.exists_registration {c : Crs α} (hc : c.IsFound) {n : Nat} (hn : c.code = some n) :
    ∃ r ∈ Registration.all, r.code = n ∧ c.name = r.name ∧ c.projection = r.projection := by
  obtain ⟨s, hs⟩ := hc
  obtain ⟨r, hr, hcode, hregistered⟩ :=
    CrsDefinition.exists_registration_of_ofText (ofText_eq_ok_iff.1 hs).1 hn
  exact ⟨r, hr, Option.some.inj (hcode.symm.trans hn), hregistered⟩

theorem IsFound.projection_eq_of_code {a b : Crs α} (ha : a.IsFound) (hb : b.IsFound) {n : Nat}
    (hna : a.code = some n) (hnb : b.code = some n) : a.projection = b.projection := by
  obtain ⟨r, hr, hcode, -, hproj⟩ := ha.exists_registration hna
  obtain ⟨r', hr', hcode', -, hproj'⟩ := hb.exists_registration hnb
  rw [hproj, hproj', Registration.eq_of_code_eq hr hr' (hcode.trans hcode'.symm)]

end

/-! ## The three ways to be equal -/

section

variable {α : Type} [BEq α]

/-- What is compared when no definition is shared. -/
theorem beq_cases {a b : Crs α} (h : (a == b) = true) :
    a.isSharedWith b = true ∨ (∃ n, a.code = some n ∧ b.code = some n) ∨
      ((a.code = none ∨ b.code = none) ∧ (a.projection == b.projection) = true) := by
  obtain hshared | hrest := Bool.or_eq_true_iff.1 h
  · exact .inl hshared
  · right
    cases hna : a.code with
    | none =>
      simp only [hna] at hrest
      exact .inr ⟨.inl rfl, hrest⟩
    | some m =>
      cases hnb : b.code with
      | none =>
        simp only [hna, hnb] at hrest
        exact .inr ⟨.inr rfl, hrest⟩
      | some n =>
        simp only [hna, hnb] at hrest
        rw [beq_iff_eq.1 hrest]
        exact .inl ⟨n, rfl, rfl⟩

theorem beq_of_code {a b : Crs α} {n : Nat} (ha : a.code = some n) (hb : b.code = some n) :
    (a == b) = true := by
  refine Bool.or_eq_true_iff.2 (.inr ?_)
  simp only [ha, hb, beq_self_eq_true]

theorem beq_of_projection {a b : Crs α} (hcode : a.code = none ∨ b.code = none)
    (h : (a.projection == b.projection) = true) : (a == b) = true := by
  refine Bool.or_eq_true_iff.2 (.inr ?_)
  split
  · rename_i m n hm hn
    rcases hcode with hnone | hnone
    · rw [hnone] at hm
      cases hm
    · rw [hnone] at hn
      cases hn
  · exact h

theorem beq_symm [PartialEquivBEq α] {a b : Crs α} (h : (a == b) = true) : (b == a) = true := by
  obtain hshared | ⟨n, ha, hb⟩ | ⟨hcode, hprojection⟩ := beq_cases h
  · exact Bool.or_eq_true_iff.2 (.inl (isSharedWith_symm hshared))
  · exact beq_of_code hb ha
  · exact beq_of_projection hcode.symm (PartialEquivBEq.symm hprojection)

end

/-! ## An equivalence on the systems that are found -/

/-- Systems that were found with equal projections have the same code, if both have one. -/
theorem IsFound.code_eq_of_beq {a b : Crs Float} (ha : a.IsFound) (hb : b.IsFound)
    (h : (a.projection == b.projection) = true) {m n : Nat} (hm : a.code = some m)
    (hn : b.code = some n) : m = n := by
  obtain ⟨r, hr, rfl, -, hproj⟩ := ha.exists_registration hm
  obtain ⟨r', hr', rfl, -, hproj'⟩ := hb.exists_registration hn
  rw [hproj, hproj'] at h
  exact Registration.code_eq_of_beq hr hr' h

/-- A system that equals another by its projection equals all that have such a projection. -/
theorem IsFound.beq_of_projection {a b : Crs Float} (ha : a.IsFound) (hb : b.IsFound)
    (h : (a.projection == b.projection) = true) : (a == b) = true := by
  cases hm : a.code with
  | none => exact Crs.beq_of_projection (.inl hm) h
  | some m =>
    cases hn : b.code with
    | none => exact Crs.beq_of_projection (.inr hn) h
    | some n =>
      have hcode := ha.code_eq_of_beq hb h hm hn
      exact beq_of_code hm (hcode ▸ hn)

theorem IsFound.beq_trans {a b c : Crs Float} (ha : a.IsFound) (hb : b.IsFound) (hc : c.IsFound)
    (hab : (a == b) = true) (hbc : (b == c) = true) : (a == c) = true := by
  -- an identifier decides the system and a code its projection, so what is left is a chain of
  -- equal projections, which `beq_of_projection` turns back into equal systems
  obtain hshared | ⟨n, hna, hnb⟩ | ⟨-, hprojection⟩ := beq_cases hab
  · rwa [ha.eq_of_isSharedWith hb hshared]
  · obtain hshared | ⟨m, hmb, hmc⟩ | ⟨hcode, hprojection⟩ := beq_cases hbc
    · rwa [← hb.eq_of_isSharedWith hc hshared]
    · rw [hnb, Option.some.injEq] at hmb
      exact beq_of_code hna (hmb ▸ hmc)
    · rw [← ha.projection_eq_of_code hb hna hnb] at hprojection
      exact ha.beq_of_projection hc hprojection
  · obtain hshared | ⟨m, hmb, hmc⟩ | ⟨-, hprojection'⟩ := beq_cases hbc
    · rwa [← hb.eq_of_isSharedWith hc hshared]
    · rw [hb.projection_eq_of_code hc hmb hmc] at hprojection
      exact ha.beq_of_projection hc hprojection
    · exact ha.beq_of_projection hc (PartialEquivBEq.trans hprojection hprojection')

end Crs

end Graticule
