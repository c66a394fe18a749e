import Mathlib.Data.List.Forall2

/-!
# Steps that can fail

A chain of steps succeeds when every step does, and then the value of each step is known.  When it
fails, its fault is that of some step, so what holds of the faults of the steps holds of the chain:
`FaultsIn`.
-/

namespace Graticule

variable {ε α β : Type}

theorem exists_of_bind_eq_ok {x : Except ε α} {f : α → Except ε β} {b : β}
    (h : (x >>= f) = .ok b) : ∃ a, x = .ok a ∧ f a = .ok b := by
  cases x with
  | error e => cases h
  | ok a => exact ⟨a, rfl, h⟩

theorem bind_eq_ok {x : Except ε α} {f : α → Except ε β} {a : α} {b : β} (hx : x = .ok a)
    (hf : f a = .ok b) : (x >>= f) = .ok b := by
  rw [hx]
  exact hf

theorem bind_eq_ok_iff {x : Except ε α} {f : α → Except ε β} {b : β} :
    (x >>= f) = .ok b ↔ ∃ a, x = .ok a ∧ f a = .ok b := by
  constructor
  · exact exists_of_bind_eq_ok
  · rintro ⟨a, hx, hf⟩
    exact bind_eq_ok hx hf

theorem exists_of_map_eq_ok {x : Except ε α} {f : α → β} {b : β} (h : f <$> x = .ok b) :
    ∃ a, x = .ok a ∧ f a = b := by
  cases x with
  | error e => cases h
  | ok a => exact ⟨a, rfl, Except.ok.inj h⟩

theorem map_eq_ok_iff {x : Except ε α} {f : α → β} {b : β} :
    f <$> x = .ok b ↔ ∃ a, x = .ok a ∧ f a = b := by
  constructor
  · exact exists_of_map_eq_ok
  · rintro ⟨a, rfl, rfl⟩
    rfl

theorem eq_ok_of_toOption_eq_some {x : Except ε α} {a : α} (h : x.toOption = some a) :
    x = .ok a := by
  cases x with
  | error e => cases h
  | ok b => exact congrArg Except.ok (Option.some.inj h)

theorem mapM_eq_ok_map {f : α → Except ε β} {g : α → β} {l : List α}
    (h : ∀ a ∈ l, f a = .ok (g a)) : l.mapM f = .ok (l.map g) := by
  induction l with
  | nil => rfl
  | cons a l ih =>
    rw [List.mapM_cons, h a List.mem_cons_self, ih fun b hb => h b (List.mem_cons_of_mem a hb)]
    rfl

/-- Steps that undo a map give back what was mapped. -/
theorem mapM_map_eq_ok {f : β → Except ε α} {g : α → β} {l : List α}
    (h : ∀ a ∈ l, f (g a) = .ok a) : (l.map g).mapM f = .ok l := by
  have hself : l.mapM (f ∘ g) = .ok (l.map id) := mapM_eq_ok_map h
  rw [List.mapM_map, hself, List.map_id]

/-- Steps along a list succeed together, with the value of each step in its place. -/
theorem mapM_eq_ok_iff {f : α → Except ε β} {l : List α} {bs : List β} :
    l.mapM f = .ok bs ↔ List.Forall₂ (fun a b => f a = .ok b) l bs := by
  induction l generalizing bs with
  | nil =>
    rw [List.mapM_nil, List.forall₂_nil_left_iff]
    exact ⟨fun h => (Except.ok.inj h).symm, fun h => congrArg Except.ok h.symm⟩
  | cons a l ih =>
    rw [List.mapM_cons, bind_eq_ok_iff, List.forall₂_cons_left_iff]
    apply exists_congr
    intro b
    rw [bind_eq_ok_iff]
    constructor
    · rintro ⟨hb, bs', hbs, hcons⟩
      exact ⟨bs', hb, ih.1 hbs, (Except.ok.inj hcons).symm⟩
    · rintro ⟨bs', hb, hbs, rfl⟩
      exact ⟨hb, bs', ih.2 hbs, rfl⟩

theorem forall_exists_of_mapM_eq_ok {f : α → Except ε β} {l : List α} {bs : List β}
    (h : l.mapM f = .ok bs) : ∀ a ∈ l, ∃ b, f a = .ok b := by
  induction l generalizing bs with
  | nil => simp
  | cons a l ih =>
    rw [List.mapM_cons] at h
    obtain ⟨b, hb, hrest⟩ := exists_of_bind_eq_ok h
    obtain ⟨cs, hcs, -⟩ := exists_of_bind_eq_ok hrest
    exact List.forall_mem_cons.2 ⟨⟨b, hb⟩, ih hcs⟩

theorem exists_of_mem_mapM_eq_ok {f : α → Except ε β} {l : List α} {bs : List β}
    (h : l.mapM f = .ok bs) : ∀ b ∈ bs, ∃ a ∈ l, f a = .ok b := by
  induction l generalizing bs with
  | nil =>
    cases h
    intro b hb
    cases hb
  | cons a l ih =>
    rw [List.mapM_cons] at h
    obtain ⟨c, hc, hrest⟩ := exists_of_bind_eq_ok h
    obtain ⟨cs, hcs, hcons⟩ := exists_of_bind_eq_ok hrest
    cases hcons
    intro b hb
    rcases List.mem_cons.1 hb with rfl | hb
    · exact ⟨a, List.mem_cons_self, hc⟩
    · obtain ⟨a', ha', hb'⟩ := ih hcs b hb
      exact ⟨a', List.mem_cons_of_mem a ha', hb'⟩

/-- A run of steps along a list succeeds, or it has the fault of the first step that fails. -/
theorem foldlM_cases (f : β → α → Except ε β) (b : β) (l : List α) :
    (∃ c, l.foldlM f b = .ok c) ∨
      ∃ i a c e, l[i]? = some a ∧ (l.take i).foldlM f b = .ok c ∧ f c a = .error e ∧
        l.foldlM f b = .error e := by
  induction l generalizing b with
  | nil => exact Or.inl ⟨b, rfl⟩
  | cons a l ih =>
    cases hfirst : f b a with
    | error e =>
      refine Or.inr ⟨0, a, b, e, rfl, rfl, hfirst, ?_⟩
      rw [List.foldlM_cons, hfirst]
      rfl
    | ok c =>
      have hstep (l' : List α) : (a :: l').foldlM f b = l'.foldlM f c := by
        rw [List.foldlM_cons, hfirst]
        rfl
      rcases ih c with ⟨d, hd⟩ | ⟨i, a', d, e, ha', hd, he, hrun⟩
      · exact Or.inl ⟨d, (hstep l).trans hd⟩
      · exact Or.inr ⟨i + 1, a', d, e, ha', (hstep _).trans hd, he, (hstep l).trans hrun⟩

/-! ## Faults -/

/-- What holds of every fault of a step. -/
def FaultsIn (P : ε → Prop) (x : Except ε α) : Prop := ∀ e, x = .error e → P e

section

variable {P : ε → Prop} {x : Except ε α}

theorem faultsIn_ok (a : α) : FaultsIn P (.ok a) := by
  intro e h
  cases h

theorem faultsIn_error {e : ε} (h : P e) : FaultsIn P (.error e : Except ε α) := by
  intro e' he'
  cases he'
  exact h

theorem FaultsIn.bind {f : α → Except ε β} (hx : FaultsIn P x) (hf : ∀ a, FaultsIn P (f a)) :
    FaultsIn P (x >>= f) := by
  cases x with
  | error e => exact faultsIn_error (hx e rfl)
  | ok a => exact hf a

theorem FaultsIn.map (hx : FaultsIn P x) (f : α → β) : FaultsIn P (f <$> x) := by
  cases x with
  | error e => exact faultsIn_error (hx e rfl)
  | ok a => exact faultsIn_ok _

theorem FaultsIn.mapM {f : α → Except ε β} (hf : ∀ a, FaultsIn P (f a)) (l : List α) :
    FaultsIn P (l.mapM f) := by
  induction l with
  | nil => exact faultsIn_ok _
  | cons a l ih =>
    rw [List.mapM_cons]
    exact (hf a).bind fun b => ih.bind fun bs => faultsIn_ok _

end

end Graticule
