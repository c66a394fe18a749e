import Graticule.Crs.WellKnownText
import Graticule.Proofs.Text.Search

/-!
# The last identifier keyword of a text

An identifier is looked for by its keyword and bracket, in the text as it stands: `afterIdentifier?`
does not tell a keyword from the end of a longer one, nor from what stands in quotes.  The search
goes through the parts of a text: over a bracket (`afterIdentifier?_bracket`), over a character that
no keyword has (`afterIdentifier?_mark`) and over what has no bracket
(`afterIdentifier?_append_of_notMem`).
-/

namespace Graticule.WellKnownText

/-- A bracket behind the text makes an identifier keyword. -/
def EndsInKeyword (cs : List Char) : Prop :=
  "AUTHORITY".toList <:+ cs ∨ "ID".toList <:+ cs

instance (cs : List Char) : Decidable (EndsInKeyword cs) :=
  inferInstanceAs (Decidable (_ ∨ _))

/-- Of two ends of a text the one that starts later. -/
def laterEnd? : Option (List Char) → Option (List Char) → Option (List Char)
  | some a, some b => some (if a.length ≤ b.length then a else b)
  | some a, none => some a
  | none, b => b

theorem afterIdentifier?_eq (cs : List Char) :
    afterIdentifier? cs =
      laterEnd? (Text.afterLast? ("AUTHORITY".toList ++ ['[']) cs)
        (Text.afterLast? ("ID".toList ++ ['[']) cs) := rfl

/-! ## Ends that start later -/

section
variable {a b c d : Option (List Char)} {ys : List Char}

theorem laterEnd?_map_append (a b : Option (List Char)) (ys : List Char) :
    laterEnd? (a.map (· ++ ys)) (b.map (· ++ ys)) = (laterEnd? a b).map (· ++ ys) := by
  cases a <;> cases b <;> simp only [laterEnd?, Option.map_some, Option.map_none]
  simp only [List.length_append, Nat.add_le_add_iff_right, Option.some.injEq]
  split_ifs <;> rfl

/-- Ends within a last part of the text are later than those that have all of it. -/
theorem laterEnd?_or (ha : ∀ x ∈ a, x.length < ys.length) (hb : ∀ x ∈ b, x.length < ys.length)
    (hc : ∀ x ∈ c, ys.length ≤ x.length) (hd : ∀ x ∈ d, ys.length ≤ x.length) :
    laterEnd? (a.or c) (b.or d) = (laterEnd? a b).or (laterEnd? c d) := by
  cases a with
  | some x =>
    cases b with
    | some y => rfl
    | none =>
      cases d with
      | none => rfl
      | some y =>
        have hlt := Nat.lt_of_lt_of_le (ha x rfl) (hd y rfl)
        simp only [Option.some_or, Option.none_or, laterEnd?, if_pos (Nat.le_of_lt hlt)]
  | none =>
    cases b with
    | none => rfl
    | some y =>
      cases c with
      | none => rfl
      | some x =>
        have hlt := Nat.lt_of_lt_of_le (hb y rfl) (hc x rfl)
        simp only [Option.some_or, Option.none_or, laterEnd?, if_neg (Nat.not_le.2 hlt)]

theorem laterEnd?_ite {p q : Prop} [Decidable p] [Decidable q] (a b : Option (List Char))
    (ys : List Char) :
    laterEnd? (if p then some ys else a.map (· ++ '[' :: ys))
        (if q then some ys else b.map (· ++ '[' :: ys)) =
      if p ∨ q then some ys else (laterEnd? a b).map (· ++ '[' :: ys) := by
  have hlt (x : List Char) : ys.length < (x ++ '[' :: ys).length := by
    simp only [List.length_append, List.length_cons]
    omega
  by_cases hp : p
  · rw [if_pos hp, if_pos (Or.inl hp)]
    split_ifs
    · simp [laterEnd?]
    · cases b with
      | none => rfl
      | some y => rw [Option.map_some, laterEnd?, if_pos (Nat.le_of_lt (hlt y))]
  · rw [if_neg hp]
    by_cases hq : q
    · rw [if_pos hq, if_pos (Or.inr hq)]
      cases a with
      | none => rfl
      | some x => rw [Option.map_some, laterEnd?, if_neg (Nat.not_le.2 (hlt x))]
    · rw [if_neg hq, if_neg (not_or.2 ⟨hp, hq⟩), laterEnd?_map_append]

end

theorem length_lt_of_mem_afterLast? {tag ys : List Char} (htag : tag ≠ []) :
    ∀ x ∈ Text.afterLast? tag ys, x.length < ys.length := by
  intro x hx
  have hlength := Text.length_of_afterLast?_eq_some hx
  have hpos := List.length_pos_of_ne_nil htag
  omega

/-! ## Searches in the parts of a text -/

theorem afterIdentifier?_append_of_notMem (xs : List Char) {ys : List Char} (hys : '[' ∉ ys) :
    afterIdentifier? (xs ++ ys) = (afterIdentifier? xs).map (· ++ ys) := by
  simp only [afterIdentifier?_eq, Text.afterLast?_append_of_notMem xs hys, laterEnd?_map_append]

theorem afterIdentifier?_eq_none {cs : List Char} (hcs : '[' ∉ cs) : afterIdentifier? cs = none :=
  afterIdentifier?_append_of_notMem [] hcs

/-- A character that stands in no identifier keyword. -/
def IsMark (c : Char) : Prop :=
  c ∉ "AUTHORITY".toList ++ ['['] ∧ c ∉ "ID".toList ++ ['[']

instance (c : Char) : Decidable (IsMark c) :=
  inferInstanceAs (Decidable (_ ∧ _))

theorem afterIdentifier?_mark {mark : Char} (hmark : IsMark mark) (xs ys : List Char) :
    afterIdentifier? (xs ++ mark :: ys) =
      (afterIdentifier? ys).or ((afterIdentifier? xs).map (· ++ mark :: ys)) := by
  have hlong (tag : List Char) :
      ∀ x ∈ (Text.afterLast? tag xs).map (· ++ mark :: ys), ys.length ≤ x.length := by
    intro x hx
    obtain ⟨y, -, rfl⟩ := Option.map_eq_some_iff.1 hx
    simp only [List.length_append, List.length_cons]
    omega
  simp only [afterIdentifier?_eq]
  rw [Text.afterLast?_append (by simp) hmark.1, Text.afterLast?_append (by simp) hmark.2,
    laterEnd?_or (length_lt_of_mem_afterLast? (by simp)) (length_lt_of_mem_afterLast? (by simp))
      (hlong _) (hlong _), laterEnd?_map_append]

/-- Behind a bracket stands what follows an identifier keyword, if there is one in front of it. -/
theorem afterIdentifier?_bracket (xs ys : List Char) :
    afterIdentifier? (xs ++ '[' :: ys) =
      (afterIdentifier? ys).or
        (if EndsInKeyword xs then some ys
          else (afterIdentifier? xs).map (· ++ '[' :: ys)) := by
  let before (name : List Char) : Option (List Char) :=
    if name <:+ xs then some ys
    else (Text.afterLast? (name ++ ['[']) xs).map (· ++ '[' :: ys)
  have hlong (name : List Char) : ∀ x ∈ before name, ys.length ≤ x.length := by
    intro x hx
    simp only [before] at hx
    split_ifs at hx
    · exact Nat.le_of_eq (congrArg _ (Option.some.inj hx))
    · obtain ⟨y, -, rfl⟩ := Option.map_eq_some_iff.1 hx
      simp only [List.length_append, List.length_cons]
      omega
  have hbefore : laterEnd? (before "AUTHORITY".toList) (before "ID".toList) =
      if EndsInKeyword xs then some ys
      else (afterIdentifier? xs).map (· ++ '[' :: ys) := laterEnd?_ite _ _ ys
  rw [← hbefore, afterIdentifier?_eq, Text.afterLast?_append_mark (by decide),
    Text.afterLast?_append_mark (by decide), afterIdentifier?_eq]
  exact laterEnd?_or (length_lt_of_mem_afterLast? (by simp))
    (length_lt_of_mem_afterLast? (by simp)) (hlong _) (hlong _)

end Graticule.WellKnownText
