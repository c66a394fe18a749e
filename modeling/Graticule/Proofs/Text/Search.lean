import Graticule.Text.Blank
import Graticule.Text.Search
import Mathlib.Data.List.Basic
import Mathlib.Tactic.SplitIfs

/-!
# Searches in joined texts

A tag cannot reach over a character that it does not have, so a search in two texts joined by such a
character is a search in the second and then in the first: `afterLast?_append`.  A tag that ends
with its only mark is found at a mark: `afterLast?_append_mark`.
-/

namespace Graticule.Text

/-! ## Letter case -/

theorem isAlpha_iff (c : Char) :
    c.isAlpha = true ↔
      (65 ≤ c.toNat ∧ c.toNat ≤ 90) ∨ (97 ≤ c.toNat ∧ c.toNat ≤ 122) := by
  change (decide ('A'.val ≤ c.val ∧ c.val ≤ 'Z'.val) ||
    (decide ('a'.val ≤ c.val) && decide (c.val ≤ 'z'.val))) = true ↔ _
  simp only [Bool.or_eq_true, Bool.and_eq_true, decide_eq_true_eq, UInt32.le_iff_toNat_le]
  exact Iff.rfl

theorem toNat_toUpper (c : Char) :
    c.toUpper.toNat = if 97 ≤ c.toNat ∧ c.toNat ≤ 122 then c.toNat - 32 else c.toNat := by
  have hlower : ('a'.val ≤ c.val ∧ c.val ≤ 'z'.val) ↔ 97 ≤ c.toNat ∧ c.toNat ≤ 122 := by
    rw [UInt32.le_iff_toNat_le, UInt32.le_iff_toNat_le]
    exact Iff.rfl
  unfold Char.toUpper
  split_ifs with h h' h'
  · have hval : (c.val + ('A'.val - 'a'.val)).toNat = (c.toNat + 4294967264) % 4294967296 := by
      rw [UInt32.toNat_add]
      rfl
    change (c.val + ('A'.val - 'a'.val)).toNat = c.toNat - 32
    rw [hval]
    omega
  · exact absurd (hlower.1 h) h'
  · exact absurd (hlower.2 h') h
  · rfl

theorem toUpper_of_not_isAlpha {c : Char} (hc : c.isAlpha = false) : c.toUpper = c := by
  rw [← Bool.not_eq_true, isAlpha_iff] at hc
  apply Char.toNat_inj.1
  rw [toNat_toUpper, if_neg (by omega)]

theorem isAlpha_toUpper {c : Char} (hc : c.isAlpha = true) : c.toUpper.isAlpha = true := by
  rw [isAlpha_iff] at hc ⊢
  rw [toNat_toUpper]
  split_ifs <;> omega

theorem toUpper_eq_iff {c d : Char} (hd : d.isAlpha = false) : c.toUpper = d ↔ c = d := by
  cases hc : c.isAlpha with
  | false => rw [toUpper_of_not_isAlpha hc]
  | true =>
    constructor
    · rintro rfl
      rw [isAlpha_toUpper hc] at hd
      cases hd
    · rintro rfl
      rw [hc] at hd
      cases hd

theorem upper_append (xs ys : List Char) : upper (xs ++ ys) = upper xs ++ upper ys :=
  List.map_append

theorem upper_cons (c : Char) (cs : List Char) : upper (c :: cs) = c.toUpper :: upper cs := rfl

theorem mem_upper_iff {c : Char} (hc : c.isAlpha = false) {cs : List Char} :
    c ∈ upper cs ↔ c ∈ cs := by
  simp only [upper, List.mem_map, toUpper_eq_iff hc, exists_eq_right]

theorem upper_eq_self {cs : List Char} (h : ∀ c ∈ cs, c.isAlpha = false) : upper cs = cs := by
  rw [upper, List.map_congr_left fun c hc => toUpper_of_not_isAlpha (h c hc), List.map_id']

/-! ## The ends of a text -/

theorem dropWhile_eq_self {p : Char → Bool} {cs : List Char}
    (h : ∀ c, cs.head? = some c → p c = false) : cs.dropWhile p = cs := by
  cases cs with
  | nil => rfl
  | cons c cs => exact List.dropWhile_cons_of_neg (by simp [h c rfl])

/-- What stands between characters of a kind is left when these are dropped at both ends. -/
theorem dropWhile_ends {p : Char → Bool} {front core back : List Char}
    (hfront : ∀ c ∈ front, p c = true) (hback : ∀ c ∈ back, p c = true) (hcore : core ≠ [])
    (hfirst : ∀ c, core.head? = some c → p c = false)
    (hlast : ∀ c, core.getLast? = some c → p c = false) :
    (((front ++ (core ++ back)).dropWhile p).reverse.dropWhile p).reverse = core := by
  have hhead : (core ++ back).head? = core.head? := List.head?_append_of_ne_nil _ hcore
  rw [List.dropWhile_append_of_pos hfront, dropWhile_eq_self fun c hc => hfirst c (hhead ▸ hc),
    List.reverse_append,
    List.dropWhile_append_of_pos fun c hc => hback c (List.mem_reverse.1 hc),
    dropWhile_eq_self fun c hc => hlast c (List.head?_reverse ▸ hc), List.reverse_reverse]

theorem trim_append {front core back : List Char} (hfront : ∀ c ∈ front, isBlank c = true)
    (hback : ∀ c ∈ back, isBlank c = true) (hcore : core ≠ [])
    (hfirst : ∀ c, core.head? = some c → isBlank c = false)
    (hlast : ∀ c, core.getLast? = some c → isBlank c = false) :
    trim (front ++ (core ++ back)) = core :=
  dropWhile_ends hfront hback hcore hfirst hlast

theorem trim_eq_self {cs : List Char} (hfirst : ∀ c, cs.head? = some c → isBlank c = false)
    (hlast : ∀ c, cs.getLast? = some c → isBlank c = false) : trim cs = cs := by
  unfold trim
  rw [dropWhile_eq_self hfirst, dropWhile_eq_self, List.reverse_reverse]
  rwa [List.head?_reverse]

theorem isBlank_of_isAlpha {c : Char} (hc : c.isAlpha = true) : isBlank c = false := by
  rw [isAlpha_iff] at hc
  simp only [isBlank, Bool.or_eq_false_iff, Bool.and_eq_false_iff, decide_eq_false_iff_not,
    beq_eq_false_iff_ne]
  omega

/-! ## The first occurrence of a character -/

theorem splitFirst?_append {mark : Char} {before : List Char} (hmark : mark ∉ before)
    (rest : List Char) : splitFirst? mark (before ++ mark :: rest) = some (before, rest) := by
  induction before with
  | nil => simp [splitFirst?]
  | cons c cs ih =>
    have hc : c ≠ mark := fun h => hmark (h ▸ List.mem_cons_self)
    rw [List.cons_append, splitFirst?, if_neg hc, ih fun h => hmark (List.mem_cons_of_mem c h)]
    rfl

/-! ## The start of a text -/

theorem dropFront?_append (front rest : List Char) :
    dropFront? front (front ++ rest) = some rest := by
  induction front with
  | nil => rfl
  | cons c cs ih => rw [List.cons_append, dropFront?, if_pos rfl, ih]

theorem eq_append_of_dropFront?_eq_some {front cs rest : List Char}
    (h : dropFront? front cs = some rest) : cs = front ++ rest := by
  induction front generalizing cs with
  | nil => exact Option.some.inj h
  | cons f fs ih =>
    cases cs with
    | nil => cases h
    | cons c cs =>
      rw [dropFront?] at h
      split_ifs at h with hc
      rw [← hc, ih h, List.cons_append]

variable {mark : Char}

theorem dropFront?_append_of_notMem {front : List Char} (hmark : mark ∉ front)
    (xs ys : List Char) :
    dropFront? front (xs ++ mark :: ys) = (dropFront? front xs).map (· ++ mark :: ys) := by
  induction front generalizing xs with
  | nil => rfl
  | cons f fs ih =>
    obtain ⟨hf, hfs⟩ := not_or.1 (mt List.mem_cons.2 hmark)
    cases xs with
    | nil => exact if_neg (Ne.symm hf)
    | cons x xs =>
      rw [List.cons_append, dropFront?, dropFront?, ih hfs]
      split_ifs <;> rfl

/-- A name with a mark behind it starts a text that has it in front of its first mark, and else it
starts what is in front of any mark. -/
theorem dropFront?_append_mark {name : List Char} (hmark : mark ∉ name) (xs ys : List Char) :
    dropFront? (name ++ [mark]) (xs ++ mark :: ys) =
      if name = xs then some ys else (dropFront? (name ++ [mark]) xs).map (· ++ mark :: ys) := by
  induction name generalizing xs with
  | nil =>
    cases xs with
    | nil => simp [dropFront?]
    | cons x xs =>
      simp only [List.nil_append, List.cons_append, dropFront?, reduceCtorEq, if_false]
      split_ifs <;> rfl
  | cons f fs ih =>
    obtain ⟨hf, hfs⟩ := not_or.1 (mt List.mem_cons.2 hmark)
    cases xs with
    | nil => simp [dropFront?, Ne.symm hf]
    | cons x xs =>
      simp only [List.cons_append, dropFront?, ih hfs, List.cons.injEq]
      split_ifs <;> simp_all

theorem dropFront?_eq_none {front cs : List Char} (hmark : mark ∈ front) (hcs : mark ∉ cs) :
    dropFront? front cs = none := by
  cases h : dropFront? front cs with
  | none => rfl
  | some rest =>
    rw [eq_append_of_dropFront?_eq_some h] at hcs
    exact absurd (List.mem_append_left _ hmark) hcs

theorem dropFront?_append_of_notMem_right {name : List Char} (xs : List Char) {ys : List Char}
    (hys : mark ∉ ys) :
    dropFront? (name ++ [mark]) (xs ++ ys) = (dropFront? (name ++ [mark]) xs).map (· ++ ys) := by
  induction name generalizing xs with
  | nil =>
    cases xs with
    | nil => exact dropFront?_eq_none (List.mem_singleton_self mark) hys
    | cons x xs =>
      simp only [List.nil_append, List.cons_append, dropFront?]
      split_ifs <;> rfl
  | cons f fs ih =>
    cases xs with
    | nil => exact dropFront?_eq_none (by simp) hys
    | cons x xs =>
      simp only [List.cons_append, dropFront?, ih]
      split_ifs <;> rfl

/-! ## The last occurrence -/

theorem afterLast?_cons (tag : List Char) (c : Char) (cs : List Char) :
    afterLast? tag (c :: cs) = (afterLast? tag cs).or (dropFront? tag (c :: cs)) := by
  rw [afterLast?, Option.orElse_eq_orElse, Option.orElse_eq_or]

theorem exists_of_afterLast?_eq_some {tag cs rest : List Char}
    (h : afterLast? tag cs = some rest) : ∃ before, cs = before ++ (tag ++ rest) := by
  induction cs with
  | nil => exact ⟨[], by rw [List.nil_append, ← eq_append_of_dropFront?_eq_some h]⟩
  | cons c cs ih =>
    rw [afterLast?_cons, Option.or_eq_some_iff] at h
    rcases h with h | ⟨-, h⟩
    · obtain ⟨before, hbefore⟩ := ih h
      exact ⟨c :: before, by rw [hbefore, List.cons_append]⟩
    · exact ⟨[], by rw [List.nil_append, ← eq_append_of_dropFront?_eq_some h]⟩

theorem length_of_afterLast?_eq_some {tag cs rest : List Char}
    (h : afterLast? tag cs = some rest) : tag.length + rest.length ≤ cs.length := by
  obtain ⟨before, rfl⟩ := exists_of_afterLast?_eq_some h
  simp only [List.length_append]
  omega

theorem afterLast?_eq_none {tag cs : List Char} (hmark : mark ∈ tag) (hcs : mark ∉ cs) :
    afterLast? tag cs = none := by
  cases h : afterLast? tag cs with
  | none => rfl
  | some rest =>
    obtain ⟨before, rfl⟩ := exists_of_afterLast?_eq_some h
    simp [hmark] at hcs

/-- A tag is not found across a character that it does not have. -/
theorem afterLast?_append {tag : List Char} (htag : tag ≠ []) (hmark : mark ∉ tag)
    (xs ys : List Char) :
    afterLast? tag (xs ++ mark :: ys) =
      (afterLast? tag ys).or ((afterLast? tag xs).map (· ++ mark :: ys)) := by
  have hnil : dropFront? tag [] = none := by
    cases tag with
    | nil => exact absurd rfl htag
    | cons f fs => rfl
  induction xs with
  | nil =>
    have hfront := dropFront?_append_of_notMem hmark [] ys
    rw [List.nil_append] at hfront ⊢
    rw [afterLast?_cons, hfront, afterLast?]
  | cons x xs ih =>
    have hfront := dropFront?_append_of_notMem hmark (x :: xs) ys
    rw [List.cons_append] at hfront ⊢
    rw [afterLast?_cons, ih, hfront, afterLast?_cons, Option.map_or, Option.or_assoc]

section
variable {name : List Char}

theorem afterLast?_append_of_notMem (xs : List Char) {ys : List Char} (hys : mark ∉ ys) :
    afterLast? (name ++ [mark]) (xs ++ ys) = (afterLast? (name ++ [mark]) xs).map (· ++ ys) := by
  induction xs with
  | nil =>
    have hnil : afterLast? (name ++ [mark]) [] = none :=
      dropFront?_eq_none (List.mem_append_right name (List.mem_singleton_self mark))
        List.not_mem_nil
    rw [List.nil_append, hnil]
    exact afterLast?_eq_none (List.mem_append_right name (List.mem_singleton_self mark)) hys
  | cons x xs ih =>
    rw [List.cons_append, afterLast?_cons, ih, afterLast?_cons, Option.map_or, ← List.cons_append,
      dropFront?_append_of_notMem_right _ hys]

/-- A tag that ends with its only mark is found at the mark. -/
theorem afterLast?_append_mark (hmark : mark ∉ name) (xs ys : List Char) :
    afterLast? (name ++ [mark]) (xs ++ mark :: ys) =
      (afterLast? (name ++ [mark]) ys).or
        (if name <:+ xs then some ys
          else (afterLast? (name ++ [mark]) xs).map (· ++ mark :: ys)) := by
  induction xs with
  | nil =>
    have hfront := dropFront?_append_mark hmark [] ys
    rw [List.nil_append] at hfront ⊢
    simp only [afterLast?_cons, hfront, List.suffix_nil]
    rfl
  | cons x xs ih =>
    have hfront := dropFront?_append_mark hmark (x :: xs) ys
    rw [List.cons_append] at hfront ⊢
    rw [afterLast?_cons, ih, hfront, Option.or_assoc]
    congr 1
    -- a name as long as the text is not found in a part of the text
    have hnone (hname : name = x :: xs) : afterLast? (name ++ [mark]) xs = none := by
      cases h : afterLast? (name ++ [mark]) xs with
      | none => rfl
      | some rest =>
        have hlength := length_of_afterLast?_eq_some h
        simp only [hname, List.length_append, List.length_cons] at hlength
        omega
    simp only [List.suffix_cons_iff, afterLast?_cons]
    by_cases hsuffix : name <:+ xs
    · rw [if_pos hsuffix, if_pos (Or.inr hsuffix), Option.some_or]
    · rw [if_neg hsuffix]
      by_cases hname : name = x :: xs
      · rw [if_pos hname, if_pos (Or.inl hname), hnone hname]
        rfl
      · rw [if_neg hname, if_neg (not_or.2 ⟨hname, hsuffix⟩), Option.map_or]

end

end Graticule.Text
