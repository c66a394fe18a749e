import Graticule.Decimal.Reader
import Graticule.Projection.Definition
import Graticule.Proofs.Text.Search

/-!
# Parameters as words

Parameters written as words between blanks are read back as they were, as long as no name and no
value has a blank in it: `Definition.ofText_text`.  The text of a machine number has none.
-/

namespace Graticule

namespace Text

def IsWord (cs : List Char) : Prop := ∀ c ∈ cs, isBlank c = false

-- not by instance search, which could go through all characters
instance (cs : List Char) : Decidable (IsWord cs) :=
  List.decidableBAll (fun c => isBlank c = false) cs

theorem IsWord.append {xs ys : List Char} (hx : IsWord xs) (hy : IsWord ys) : IsWord (xs ++ ys) := by
  intro c hc
  rcases List.mem_append.1 hc with hc | hc
  · exact hx c hc
  · exact hy c hc

theorem IsWord.of_subset {xs ys : List Char} (hy : IsWord ys) (hxy : xs ⊆ ys) : IsWord xs :=
  fun c hc => hy c (hxy hc)

theorem words_cons_blank {w : List Char} (hw : IsWord w) (hne : w ≠ []) (rest : List Char) :
    words (w ++ ' ' :: rest) = w :: words rest := by
  unfold words
  rw [List.splitOnP_append_cons_of_forall_mem hw ' ' rfl, List.filter_cons_of_pos]
  simpa using hne

theorem words_of_isWord {w : List Char} (hw : IsWord w) (hne : w ≠ []) : words w = [w] := by
  unfold words
  rw [List.splitOnP_eq_singleton hw, List.filter_cons_of_pos (by simpa using hne), List.filter_nil]

/-- Words with a blank between each two of them are read back. -/
theorem words_intercalate {ws : List (List Char)} (hws : ∀ w ∈ ws, IsWord w ∧ w ≠ []) :
    words ([' '].intercalate ws) = ws := by
  induction ws with
  | nil => rfl
  | cons w ws ih =>
    obtain ⟨hw, hne⟩ := hws w List.mem_cons_self
    have hrest := ih fun v hv => hws v (List.mem_cons_of_mem w hv)
    cases ws with
    | nil => rw [List.intercalate_singleton, words_of_isWord hw hne]
    | cons v vs =>
      rw [List.intercalate_cons_cons, List.append_assoc, List.singleton_append,
        words_cons_blank hw hne, hrest]

end Text

/-! ## Reading parameters -/

namespace Definition

/-- A name that is read back: it has no blank and no `=`, and it does not start with `+`. -/
structure IsName (name : String) : Prop where
  isWord : Text.IsWord name.toList
  no_equals : '=' ∉ name.toList
  starts : (name.toList.head?.any (· != '+')) = true

instance (name : String) : Decidable (IsName name) :=
  decidable_of_iff (Text.IsWord name.toList ∧ '=' ∉ name.toList ∧
      (name.toList.head?.any (· != '+')) = true)
    ⟨fun ⟨hword, hequals, hstarts⟩ => ⟨hword, hequals, hstarts⟩,
      fun h => ⟨h.isWord, h.no_equals, h.starts⟩⟩

theorem parameter?_parameterText {name : String} (hname : IsName name) (value : String) :
    parameter? (parameterText (name, value)).toList = some (name, value) := by
  obtain ⟨c, cs, hcs⟩ : ∃ c cs, name.toList = c :: cs := by
    cases h : name.toList with
    | nil => simpa [h] using hname.starts
    | cons c cs => exact ⟨c, cs, rfl⟩
  have hc : (c == '+') = false := by simpa [hcs] using hname.starts
  have htext : (parameterText (name, value)).toList =
      '+' :: (name.toList ++ '=' :: value.toList) := by
    simp [parameterText, String.toList_append]
  have hdrop : (parameterText (name, value)).toList.dropWhile (· == '+') =
      c :: (cs ++ '=' :: value.toList) := by
    rw [htext, hcs, List.dropWhile_cons_of_pos rfl, List.cons_append,
      List.dropWhile_cons_of_neg (by simp [hc])]
  have hsplit : Text.splitFirst? '=' (c :: (cs ++ '=' :: value.toList)) =
      some (name.toList, value.toList) := by
    rw [← List.cons_append, ← hcs]
    exact Text.splitFirst?_append hname.no_equals _
  unfold parameter?
  rw [hdrop]
  simp only [hsplit, String.ofList_toList]

/-- Parameters that are read back: each has a proper name and a value without blanks. -/
def IsPlain (d : Definition) : Prop := ∀ p ∈ d, IsName p.1 ∧ Text.IsWord p.2.toList

@[simp] theorem isPlain_nil : IsPlain [] := by simp [IsPlain]

@[simp] theorem isPlain_cons {p : String × String} {d : Definition} :
    IsPlain (p :: d) ↔ (IsName p.1 ∧ Text.IsWord p.2.toList) ∧ IsPlain d :=
  List.forall_mem_cons

@[simp] theorem isPlain_append {l m : Definition} : IsPlain (l ++ m) ↔ IsPlain l ∧ IsPlain m :=
  List.forall_mem_append

theorem isWord_parameterText {p : String × String} (hname : IsName p.1)
    (hvalue : Text.IsWord p.2.toList) :
    Text.IsWord (parameterText p).toList ∧ (parameterText p).toList ≠ [] := by
  have htext : (parameterText p).toList = ['+'] ++ (p.1.toList ++ (['='] ++ p.2.toList)) := by
    simp [parameterText, String.toList_append]
  rw [htext]
  refine ⟨.append ?_ (hname.isWord.append (.append ?_ hvalue)), by simp⟩
  · simp [Text.IsWord, Text.isBlank]
  · simp [Text.IsWord, Text.isBlank]

theorem toList_text (d : Definition) :
    d.text.toList = [' '].intercalate (d.map fun p => (parameterText p).toList) := by
  unfold text
  rw [String.toList_intercalate, List.map_map]
  rfl

/-- Plain parameters come back from their text. -/
theorem ofText_text {d : Definition} (hd : IsPlain d) : ofText d.text = d := by
  have hwords : Text.words d.text.toList = d.map fun p => (parameterText p).toList := by
    rw [toList_text]
    refine Text.words_intercalate fun w hw => ?_
    obtain ⟨p, hp, rfl⟩ := List.mem_map.1 hw
    exact isWord_parameterText (hd p hp).1 (hd p hp).2
  unfold ofText
  rw [hwords, List.filterMap_map]
  have hread : ∀ p ∈ d, (parameter? ∘ fun p => (parameterText p).toList) p = some p :=
    fun p hp => parameter?_parameterText (hd p hp).1 p.2
  rw [List.filterMap_congr hread, List.filterMap_some]

end Definition

/-! ## The text of a machine number -/

namespace Decimal

theorem range_of_isDigit {c : Char} (hc : c.isDigit = true) : 48 ≤ c.toNat ∧ c.toNat ≤ 57 := by
  simpa [Char.isDigit, UInt32.le_iff_toNat_le] using hc

theorem isBlank_of_isDigit {c : Char} (hc : c.isDigit = true) : Text.isBlank c = false := by
  have hrange := range_of_isDigit hc
  simp only [Text.isBlank, Bool.or_eq_false_iff, Bool.and_eq_false_iff, decide_eq_false_iff_not,
    beq_eq_false_iff_ne]
  omega

theorem isWord_toString (n : Nat) : Text.IsWord (toString n).toList := by
  intro c hc
  rw [Nat.toString_eq_repr, Nat.repr, String.toList_ofList] at hc
  exact isBlank_of_isDigit (Nat.isDigit_of_mem_toDigits (by decide) (by decide) hc)

theorem isWord_zeros (n : Int) : Text.IsWord (zeros n) := by
  intro c hc
  rw [List.eq_of_mem_replicate hc]
  rfl

theorem isWord_writeOut {wholeEnd : String} (hend : Text.IsWord wholeEnd.toList) (v : Decimal) :
    Text.IsWord (writeOut wholeEnd v).toList := by
  have hdigits := isWord_toString v.digits
  have hpoint : Text.IsWord ['.'] := by simp [Text.IsWord, Text.isBlank]
  have hzero : Text.IsWord ['0'] := by simp [Text.IsWord, Text.isBlank]
  simp only [writeOut]
  split_ifs
  · rw [String.toList_append, String.toList_ofList]
    exact (hdigits.append (isWord_zeros _)).append hend
  · rw [String.toList_ofList]
    exact (hdigits.of_subset (List.take_subset _ _)).append
      (hpoint.append (hdigits.of_subset (List.drop_subset _ _)))
  · rw [String.toList_ofList]
    exact hzero.append (hpoint.append ((isWord_zeros _).append hdigits))

/-- A machine number is written without blanks. -/
theorem isWord_text (x : Float) : Text.IsWord (Written.text x).toList := by
  change Text.IsWord (ofFloat plain x).toList
  unfold ofFloat
  split
  · rw [String.toList_append]
    refine .append ?_ (isWord_writeOut (by simp [plain, Text.IsWord]) _)
    split_ifs <;> simp [Text.IsWord, Text.isBlank]
  · split_ifs <;> simp [Text.IsWord, Text.isBlank]

end Decimal

end Graticule
