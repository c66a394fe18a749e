import Graticule.Crs.Basic
import Graticule.Proofs.Text.Search

/-!
# Texts that are read as well-known text

A text that starts with the keyword of a reference system is no registered code and describes no
projection.  So the code of its last identifier decides which system it identifies:
`IsRooted.ofText_eq`.
-/

namespace Graticule.WellKnownText

/-- The text starts with the keyword and the bracket of a reference system, in any case. -/
def IsRooted (cs : List Char) : Prop :=
  ∃ keyword ∈ rootKeywords, ∃ rest, Text.upper cs = keyword.toList ++ rest

namespace IsRooted

variable {cs : List Char}

/-- The five characters that a root keyword starts with tell it from all other identifiers. -/
theorem upper_ne (h : IsRooted cs) {front : List Char} (hlength : 5 ≤ front.length)
    (hfront : front.take 5 ∉ rootKeywords.map (·.toList.take 5)) (rest : List Char) :
    Text.upper cs ≠ front ++ rest := by
  have hlong : ∀ keyword ∈ rootKeywords, 5 ≤ keyword.toList.length := by decide
  obtain ⟨keyword, hkeyword, tail, hcs⟩ := h
  intro hupper
  have htake := congrArg (List.take 5) (hcs.symm.trans hupper)
  rw [List.take_append_of_le_length (hlong _ hkeyword),
    List.take_append_of_le_length hlength] at htake
  exact hfront (List.mem_map.2 ⟨keyword, hkeyword, htake⟩)

theorem isBlank_of_head? (h : IsRooted cs) {c : Char} (hc : cs.head? = some c) :
    Text.isBlank c = false := by
  have hletters : ∀ keyword ∈ rootKeywords,
      keyword.toList ≠ [] ∧ keyword.toList.head?.any Char.isAlpha = true := by decide
  obtain ⟨keyword, hkeyword, rest, hcs⟩ := h
  obtain ⟨hne, hletter⟩ := hletters _ hkeyword
  have hhead : (keyword.toList ++ rest).head? = keyword.toList.head? :=
    List.head?_append_of_ne_nil _ hne
  rw [← hhead, ← hcs, Text.upper, List.head?_map, hc, Option.map_some, Option.any_some] at hletter
  cases halpha : c.isAlpha with
  | true => exact Text.isBlank_of_isAlpha halpha
  | false =>
    rw [Text.toUpper_of_not_isAlpha halpha, halpha] at hletter
    cases hletter

theorem trimStart_eq (h : IsRooted cs) : Text.trimStart cs = cs :=
  Text.dropWhile_eq_self fun _ => h.isBlank_of_head?

theorem authorityCode?_eq_none (h : IsRooted cs) : CrsDefinition.authorityCode? cs = none := by
  have hcrs : Text.upper cs ≠ "CRS:84".toList ++ [] := h.upper_ne (by decide) (by decide) []
  have hogc : Text.upper cs ≠ "OGC:CRS84".toList ++ [] := h.upper_ne (by decide) (by decide) []
  rw [List.append_nil] at hcrs hogc
  simp only [CrsDefinition.authorityCode?]
  rw [if_neg (not_or.2 ⟨hcrs, hogc⟩), Option.bind_eq_none_iff]
  intro rest hrest
  exact absurd (Text.eq_append_of_dropFront?_eq_some hrest)
    (h.upper_ne (by decide) (by decide) rest)

theorem not_isDescribedBy (h : IsRooted cs) :
    Projection.isDescribedBy (String.ofList cs) = false := by
  have hnone {front : List Char} (hlength : 5 ≤ (Text.upper front).length)
      (hfront : (Text.upper front).take 5 ∉ rootKeywords.map (·.toList.take 5)) :
      Text.dropFront? front cs = none := by
    rw [Option.eq_none_iff_forall_ne_some]
    intro rest hrest
    have happend := congrArg Text.upper (Text.eq_append_of_dropFront?_eq_some hrest)
    rw [Text.upper_append] at happend
    exact h.upper_ne hlength hfront _ happend
  simp only [Projection.isDescribedBy, String.toList_ofList, h.trimStart_eq]
  rw [hnone (by decide) (by decide), hnone (by decide) (by decide)]
  rfl

theorem isWellKnownText (h : IsRooted cs) : isWellKnownText (String.ofList cs) = true := by
  have htrim := h.trimStart_eq
  obtain ⟨keyword, hkeyword, rest, hcs⟩ := h
  simp only [WellKnownText.isWellKnownText, String.toList_ofList, htrim, List.any_eq_true]
  refine ⟨keyword, hkeyword, ?_⟩
  rw [hcs, Text.dropFront?_append]
  rfl

/-- Without the blanks around it the text is searched for its last identifier. -/
theorem ofText_eq {α : Type} [Elementary α] [Written α] {s : String}
    (htrim : Text.trim s.toList = cs) (h : IsRooted cs) :
    (CrsDefinition.ofText s : Except CrsError (CrsDefinition α)) =
      match rootCode? (String.ofList cs) with
      | some code => CrsDefinition.registered s code
      | none => .error .noRootIdentifier := by
  cases hroot : rootCode? (String.ofList cs) <;>
    simp only [CrsDefinition.ofText, htrim, h.authorityCode?_eq_none, h.not_isDescribedBy, hroot,
      h.isWellKnownText, Bool.false_eq_true, if_false, if_true]

end IsRooted

end Graticule.WellKnownText
