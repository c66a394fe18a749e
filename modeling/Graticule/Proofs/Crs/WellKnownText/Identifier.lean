import Graticule.Proofs.Crs.WellKnownText.Syntax
import Graticule.Proofs.Projection.Words

/-!
# Identifiers in well-known text

An identifier is a node `AUTHORITY[…]` or `ID[…]` of an authority and a code.  When the last item of
a node is one, then what follows the last identifier keyword in the items of the node is this
identifier (`afterKeywordIn?_of_getLast?`), and its code is read from there
(`exists_afterKeyword?_of_identifiedCode?`).
-/

namespace Graticule.WellKnownText

/-- The registered code that a text, in upper case, has in front of its first closing bracket. -/
def codeIn? (rest : List Char) : Option Nat := do
  let (body, _) ← Text.splitFirst? ']' rest
  match (body.splitOn ',').map item with
  | authority :: code :: _ => if authority = "EPSG".toList then code? code else none
  | _ => none

theorem rootCode?_eq (s : String) :
    rootCode? s = (afterIdentifier? (Text.upper s.toList)).bind codeIn? := rfl

theorem codeIn?_append {body : List Char} (hbody : ']' ∉ body) (rest : List Char) :
    codeIn? (body ++ ']' :: rest) =
      match (body.splitOn ',').map item with
      | authority :: code :: _ => if authority = "EPSG".toList then code? code else none
      | _ => none := by
  unfold codeIn?
  rw [Text.splitFirst?_append hbody]
  rfl

/-! ## Identifiers in the tree -/

namespace Item

def text? : Item → Option (List Char)
  | quoted _ content _ => some content
  | bare _ word _ => some word.chars
  | node .. => none

def identifiedCode? : Item → Option Nat
  | node _ keyword gap [authority, code] _ =>
    if (Text.upper keyword.chars = "AUTHORITY".toList ∨ Text.upper keyword.chars = "ID".toList) ∧
        gap.chars = [] ∧ authority.text?.map Text.upper = some "EPSG".toList then
      code.text?.bind code?
    else none
  | _ => none

end Item

theorem isDigit_of_code? {cs : List Char} {n : Nat} (h : code? cs = some n) :
    cs ≠ [] ∧ ∀ c ∈ cs, c.isDigit = true ∨ c = '+' := by
  have hdigits {ds : List Char} (hds : ¬(ds.isEmpty || !ds.all Char.isDigit) = true) :
      ds ≠ [] ∧ ∀ c ∈ ds, c.isDigit = true := by
    simpa using hds
  simp only [code?] at h
  split at h <;> split_ifs at h with hdigit
  · exact ⟨by simp, by simpa using fun c hc => .inl ((hdigits hdigit).2 c hc)⟩
  · exact ⟨(hdigits hdigit).1, fun c hc => .inl ((hdigits hdigit).2 c hc)⟩

theorem isDelimiter_of_isAlpha {c : Char} (hc : c.isAlpha = true) : isDelimiter c = false := by
  rw [← Bool.not_eq_true, isDelimiter_iff]
  rintro (rfl | rfl | rfl | rfl) <;> cases hc

theorem isPlain_upper_iff {cs : List Char} : IsPlain (Text.upper cs) ↔ IsPlain cs := by
  -- letters stay letters, and no other character is changed
  have hchar (c : Char) : (Text.isBlank c.toUpper = false ∧ isDelimiter c.toUpper = false) ↔
      (Text.isBlank c = false ∧ isDelimiter c = false) := by
    cases halpha : c.isAlpha with
    | false => rw [Text.toUpper_of_not_isAlpha halpha]
    | true =>
      have hupper := Text.isAlpha_toUpper halpha
      simp only [Text.isBlank_of_isAlpha, isDelimiter_of_isAlpha, halpha, hupper]
  simp only [IsPlain, Text.upper, List.forall_mem_map, hchar]

theorem stripMark_append {front cs back : List Char} (hfront : ∀ c ∈ front, (c == '"') = true)
    (hback : ∀ c ∈ back, (c == '"') = true) (hne : cs ≠ []) (hplain : IsPlain cs) :
    Text.stripMark '"' (front ++ (cs ++ back)) = cs := by
  have hquote : ∀ c ∈ cs, (c == '"') = false := by
    intro c hc
    rw [beq_eq_false_iff_ne]
    rintro rfl
    cases (hplain _ hc).2
  exact Text.dropWhile_ends hfront hback hne (fun c hc => hquote c (List.mem_of_head? hc))
    (fun c hc => hquote c (List.mem_of_getLast? hc))

/-- The text of a leaf whose characters are plain is read back from it. -/
theorem item_chars {i : Item} {cs : List Char} (h : i.text? = some cs) (hne : cs ≠ [])
    (hplain : IsPlain cs) : item (Text.upper i.chars) = Text.upper cs := by
  have hupper := isPlain_upper_iff.2 hplain
  have hne' : Text.upper cs ≠ [] := by simpa [Text.upper] using hne
  unfold item
  cases i with
  | quoted before content after =>
    obtain rfl := Option.some.inj h
    have htext : Text.upper (Item.quoted before content after).chars =
        before.chars ++ (('"' :: (Text.upper content ++ ['"'])) ++ after.chars) := by
      simp [Item.chars, Text.upper_append, Text.upper_cons]
    have htrim : Text.trim (Text.upper (Item.quoted before content after).chars) =
        ['"'] ++ (Text.upper content ++ ['"']) := by
      rw [htext]
      apply Text.trim_append before.isBlank after.isBlank (List.cons_ne_nil _ _)
      · rintro c ⟨⟩
        rfl
      · intro c hc
        rw [List.getLast?_cons_of_ne_nil (by simp), List.getLast?_concat] at hc
        cases hc
        rfl
    rw [htrim, stripMark_append (by simp) (by simp) hne' hupper]
  | bare before word after =>
    obtain rfl := Option.some.inj h
    have htext : Text.upper (Item.bare before word after).chars =
        before.chars ++ (Text.upper word.chars ++ after.chars) := by
      simp [Item.chars, Text.upper_append]
    have htrim : Text.trim (Text.upper (Item.bare before word after).chars) =
        [] ++ (Text.upper word.chars ++ []) := by
      rw [htext, List.nil_append, List.append_nil]
      exact Text.trim_append before.isBlank after.isBlank hne'
        (fun c hc => (hupper c (List.mem_of_head? hc)).1)
        (fun c hc => (hupper c (List.mem_of_getLast? hc)).1)
    rw [htrim, stripMark_append (by simp) (by simp) hne' hupper]
  | node => cases h

theorem notMem_upper_chars {i : Item} {cs : List Char} (h : i.text? = some cs)
    (hplain : IsPlain cs) {c : Char} (hc : isDelimiter c = true) (hquote : c ≠ '"') :
    c ∉ Text.upper i.chars := by
  have hcs : c ∉ cs := by
    intro hmem
    rw [(hplain c hmem).2] at hc
    cases hc
  have halpha : c.isAlpha = false := by
    rcases (isDelimiter_iff c).1 hc with rfl | rfl | rfl | rfl <;> rfl
  rw [Text.mem_upper_iff halpha]
  cases i with
  | quoted before content after =>
    obtain rfl := Option.some.inj h
    simp [Item.chars, hc, hquote, hcs]
  | bare before word after =>
    obtain rfl := Option.some.inj h
    simp [Item.chars, hc, hcs]
  | node => cases h

theorem afterKeyword?_leaf {i : Item} {cs : List Char} (h : i.text? = some cs)
    (hplain : IsPlain cs) : i.afterKeyword? = none := by
  rw [← i.afterIdentifier?_chars]
  exact afterIdentifier?_eq_none (notMem_upper_chars h hplain rfl (by decide))

theorem isPlain_of_code? {cs : List Char} {n : Nat} (h : code? cs = some n) : IsPlain cs := by
  intro c hc
  rcases (isDigit_of_code? h).2 c hc with hdigit | rfl
  · refine ⟨Decimal.isBlank_of_isDigit hdigit, ?_⟩
    rw [← Bool.not_eq_true, isDelimiter_iff]
    rintro (rfl | rfl | rfl | rfl) <;> cases hdigit
  · exact ⟨rfl, rfl⟩

theorem upper_of_code? {cs : List Char} {n : Nat} (h : code? cs = some n) :
    Text.upper cs = cs := by
  apply Text.upper_eq_self
  intro c hc
  rcases (isDigit_of_code? h).2 c hc with hdigit | rfl
  · have hrange := Decimal.range_of_isDigit hdigit
    rw [← Bool.not_eq_true, Text.isAlpha_iff]
    omega
  · rfl

theorem isPlain_of_upper_eq {cs : List Char} (h : Text.upper cs = "EPSG".toList) :
    IsPlain cs := by
  rw [← isPlain_upper_iff, h]
  decide

theorem codeIn?_joined {authority code : Item} {cs ds : List Char} {n : Nat}
    (hauthority : authority.text? = some cs) (hcs : Text.upper cs = "EPSG".toList)
    (hcode : code.text? = some ds) (hds : code? ds = some n) (rest : List Char) :
    codeIn? (Text.upper (joined [authority, code]) ++ ']' :: rest) = some n := by
  have hplain := isPlain_of_upper_eq hcs
  have hplain' := isPlain_of_code? hds
  have hne : cs ≠ [] := by
    rintro rfl
    cases hcs
  have htext : Text.upper (joined [authority, code]) =
      Text.upper authority.chars ++ ',' :: Text.upper code.chars := by
    simp [joined_cons, listed, Text.upper_append, Text.upper_cons]
  have hbody : ']' ∉ Text.upper (joined [authority, code]) := by
    have hleft := notMem_upper_chars (c := ']') hauthority hplain rfl (by decide)
    have hright := notMem_upper_chars (c := ']') hcode hplain' rfl (by decide)
    simp [htext, hleft, hright]
  have hsplit : (Text.upper (joined [authority, code])).splitOn ',' =
      [Text.upper authority.chars, Text.upper code.chars] := by
    have hleft := notMem_upper_chars (c := ',') hauthority hplain rfl (by decide)
    have hright := notMem_upper_chars (c := ',') hcode hplain' rfl (by decide)
    have hcomma {xs : List Char} (hxs : ',' ∉ xs) : ∀ c ∈ xs, (c == ',') = false := by
      intro c hc
      rw [beq_eq_false_iff_ne]
      rintro rfl
      exact hxs hc
    rw [htext, List.splitOn_eq_splitOnP,
      List.splitOnP_append_cons_of_forall_mem (hcomma hleft) ',' rfl,
      List.splitOnP_eq_singleton (hcomma hright)]
  rw [codeIn?_append hbody, hsplit]
  simp only [List.map_cons, List.map_nil, item_chars hauthority hne hplain, hcs, if_true,
    item_chars hcode (isDigit_of_code? hds).1 hplain', upper_of_code? hds, hds]

/-- What follows the keyword of an identifier is the text of the identifier, and its code is read
from there. -/
theorem exists_afterKeyword?_of_identifiedCode? {i : Item} {n : Nat}
    (h : i.identifiedCode? = some n) :
    ∃ rest, i.afterKeyword? = some rest ∧ ∀ ys, codeIn? (rest ++ ys) = some n := by
  unfold Item.identifiedCode? at h
  split at h
  · next before keyword gap authority code after =>
    split_ifs at h with hidentifier
    obtain ⟨hkeyword, hgap, hauthority⟩ := hidentifier
    obtain ⟨cs, hcs, hepsg⟩ := Option.map_eq_some_iff.1 hauthority
    obtain ⟨ds, hds, hcode⟩ := Option.bind_eq_some_iff.1 h
    have hends : EndsInKeyword (Text.upper keyword.chars) := by
      rcases hkeyword with hkeyword | hkeyword
      · exact .inl (hkeyword ▸ List.suffix_rfl)
      · exact .inr (hkeyword ▸ List.suffix_rfl)
    have hitems : afterKeywordIn? [authority, code] = none := by
      simp [afterKeywordIn?, afterKeyword?_leaf hcs (isPlain_of_upper_eq hepsg),
        afterKeyword?_leaf hds (isPlain_of_code? hcode)]
    refine ⟨Text.upper (joined [authority, code]) ++ ']' :: after.chars, ?_, fun ys => ?_⟩
    · rw [Item.afterKeyword?, hitems, Option.none_or, if_pos ⟨hgap, hends⟩, Option.map_some]
    · rw [List.append_assoc]
      exact codeIn?_joined hcs hepsg hds hcode _
  · cases h

theorem afterKeywordIn?_of_getLast? {items : List Item} {i : Item} {rest : List Char}
    (hlast : items.getLast? = some i) (h : i.afterKeyword? = some rest) :
    afterKeywordIn? items = some rest := by
  induction items with
  | nil => cases hlast
  | cons j js ih =>
    cases js with
    | nil =>
      obtain rfl : j = i := Option.some.inj hlast
      simp [afterKeywordIn?, h, listed, Text.upper]
    | cons k ks =>
      rw [List.getLast?_cons_cons] at hlast
      rw [afterKeywordIn?, ih hlast, Option.some_or]

end Graticule.WellKnownText
