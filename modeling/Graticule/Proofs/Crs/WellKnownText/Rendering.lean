import Graticule.Proofs.Crs.Equality
import Graticule.Proofs.Crs.WellKnownText.Root

/-!
# Well-known text that is written

The text of a registered system ends with its identifier, so it has its code whatever is written in
front of that: a name may have quotes, brackets and identifiers of its own in it.
-/

namespace Graticule.WellKnownText

theorem IsRooted.append {xs : List Char} (h : IsRooted xs) (ys : List Char) :
    IsRooted (xs ++ ys) := by
  obtain ⟨keyword, hkeyword, rest, hxs⟩ := h
  refine ⟨keyword, hkeyword, rest ++ Text.upper ys, ?_⟩
  rw [Text.upper_append, hxs, List.append_assoc]

/-! ## Written codes -/

theorem code?_of_isDigit {cs : List Char} (hne : cs ≠ []) (hdigits : ∀ c ∈ cs, c.isDigit = true) :
    code? cs =
      if Decimal.ofDigits cs < powerOfTwo 32 then some (Decimal.ofDigits cs) else none := by
  have htest : ¬(cs.isEmpty || !cs.all Char.isDigit) = true := by
    simpa [hne] using hdigits
  simp only [code?]
  split
  · next ds =>
    cases hdigits '+' List.mem_cons_self
  · rw [if_neg htest]

theorem code?_toString {n : Nat} (hn : n < 2 ^ 32) : code? (toString n).toList = some n := by
  have htext : (toString n).toList = Nat.toDigits 10 n := by
    rw [Nat.toString_eq_repr, Nat.repr, String.toList_ofList]
  have hdigits : ∀ c ∈ Nat.toDigits 10 n, c.isDigit = true :=
    fun c hc => Nat.isDigit_of_mem_toDigits (by decide) (by decide) hc
  have hvalue : Decimal.ofDigits (Nat.toDigits 10 n) = n :=
    Nat.ofDigitChars_toDigits (by decide) (by decide)
  rw [htext, code?_of_isDigit Nat.toDigits_ne_nil hdigits, hvalue]
  exact if_pos hn

theorem identifiedCode?_of_keyword {keyword : Word} {authority code : Item}
    (hkeyword : Text.upper keyword.chars = "AUTHORITY".toList)
    (hauthority : authority.text?.map Text.upper = some "EPSG".toList) :
    (Item.named keyword [authority, code]).identifiedCode? = code.text?.bind code? :=
  if_pos ⟨.inl hkeyword, rfl, hauthority⟩

theorem identifiedCode?_authority {n : Nat} (hn : n < 2 ^ 32) :
    (Item.authority (toString n)).identifiedCode? = some n := by
  unfold Item.authority
  rw [identifiedCode?_of_keyword (by decide) (by decide)]
  exact code?_toString hn

/-- The identifier that a text ends with is its last one, whatever stands in front of it. -/
theorem rootCode?_of_identifiedCode? {s : String} {front : List Char} {i : Item} {n : Nat}
    (hs : s.toList = front ++ ',' :: (i.chars ++ [']'])) (hi : i.identifiedCode? = some n) :
    rootCode? s = some n := by
  obtain ⟨rest, hrest, hcode⟩ := exists_afterKeyword?_of_identifiedCode? hi
  have hupper : Text.upper s.toList =
      Text.upper front ++ ',' :: (Text.upper i.chars ++ [']']) := by
    rw [hs, Text.upper_append, Text.upper_cons, Text.upper_append]
    rfl
  rw [rootCode?_eq, hupper, afterIdentifier?_mark isMark_comma,
    afterIdentifier?_append_of_notMem _ (by decide), i.afterIdentifier?_chars, hrest,
    Option.map_some, Option.some_or, Option.bind_some, hcode]

/-! ## The text of a system -/

variable {α : Type} [Elementary α] [Written α]

/-- The text starts with a root keyword and ends with the identifier of the code. -/
theorem exists_render_eq (code : Nat) (name : String) (p : Projection α) :
    ∃ front : String, IsRooted front.toList ∧
      render code name p =
        front ++ "," ++ ("AUTHORITY[\"EPSG\",\"" ++ toString code ++ "\"]") ++ "]" := by
  have hgeographic : IsRooted "GEOGCS[\"".toList := ⟨"GEOGCS[", by decide, ['"'], rfl⟩
  have hprojected : IsRooted "PROJCS[\"".toList := ⟨"PROJCS[", by decide, ['"'], rfl⟩
  simp only [render]
  split
  · refine ⟨_, ?_, rfl⟩
    simp only [String.toList_append, List.append_assoc]
    exact hgeographic.append _
  · have hcomma (x : String) : x ++ "\"]," = x ++ "\"]" ++ "," := by
      rw [String.append_assoc]
      rfl
    rw [hcomma]
    refine ⟨_, ?_, rfl⟩
    simp only [String.toList_append, List.append_assoc]
    exact hprojected.append _

theorem chars_authority (code : String) :
    (Item.authority code).chars = ("AUTHORITY[\"EPSG\",\"" ++ code ++ "\"]").toList := by
  simp [Item.authority, Item.named, Item.text, Item.chars, listed, Blanks.none,
    String.toList_append]

theorem exists_toList_render (code : Nat) (name : String) (p : Projection α) :
    ∃ front, IsRooted front ∧ (render code name p).toList =
      front ++ ',' :: ((Item.authority (toString code)).chars ++ [']']) := by
  obtain ⟨front, hrooted, hrender⟩ := exists_render_eq code name p
  refine ⟨front.toList, hrooted, ?_⟩
  rw [hrender, chars_authority, String.toList_append, String.toList_append, String.toList_append,
    List.append_assoc, List.append_assoc]
  rfl

theorem isRooted_render (code : Nat) (name : String) (p : Projection α) :
    IsRooted (render code name p).toList := by
  obtain ⟨front, hrooted, hrender⟩ := exists_toList_render code name p
  rw [hrender]
  exact hrooted.append _

theorem isWellKnownText_render (code : Nat) (name : String) (p : Projection α) :
    isWellKnownText (render code name p) = true := by
  have h := (isRooted_render code name p).isWellKnownText
  rwa [String.ofList_toList] at h

theorem rootCode?_render {code : Nat} (hcode : code < 2 ^ 32) (name : String) (p : Projection α) :
    rootCode? (render code name p) = some code := by
  obtain ⟨front, -, hrender⟩ := exists_toList_render code name p
  exact rootCode?_of_identifiedCode? hrender (identifiedCode?_authority hcode)

theorem trim_render (code : Nat) (name : String) (p : Projection α) :
    Text.trim (render code name p).toList = (render code name p).toList := by
  apply Text.trim_eq_self
  · intro c
    exact (isRooted_render code name p).isBlank_of_head?
  · obtain ⟨front, -, hrender⟩ := exists_toList_render code name p
    intro c hc
    rw [hrender, ← List.cons_append, ← List.append_assoc, List.getLast?_concat] at hc
    cases hc
    rfl

/-- The text identifies the system registered under the code. -/
theorem ofText_render {code : Nat} (hcode : code < 2 ^ 32) (name : String) (p : Projection α) :
    (CrsDefinition.ofText (render code name p) : Except CrsError (CrsDefinition α)) =
      CrsDefinition.registered (render code name p) code := by
  rw [IsRooted.ofText_eq (trim_render code name p) (isRooted_render code name p),
    String.ofList_toList, rootCode?_render hcode]

end Graticule.WellKnownText

namespace Graticule

variable {α : Type} [Elementary α]

namespace Registration

theorem code_mem_codes {r : Registration α} (hr : r ∈ all) : r.code ∈ codes := by
  rw [← map_code_all (α := α)]
  exact List.mem_map_of_mem hr

/-- A registered projection is found by its code. -/
theorem find_code {r : Registration α} (hr : r ∈ all) : find r.code = .ok r := by
  have hproper : ∀ code ∈ codes, properCode code = code := by decide
  have hcode := hproper r.code (code_mem_codes hr)
  cases h : (find r.code : Except ProjectionError (Registration α)) with
  | ok found =>
    obtain ⟨hfound, hsame⟩ := mem_of_find_eq_ok h
    rw [eq_of_code_eq hfound hr (hsame.trans hcode)]
  | error e =>
    have hmissing := WellKnownText.Root.properCode_notMem_of_find_eq_error h
    rw [hcode] at hmissing
    exact absurd (code_mem_codes hr) hmissing

end Registration

namespace Crs

variable [Written α]

/-- A system with a code is found again by its well-known text. -/
theorem IsFound.ofWellKnownText_eq {c : Crs α} (hc : c.IsFound) {code : Nat}
    (hcode : c.code = some code) :
    ofWellKnownText (WellKnownText.render code c.name c.projection) =
      .ok ⟨⟨WellKnownText.render code c.name c.projection, some code, c.name, c.projection⟩, 0⟩ := by
  have hfits : ∀ code ∈ Registration.codes, code < 2 ^ 32 := by decide
  obtain ⟨r, hr, rfl, hname, hprojection⟩ := hc.exists_registration hcode
  have hsmall := hfits r.code (Registration.code_mem_codes hr)
  rw [hname, hprojection, ofWellKnownText, if_pos (WellKnownText.isWellKnownText_render _ _ _),
    ofText_eq_map, WellKnownText.ofText_render hsmall, CrsDefinition.registered,
    Registration.find_code hr]
  rfl

end Crs

namespace WellKnownText

variable [Written α]

/-- The text that is written for a code, any name and any projection is well-known text, and the
code is read from it.  The text of a system that was found and has a code identifies an equal system
of the same code, and the text of this system is the same. -/
theorem render_keeps_code :
    (∀ (code : Nat) (name : String) (p : Projection α), code < 2 ^ 32 →
      isWellKnownText (render code name p) = true ∧
        rootCode? (render code name p) = some code) ∧
    ∀ (c : Crs α) (code : Nat), c.IsFound → c.code = some code →
      ∃ s d, c.wellKnownText? = some s ∧ Crs.ofWellKnownText s = .ok d ∧ d.code = some code ∧
        (d == c) = true ∧ (c == d) = true ∧ d.wellKnownText? = some s := by
  refine ⟨fun code name p hcode =>
    ⟨isWellKnownText_render code name p, rootCode?_render hcode name p⟩, fun c code hc hcode => ?_⟩
  refine ⟨render code c.name c.projection, _, ?_, hc.ofWellKnownText_eq hcode, rfl,
    Crs.beq_of_code rfl hcode, Crs.beq_of_code hcode rfl, rfl⟩
  rw [Crs.wellKnownText?, hcode, Option.map_some]

/-- A name with quotes, brackets and an identifier in it, and the largest code; and the system of a
code that is another name of the one it has. -/
theorem render_keeps_code_quoted :
    let text := render 4294967295 "a\"]],AUTHORITY[\"EPSG\",\"4326\"]]"
      (.mercator .web : Projection Float)
    (isWellKnownText text = true ∧ rootCode? text = some 4294967295) ∧
    ∃ c : Crs Float, Crs.ofText "EPSG:900913" = .ok c ∧ c.code = some 3857 ∧
      ∃ s d, c.wellKnownText? = some s ∧ Crs.ofWellKnownText s = .ok d ∧ d.code = some 3857 ∧
        (d == c) = true ∧ d.wellKnownText? = some s := by
  obtain ⟨hread, hback⟩ := render_keeps_code (α := Float)
  have hfound : Crs.ofText "EPSG:900913" = .ok (⟨⟨"EPSG:900913", some 3857,
      "WGS 84 / Pseudo-Mercator", .mercator .web⟩, 0⟩ : Crs Float) := rfl
  obtain ⟨s, d, hs, hd, hcode, hequal, -, hagain⟩ := hback _ 3857 ⟨_, hfound⟩ rfl
  exact ⟨hread _ _ _ (by decide), _, hfound, rfl, s, d, hs, hd, hcode, hequal, hagain⟩

end WellKnownText

end Graticule
