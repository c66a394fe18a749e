import Graticule.Proofs.Crs.Definition
import Graticule.Proofs.Projection.Recovery
import Graticule.Proofs.Text.Search

/-!
# Systems read back from the text of their projection

The text of a projection is no code and no well-known text, so it identifies the system of the
projection that is read from it.
-/

namespace Graticule

namespace Text

/-- The last character of words with blanks between them belongs to a word. -/
theorem isBlank_getLast?_intercalate {ws : List (List Char)} (hws : ∀ w ∈ ws, IsWord w ∧ w ≠ [])
    {c : Char} (hc : ([' '].intercalate ws).getLast? = some c) : isBlank c = false := by
  induction ws with
  | nil => cases hc
  | cons w ws ih =>
    cases ws with
    | nil =>
      rw [List.intercalate_singleton] at hc
      exact (hws w List.mem_cons_self).1 c (List.mem_of_getLast? hc)
    | cons v vs =>
      apply ih fun u hu => hws u (List.mem_cons_of_mem w hu)
      have hne : [' '].intercalate (v :: vs) ≠ [] := by
        have hv := (hws v (List.mem_cons_of_mem w List.mem_cons_self)).2
        cases vs with
        | nil => simpa using hv
        | cons u us => simp [List.intercalate_cons_cons]
      rw [List.intercalate_cons_cons, List.getLast?_append_of_ne_nil _ hne] at hc
      exact hc

end Text

section

variable {α : Type} [Elementary α] [Written α]

namespace Projection

/-- The text of a projection starts with its method. -/
theorem exists_toList_text (p : Projection α) :
    ∃ rest, p.text.toList = "+proj=".toList ++ rest := by
  obtain ⟨d, hd⟩ : ∃ d, p.definition = ("proj", p.method) :: d := ⟨_, rfl⟩
  have hfirst : (Definition.parameterText ("proj", p.method)).toList =
      "+proj=".toList ++ p.method.toList := by
    simp [Definition.parameterText, String.toList_append]
  unfold text
  rw [Definition.toList_text, hd, List.map_cons, hfirst]
  cases d.map fun p => (Definition.parameterText p).toList with
  | nil => exact ⟨p.method.toList, List.intercalate_singleton⟩
  | cons w ws =>
    rw [List.intercalate_cons_cons, List.append_assoc, List.append_assoc]
    exact ⟨_, rfl⟩

variable [Scalar.Legible α]

/-- No blank stands at the ends of the text of a projection. -/
theorem trim_text (p : Projection α) : Text.trim p.text.toList = p.text.toList := by
  apply Text.trim_eq_self
  · obtain ⟨rest, hrest⟩ := exists_toList_text p
    intro c hc
    rw [hrest] at hc
    cases hc
    rfl
  · intro c hc
    unfold text at hc
    rw [Definition.toList_text] at hc
    refine Text.isBlank_getLast?_intercalate (fun w hw => ?_) hc
    obtain ⟨q, hq, rfl⟩ := List.mem_map.1 hw
    have hplain := isPlain_definition p q hq
    exact Definition.isWord_parameterText hplain.1 hplain.2

end Projection

namespace Crs

variable [Scalar.Legible α]

/-- The text of a projection identifies the system of the projection that is read from it. -/
theorem ofText_text {p q : Projection α} (h : Projection.ofText p.text = .ok q) :
    ofText p.text = .ok ⟨⟨p.text, none, "unknown (" ++ q.method ++ ")", q⟩, 0⟩ := by
  obtain ⟨rest, hrest⟩ := Projection.exists_toList_text p
  have htrim : Text.trim p.text.toList = '+' :: ("proj=".toList ++ rest) := by
    rw [Projection.trim_text, hrest]
    rfl
  have hself : String.ofList ('+' :: ("proj=".toList ++ rest)) = p.text := by
    rw [← htrim, Projection.trim_text, String.ofList_toList]
  have hcode : CrsDefinition.authorityCode? ('+' :: ("proj=".toList ++ rest)) = none := by
    have hupper : Text.upper ('+' :: ("proj=".toList ++ rest)) =
        '+' :: Text.upper ("proj=".toList ++ rest) := rfl
    unfold CrsDefinition.authorityCode?
    rw [hupper, if_neg]
    · rfl
    · rintro (h | h) <;> cases h
  have hdescribed : Projection.isDescribedBy p.text = true := by
    have hstart : Text.trimStart p.text.toList = "+proj=".toList ++ rest := by
      rw [hrest]
      exact Text.dropWhile_eq_self fun c hc => by cases hc; rfl
    simp only [Projection.isDescribedBy, hstart, Text.dropFront?_append]
    rfl
  rw [ofText_eq_map]
  simp only [CrsDefinition.ofText, htrim, hcode, hself, hdescribed, if_true, h]
  rfl

/-- Parameters that are read back exactly and lead to finite numbers give a text that is read.  What
is read is equal to the projection exactly when the flattening comes back from its reciprocal; then
the text identifies a system equal to any of the same projection. -/
theorem exists_ofText_text [Scalar.Discerning α] {d : Projection.Parameters α} (hexact : d.IsExact)
    (hfinite : ∀ x ∈ d.projection.numbers, Scalar.isFinite x = true) :
    ∃ q, Projection.ofText d.projection.text = .ok q ∧
      ((q == d.projection) = true ↔ d.projection.ellipsoid.IsRecovered) ∧
      (d.projection.ellipsoid.IsRecovered → ∀ c : Crs α, c.projection = d.projection →
        ∃ c', Crs.ofText c.projection.text = .ok c' ∧ (c' == c) = true) := by
  have hread := Projection.ofText_text hexact
  have hequal := Projection.reread_beq_iff hfinite
  refine ⟨_, hread, hequal, fun hrecovered c hc => ?_⟩
  rw [hc]
  refine ⟨_, ofText_text hread, ?_⟩
  have hsame : (d.reread.projection == c.projection) = true := by
    rw [hc]
    exact hequal.2 hrecovered
  exact Bool.or_eq_true_iff.2 (.inr hsame)

end Crs

end

namespace Crs

/-- In exact arithmetic a projection of finite numbers is equal to what is read from its text, and so
is its system, if each number that is written is read. -/
theorem exists_ofText_text_beq [Written (Extended ℝ)] [Scalar.Legible (Extended ℝ)]
    {d : Projection.Parameters (Extended ℝ)} (hwritten : ∀ x ∈ d.written, IsExact x)
    (hfinite : ∀ x ∈ d.projection.numbers, Scalar.isFinite x = true) :
    ∃ q, Projection.ofText d.projection.text = .ok q ∧ (q == d.projection) = true ∧
      ∀ c : Crs (Extended ℝ), c.projection = d.projection →
        ∃ c', Crs.ofText c.projection.text = .ok c' ∧ (c' == c) = true := by
  have hexact := Projection.Parameters.isExact_of_forall_mem hwritten
  obtain ⟨q, hq, hequal, hback⟩ := exists_ofText_text hexact hfinite
  have hrecovered : d.projection.ellipsoid.IsRecovered :=
    Ellipsoid.isRecovered_of_isFinite (Projection.isFinite_ellipsoid_f hfinite)
  exact ⟨q, hq, hequal.2 hrecovered, hback hrecovered⟩

/-- What is read from a text, registered or made of parameters is made of parameters.  If these are
read back exactly and all numbers are finite, then the text of the projection is read, and what is
read is equal to the projection exactly when the flattening comes back from its reciprocal; then the
text identifies a system equal to any of the same projection. -/
theorem text_reads_back :
    (∀ (s : String) (p : Projection Float), Projection.ofText s = .ok p →
      ∃ d : Projection.Parameters Float, d.projection = p) ∧
    (∀ (code : Nat) (r : Registration Float), Registration.find code = .ok r →
      ∃ d : Projection.Parameters Float, d.projection = r.projection) ∧
    ∀ d : Projection.Parameters Float, d.IsExact →
      (∀ x ∈ d.projection.numbers, Scalar.isFinite x = true) →
      ∃ q, Projection.ofText d.projection.text = .ok q ∧
        ((q == d.projection) = true ↔ d.projection.ellipsoid.IsRecovered) ∧
        (d.projection.ellipsoid.IsRecovered → ∀ c : Crs Float, c.projection = d.projection →
          ∃ c', Crs.ofText c.projection.text = .ok c' ∧ (c' == c) = true) :=
  ⟨fun _ _ => Projection.exists_parameters_of_ofText,
    fun _ _ => Projection.exists_parameters_of_find, fun _ => exists_ofText_text⟩

/-- The Mercator projection around 150° east is read back, and so is its registered system. -/
theorem text_reads_back_pacific :
    let p : Projection Float := .mercator .pacific
    (∃ q, Projection.ofText p.text = .ok q ∧ (q == p) = true ∧
      ∃ d : Projection.Parameters Float, d.projection = q) ∧
    (∃ r, Registration.find 3832 = .ok r ∧
      ∃ d : Projection.Parameters Float, d.projection = r.projection) ∧
    ∃ c : Crs Float, Crs.ofText p.text = .ok c ∧
      (c == ⟨⟨"EPSG:3832", some 3832, "WGS 84 / PDC Mercator", p⟩, 0⟩) = true := by
  intro p
  have hexact : (Projection.Parameters.mercator Ellipsoid.wgs84 (150 : Float) 1 0 0).IsExact := by
    decide +kernel
  have hfinite : ∀ x ∈ p.numbers, Scalar.isFinite x = true := by
    decide +kernel
  have hrecovered : p.ellipsoid.IsRecovered := by decide +kernel
  obtain ⟨hread, hregistered, hback⟩ := text_reads_back
  obtain ⟨q, hq, hequal, hcrs⟩ := hback (.mercator .wgs84 150 1 0 0) hexact hfinite
  have hfind : Registration.find 3832 =
    .ok (⟨3832, "WGS 84 / PDC Mercator", p⟩ : Registration Float) := rfl
  exact ⟨⟨q, hq, hequal.2 hrecovered, hread _ q hq⟩, ⟨_, hfind, hregistered 3832 _ hfind⟩,
    hcrs hrecovered ⟨⟨"EPSG:3832", some 3832, "WGS 84 / PDC Mercator", p⟩, 0⟩ rfl⟩

/-- The axes of the World Geodetic System give a flattening that does not come back. -/
theorem not_text_reads_back_axes :
    let d : Projection.Parameters Float :=
      .longLat ⟨6378137, (6378137 - 6356752.3142) / 6378137⟩
    d.IsExact ∧ (∀ x ∈ d.projection.numbers, Scalar.isFinite x = true) ∧
      ∃ q, Projection.ofText d.projection.text = .ok q ∧ (q == d.projection) = false := by
  intro d
  have hexact : d.IsExact := by decide +kernel
  have hfinite : ∀ x ∈ d.projection.numbers, Scalar.isFinite x = true := by decide +kernel
  have hnot : ¬d.projection.ellipsoid.IsRecovered := by decide +kernel
  clear_value d
  refine ⟨hexact, hfinite, d.reread.projection, Projection.ofText_text hexact, ?_⟩
  exact Bool.eq_false_iff.2 fun h => hnot ((Projection.reread_beq_iff hfinite).1 h)

end Crs

end Graticule
