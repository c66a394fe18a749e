import Graticule.Error
import Graticule.Proofs.Crs.Definition
import Graticule.Proofs.Crs.WellKnownText.Identifier
import Graticule.Proofs.Crs.WellKnownText.Reading
import Graticule.Proofs.Projection.Text

/-!
# The system that well-known text identifies

The code of a reference system is that of the identifier at the end of its root.  The search for it
does not see the nodes, so below a root without identifier it goes on to the last identifier keyword
there: `Root.ofText_text`.  `Root.isDecisive_iff` says when the text nevertheless identifies what its
root does.
-/

namespace Graticule.WellKnownText

/-- Well-known text of a reference system, with the blanks around it. -/
structure Root where
  before : Blanks
  keyword : List Char
  isRoot : Text.upper keyword ++ ['['] ∈ rootKeywords.map String.toList
  items : List Item
  after : Blanks

namespace Root

def chars (r : Root) : List Char := r.keyword ++ '[' :: (joined r.items ++ [']'])

def text (r : Root) : String := String.ofList (r.before.chars ++ (r.chars ++ r.after.chars))

/-- The code of the identifier of the root, which is its last item. -/
def code? (r : Root) : Option Nat := r.items.getLast?.bind Item.identifiedCode?

def lastCode? (r : Root) : Option Nat :=
  (afterKeywordIn? r.items).bind fun rest => codeIn? (rest ++ [']'])

theorem lastCode?_of_code? {r : Root} {n : Nat} (h : r.code? = some n) : r.lastCode? = some n := by
  obtain ⟨i, hlast, hi⟩ := Option.bind_eq_some_iff.1 h
  obtain ⟨rest, hrest, hcode⟩ := exists_afterKeyword?_of_identifiedCode? hi
  rw [lastCode?, afterKeywordIn?_of_getLast? hlast hrest, Option.bind_some, hcode]

/-! ## How the text is read -/

theorem upper_chars (r : Root) :
    Text.upper r.chars =
      Text.upper r.keyword ++ ['['] ++ (Text.upper (joined r.items) ++ [']']) := by
  simp [chars, Text.upper]

theorem isRooted_chars (r : Root) : IsRooted r.chars := by
  obtain ⟨keyword, hkeyword, heq⟩ := List.mem_map.1 r.isRoot
  exact ⟨keyword, hkeyword, _, by rw [upper_chars, heq]⟩

theorem trim_text (r : Root) : Text.trim r.text.toList = r.chars := by
  rw [text, String.toList_ofList]
  apply Text.trim_append r.before.isBlank r.after.isBlank
  · simp [chars]
  · intro c
    exact r.isRooted_chars.isBlank_of_head?
  · intro c hc
    have hlast : r.chars.getLast? = some ']' := by
      rw [chars, ← List.cons_append, ← List.append_assoc, List.getLast?_concat]
    rw [hlast] at hc
    cases hc
    rfl

theorem rootCode?_chars (r : Root) : rootCode? (String.ofList r.chars) = r.lastCode? := by
  have hkeyword : ∀ keyword ∈ rootKeywords.map String.toList,
      ¬EndsInKeyword keyword.dropLast ∧ '[' ∉ keyword.dropLast := by decide
  obtain ⟨hends, hbracket⟩ := hkeyword _ r.isRoot
  rw [List.dropLast_concat] at hends hbracket
  rw [rootCode?_eq, String.toList_ofList, upper_chars, List.append_assoc, List.singleton_append,
    afterIdentifier?_bracket, afterIdentifier?_append_of_notMem _ (by decide),
    afterIdentifier?_joined, afterIdentifier?_listed, if_neg hends,
    afterIdentifier?_eq_none hbracket, Option.map_none, Option.or_none, lastCode?,
    Option.bind_map]
  rfl

variable {α : Type} [Elementary α] [Written α]

theorem ofText_text (r : Root) :
    (CrsDefinition.ofText r.text : Except CrsError (CrsDefinition α)) =
      match r.lastCode? with
      | some code => CrsDefinition.registered r.text code
      | none => .error .noRootIdentifier := by
  cases hcode : r.lastCode? <;>
    rw [IsRooted.ofText_eq r.trim_text r.isRooted_chars, rootCode?_chars, hcode]

/-! ## When the root decides -/

section
omit [Written α]

theorem properCode_mem_of_find_eq_ok {m : Nat} {r : Registration α}
    (h : Registration.find m = .ok r) : Registration.properCode m ∈ Registration.codes := by
  obtain ⟨hr, hcode⟩ := Registration.mem_of_find_eq_ok h
  rw [← Registration.map_code_all (α := α), ← hcode]
  exact List.mem_map_of_mem hr

theorem properCode_notMem_of_find_eq_error {m : Nat} {e : ProjectionError}
    (h : (Registration.find m : Except ProjectionError (Registration α)) = .error e) :
    Registration.properCode m ∉ Registration.codes := by
  unfold Registration.find at h
  split at h
  · cases h
  · next hnone =>
    intro hmem
    rw [← Registration.map_code_all (α := α)] at hmem
    obtain ⟨r, hr, hcode⟩ := List.mem_map.1 hmem
    exact List.find?_eq_none.1 hnone r hr (decide_eq_true hcode)

theorem exists_registered_iff {s : String} {m n : Nat} :
    (∃ d : CrsDefinition α, CrsDefinition.registered s m = .ok d ∧ d.code = some n) ↔
      Registration.properCode m = n ∧ n ∈ Registration.codes := by
  unfold CrsDefinition.registered
  cases h : (Registration.find m : Except ProjectionError (Registration α)) with
  | ok r =>
    have hmem := properCode_mem_of_find_eq_ok h
    have hcode := (Registration.mem_of_find_eq_ok h).2
    constructor
    · rintro ⟨d, hd, hn⟩
      cases hd
      obtain rfl := Option.some.inj hn
      exact ⟨hcode.symm, hcode ▸ hmem⟩
    · rintro ⟨rfl, -⟩
      exact ⟨_, rfl, congrArg some hcode⟩
  | error e =>
    constructor
    · rintro ⟨d, hd, -⟩
      cases hd
    · rintro ⟨rfl, hmem⟩
      exact absurd hmem (properCode_notMem_of_find_eq_error h)

theorem exists_registered_eq_error {m : Nat}
    (hm : Registration.properCode m ∉ Registration.codes) (s : String) :
    ∃ e, (CrsDefinition.registered s m : Except CrsError (CrsDefinition α)) = .error e := by
  unfold CrsDefinition.registered
  cases h : (Registration.find m : Except ProjectionError (Registration α)) with
  | ok r => exact absurd (properCode_mem_of_find_eq_ok h) hm
  | error e => exact ⟨_, rfl⟩

end

variable (α) in
/-- The text identifies the system with the code of its root, and is rejected if the root has
none. -/
def IsDecisive (r : Root) : Prop :=
  (∀ n, (∃ c : Crs α, Crs.ofText r.text = .ok c ∧ c.code = some n) ↔
    ∃ m, r.code? = some m ∧ Registration.properCode m = n ∧ n ∈ Registration.codes) ∧
  (r.code? = none → ∃ e : CrsError, (Crs.ofText r.text : Except CrsError (Crs α)) = .error e ∧
    (Error.crs e : Error α).kind = .invalidCrs)

theorem exists_ofText_text_iff (r : Root) (n : Nat) :
    (∃ c : Crs α, Crs.ofText r.text = .ok c ∧ c.code = some n) ↔
      ∃ m, r.lastCode? = some m ∧ Registration.properCode m = n ∧ n ∈ Registration.codes := by
  rw [Crs.exists_ofText_code_iff, ofText_text]
  cases r.lastCode? with
  | none => simp
  | some m => simpa using exists_registered_iff

/-- The text identifies what its root does exactly when the root has an identifier, or else no
registered code stands behind the last identifier keyword below it, be that the keyword of a nested
identifier, the end of a longer keyword or a part of a quoted text. -/
theorem isDecisive_iff (r : Root) :
    r.IsDecisive α ↔ r.code?.isSome = true ∨
      ∀ m, r.lastCode? = some m → Registration.properCode m ∉ Registration.codes := by
  unfold IsDecisive
  simp only [exists_ofText_text_iff]
  cases h : r.code? with
  | some m =>
    rw [lastCode?_of_code? h]
    simp
  | none =>
    constructor
    · rintro ⟨hcode, -⟩
      refine .inr fun m hm hmem => ?_
      obtain ⟨m', hm', -⟩ := (hcode (Registration.properCode m)).1 ⟨m, hm, rfl, hmem⟩
      cases hm'
    · rintro (hsome | hunknown)
      · cases hsome
      · refine ⟨fun n => ⟨fun ⟨m, hm, hproper, hmem⟩ => ?_, fun ⟨m, hm, _⟩ => by cases hm⟩,
          fun _ => ?_⟩
        · exact absurd (hproper ▸ hmem) (hunknown m hm)
        · simp only [Crs.ofText_eq_error_iff, ofText_text]
          cases hlast : r.lastCode? with
          | none => exact ⟨_, rfl, rfl⟩
          | some m =>
            obtain ⟨e, he⟩ := exists_registered_eq_error (α := α) (hunknown m hlast) r.text
            exact ⟨e, he, rfl⟩

end Root

/-! ## Projected systems over a geographic one -/

def Blanks.none : Blanks := ⟨[], nofun⟩

namespace Item

def text (s : String) : Item := .quoted .none s.toList .none

def named (keyword : Word) (items : List Item) : Item := .node .none keyword .none items .none

def authority (code : String) : Item :=
  named ⟨"AUTHORITY".toList, by decide⟩ [text "EPSG", text code]

end Item

/-- A projected system over the geographic one with the code 4326, with more items behind it. -/
def projected (rest : List Item) : Root where
  before := .none
  keyword := "PROJCS".toList
  isRoot := by decide
  items := .text "x" ::
    .named ⟨"GEOGCS".toList, by decide⟩ [.text "WGS 84", .authority "4326"] :: rest
  after := .none

/-- With an identifier of its own the root decides. -/
theorem isDecisive_iff_projected :
    (projected [.authority "3857"]).text = "PROJCS[\"x\",GEOGCS[\"WGS 84\"," ++
        "AUTHORITY[\"EPSG\",\"4326\"]],AUTHORITY[\"EPSG\",\"3857\"]]" ∧
      (projected [.authority "3857"]).IsDecisive Float :=
  ⟨rfl, (Root.isDecisive_iff _).2 (.inl (by decide))⟩

/-- Without one the geographic system is found. -/
theorem not_isDecisive_projected :
    (projected []).text =
        "PROJCS[\"x\",GEOGCS[\"WGS 84\",AUTHORITY[\"EPSG\",\"4326\"]]]" ∧
      ¬(projected []).IsDecisive Float := by
  refine ⟨rfl, fun ⟨hcode, _⟩ => ?_⟩
  have hlast : (projected []).lastCode? = some 4326 := by decide
  obtain ⟨m, hm, -⟩ :=
    (hcode 4326).1 ((Root.exists_ofText_text_iff _ _).2 ⟨4326, hlast, rfl, by decide⟩)
  cases hm

end Graticule.WellKnownText
