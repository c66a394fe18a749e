import Graticule.Proofs.Crs.WellKnownText.Tag

/-!
# The syntax of well-known text

Well-known text is a tree of nodes, with quoted texts, numbers and names at its leaves.  `Item.chars`
writes such a tree, with any blanks between its parts, and `Item.afterKeyword?` looks for the last
identifier keyword in the tree.  The search in the written tree finds the same one:
`Item.afterIdentifier?_chars`.
-/

namespace Graticule.WellKnownText

structure Blanks where
  chars : List Char
  isBlank : ∀ c ∈ chars, Text.isBlank c = true

def isDelimiter (c : Char) : Bool := c == '[' || c == ']' || c == ',' || c == '"'

/-- No character is blank or shapes the text. -/
def IsPlain (cs : List Char) : Prop :=
  ∀ c ∈ cs, Text.isBlank c = false ∧ isDelimiter c = false

instance (cs : List Char) : Decidable (IsPlain cs) :=
  List.decidableBAll (fun c => Text.isBlank c = false ∧ isDelimiter c = false) cs

structure Word where
  chars : List Char
  isPlain : IsPlain chars

/-- An item of a node, with the blanks around it. -/
inductive Item where
  /-- A text in quotes, as it is written between them. -/
  | quoted (before : Blanks) (content : List Char) (after : Blanks)
  /-- A number or a name. -/
  | bare (before : Blanks) (word : Word) (after : Blanks)
  /-- A node, with a gap between its keyword and the bracket. -/
  | node (before : Blanks) (keyword : Word) (gap : Blanks) (items : List Item) (after : Blanks)

mutual

def Item.chars : Item → List Char
  | .quoted before content after => before.chars ++ '"' :: (content ++ '"' :: after.chars)
  | .bare before word after => before.chars ++ (word.chars ++ after.chars)
  | .node before keyword gap items after =>
    before.chars ++ keyword.chars ++ gap.chars ++
      '[' :: ((listed items).tail ++ ']' :: after.chars)

def listed : List Item → List Char
  | [] => []
  | i :: is => ',' :: (i.chars ++ listed is)

end

def joined (items : List Item) : List Char := (listed items).tail

mutual

/-- What follows the last identifier keyword in an item, in upper case. -/
def Item.afterKeyword? : Item → Option (List Char)
  | .quoted _ content after =>
    (afterIdentifier? (Text.upper content)).map (· ++ '"' :: after.chars)
  | .bare .. => none
  | .node _ keyword gap items after =>
    ((afterKeywordIn? items).or
      (if gap.chars = [] ∧ EndsInKeyword (Text.upper keyword.chars) then
        some (Text.upper (joined items)) else none)).map
      (· ++ ']' :: after.chars)

/-- What follows the last identifier keyword in items with commas between them, in upper case. -/
def afterKeywordIn? : List Item → Option (List Char)
  | [] => none
  | i :: is => (afterKeywordIn? is).or (i.afterKeyword?.map (· ++ Text.upper (listed is)))

end

/-! ## Characters of the parts -/

theorem Blanks.isAlpha_of_mem {b : Blanks} {c : Char} (hc : c ∈ b.chars) : c.isAlpha = false := by
  cases halpha : c.isAlpha with
  | false => rfl
  | true =>
    have hblank := b.isBlank c hc
    rw [Text.isBlank_of_isAlpha halpha] at hblank
    cases hblank

@[simp] theorem Blanks.upper_chars (b : Blanks) : Text.upper b.chars = b.chars :=
  Text.upper_eq_self fun _ => isAlpha_of_mem

theorem isDelimiter_iff (c : Char) :
    isDelimiter c = true ↔ c = '[' ∨ c = ']' ∨ c = ',' ∨ c = '"' := by
  simp [isDelimiter, or_assoc]

@[simp] theorem Blanks.notMem (b : Blanks) {c : Char} (hc : isDelimiter c = true) :
    c ∉ b.chars := by
  intro hmem
  have hblank := b.isBlank c hmem
  rcases (isDelimiter_iff c).1 hc with rfl | rfl | rfl | rfl <;> cases hblank

@[simp] theorem Word.notMem (w : Word) {c : Char} (hc : isDelimiter c = true) : c ∉ w.chars := by
  intro hmem
  rw [(w.isPlain c hmem).2] at hc
  cases hc

section
variable {name blanks cs : List Char}

theorem suffix_append_iff (h : ∀ c ∈ blanks, c ∉ name) :
    name <:+ blanks ++ cs ↔ name <:+ cs := by
  refine ⟨fun hname => ?_, fun hname => hname.trans (List.suffix_append blanks cs)⟩
  rcases List.suffix_or_suffix_of_suffix hname (List.suffix_append blanks cs) with hsuffix | hsuffix
  · exact hsuffix
  · obtain ⟨front, rfl⟩ := hsuffix
    obtain ⟨rest, hrest⟩ := hname
    have hblanks : rest ++ front = blanks := by
      rwa [← List.append_assoc, List.append_cancel_right_eq] at hrest
    cases front with
    | nil => exact List.suffix_rfl
    | cons c front => exact absurd (by simp) (h c (hblanks ▸ by simp))

theorem not_suffix_append (hname : name ≠ []) (hblanks : blanks ≠ [])
    (h : ∀ c ∈ blanks, c ∉ name) : ¬name <:+ cs ++ blanks := by
  intro hsuffix
  rcases List.suffix_or_suffix_of_suffix hsuffix (List.suffix_append cs blanks) with hpart | hpart
  · exact h _ (hpart.subset (List.head_mem hname)) (List.head_mem hname)
  · exact h _ (List.head_mem hblanks) (hpart.subset (List.head_mem hblanks))

end

theorem Blanks.notMem_letters (b : Blanks) {name : List Char} (h : name.all Char.isAlpha = true) :
    ∀ c ∈ b.chars, c ∉ name := by
  intro c hc hmem
  have hletter := List.all_eq_true.1 h c hmem
  rw [isAlpha_of_mem hc] at hletter
  cases hletter

/-- Blanks in front of a keyword do not change where it ends, and in a gap behind it ends none. -/
theorem endsInKeyword_iff (before gap : Blanks) (cs : List Char) :
    EndsInKeyword (before.chars ++ cs ++ gap.chars) ↔ gap.chars = [] ∧ EndsInKeyword cs := by
  have hauthority : "AUTHORITY".toList.all Char.isAlpha = true := by decide
  have hid : "ID".toList.all Char.isAlpha = true := by decide
  unfold EndsInKeyword
  by_cases hgap : gap.chars = []
  · rw [hgap, List.append_nil, suffix_append_iff (before.notMem_letters hauthority),
      suffix_append_iff (before.notMem_letters hid)]
    simp only [true_and]
  · simp only [hgap, false_and, iff_false, not_or]
    exact ⟨not_suffix_append (by decide) hgap (gap.notMem_letters hauthority),
      not_suffix_append (by decide) hgap (gap.notMem_letters hid)⟩

/-! ## The search in the text of a tree -/

theorem isMark_comma : IsMark ',' := by decide

theorem isMark_quote : IsMark '"' := by decide

theorem afterIdentifier?_comma (cs : List Char) :
    afterIdentifier? (',' :: cs) = afterIdentifier? cs := by
  have hfront := afterIdentifier?_mark isMark_comma [] cs
  rwa [afterIdentifier?_eq_none List.not_mem_nil, Option.map_none, Option.or_none] at hfront

theorem upper_listed_cons (i : Item) (is : List Item) :
    Text.upper (listed (i :: is)) =
      ',' :: (Text.upper i.chars ++ Text.upper (listed is)) := by
  rw [listed, Text.upper_cons, Text.upper_append]
  rfl

theorem joined_cons (i : Item) (is : List Item) : joined (i :: is) = i.chars ++ listed is := by
  rw [joined, listed, List.tail_cons]

theorem afterIdentifier?_joined (items : List Item) :
    afterIdentifier? (Text.upper (joined items)) =
      afterIdentifier? (Text.upper (listed items)) := by
  cases items with
  | nil => rfl
  | cons i is =>
    rw [joined_cons, upper_listed_cons, Text.upper_append, afterIdentifier?_comma]

theorem afterIdentifier?_append_listed (xs : List Char) (items : List Item) :
    afterIdentifier? (xs ++ Text.upper (listed items)) =
      (afterIdentifier? (Text.upper (listed items))).or
        ((afterIdentifier? xs).map (· ++ Text.upper (listed items))) := by
  cases items with
  | nil =>
    have hnil : afterIdentifier? (Text.upper (listed [])) = none := rfl
    rw [hnil, Option.none_or]
    exact afterIdentifier?_append_of_notMem xs List.not_mem_nil
  | cons i is =>
    rw [upper_listed_cons, afterIdentifier?_mark isMark_comma, afterIdentifier?_comma]

mutual

/-- The last identifier keyword in the text of an item is the last one of its tree. -/
theorem Item.afterIdentifier?_chars (i : Item) :
    afterIdentifier? (Text.upper i.chars) = i.afterKeyword? := by
  match i with
  | .quoted before content after =>
    have hbefore : '[' ∉ before.chars := before.notMem rfl
    have hafter : '[' ∉ '"' :: after.chars := by simp [isDelimiter]
    have htext : Text.upper (Item.quoted before content after).chars =
        before.chars ++ '"' :: (Text.upper content ++ '"' :: after.chars) := by
      simp [Item.chars, Text.upper_append, Text.upper_cons]
    rw [htext, afterIdentifier?_mark isMark_quote, afterIdentifier?_append_of_notMem _ hafter,
      afterIdentifier?_eq_none hbefore, Option.map_none, Option.or_none, Item.afterKeyword?]
  | .bare before word after =>
    have hnone : '[' ∉ Text.upper (Item.bare before word after).chars := by
      rw [Text.mem_upper_iff rfl, Item.chars]
      simp [isDelimiter]
    rw [afterIdentifier?_eq_none hnone, Item.afterKeyword?]
  | .node before keyword gap items after =>
    have hitems := afterIdentifier?_listed items
    have hfront : '[' ∉ before.chars ++ Text.upper keyword.chars ++ gap.chars := by
      simp [isDelimiter, Text.mem_upper_iff]
    have hafter : '[' ∉ ']' :: after.chars := by simp [isDelimiter]
    have htext : Text.upper (Item.node before keyword gap items after).chars =
        before.chars ++ Text.upper keyword.chars ++ gap.chars ++
          '[' :: (Text.upper (joined items) ++ ']' :: after.chars) := by
      simp [Item.chars, joined, Text.upper_append, Text.upper_cons]
    rw [htext, afterIdentifier?_bracket, afterIdentifier?_append_of_notMem _ hafter,
      afterIdentifier?_eq_none hfront, afterIdentifier?_joined, hitems, Item.afterKeyword?,
      Option.map_or]
    simp only [endsInKeyword_iff]
    split_ifs <;> rfl

theorem afterIdentifier?_listed (items : List Item) :
    afterIdentifier? (Text.upper (listed items)) = afterKeywordIn? items := by
  match items with
  | [] => rfl
  | i :: is =>
    have hitem := i.afterIdentifier?_chars
    have hitems := afterIdentifier?_listed is
    rw [upper_listed_cons, afterIdentifier?_comma, afterIdentifier?_append_listed, hitem, hitems,
      afterKeywordIn?]

end

end Graticule.WellKnownText
