import Graticule.Decimal.Reader
import Graticule.Text.Hexadecimal

/-!
# The syntax of JSON texts

`JsonSyntax.ofText?` checks the grammar and takes a text apart, but leaves numbers and strings as
they are written.  What a number or a string stands for, if anything, is settled where it is needed.
-/

namespace Graticule

inductive JsonSyntax where
  | null
  | bool (b : Bool)
  /-- A number by its sign and its digits; it is whole if it has neither point nor exponent. -/
  | number (negative : Bool) (numeral : Decimal.Numeral) (isWhole : Bool)
  /-- The characters of a string between its quotes. -/
  | string (body : List Char)
  | array (items : List JsonSyntax)
  | object (members : List (List Char × JsonSyntax))
deriving Inhabited

namespace JsonSyntax

private abbrev Rest (cs : List Char) := { r : List Char // r.length < cs.length }

private def isSpace (c : Char) : Bool :=
  c == ' ' || c == '\n' || c == '\t' || c.toNat == 13

private theorem length_dropWhile_le (p : Char → Bool) (cs : List Char) :
    (cs.dropWhile p).length ≤ cs.length :=
  (List.dropWhile_suffix p).length_le

private theorem length_dropWhile_lt (p : Char → Bool) {c : Char} {r cs : List Char}
    (h : cs.dropWhile p = c :: r) : r.length < cs.length := by
  have := length_dropWhile_le p cs
  rw [h, List.length_cons] at this
  exact this

private def next? (cs : List Char) : Option (Char × Rest cs) :=
  match h : cs.dropWhile isSpace with
  | [] => none
  | c :: r => some (c, ⟨r, length_dropWhile_lt _ h⟩)

/-! ## Strings -/

def escape? : Char → Option Char
  | '"' => some '"'
  | '\\' => some '\\'
  | '/' => some '/'
  | 'b' => some (Char.ofNat 8)
  | 'f' => some (Char.ofNat 12)
  | 'n' => some '\n'
  | 'r' => some (Char.ofNat 13)
  | 't' => some '\t'
  | _ => none

/-- The characters of a string up to its closing quote, after those already read. -/
private def stringTail (read : List Char) : (cs : List Char) → Option (List Char × Rest cs)
  | [] => none
  | '"' :: cs => some (read.reverse, ⟨cs, by simp⟩)
  | '\\' :: 'u' :: a :: b :: c :: d :: cs =>
    if [a, b, c, d].all fun e => (Text.hexDigit? e).isSome then
      (stringTail (d :: c :: b :: a :: 'u' :: '\\' :: read) cs).map fun (s, r) =>
        (s, ⟨r.1, by have := r.2; simp only [List.length_cons]; omega⟩)
    else none
  | '\\' :: e :: cs =>
    match escape? e with
    | some _ =>
      (stringTail (e :: '\\' :: read) cs).map fun (s, r) =>
        (s, ⟨r.1, by have := r.2; simp only [List.length_cons]; omega⟩)
    | none => none
  | c :: cs =>
    if c.toNat < 32 || c == '\\' then none
    else
      (stringTail (c :: read) cs).map fun (s, r) =>
        (s, ⟨r.1, by have := r.2; simp only [List.length_cons]; omega⟩)

/-! ## Numbers and words -/

private def isNumberPart (c : Char) : Bool :=
  c.isDigit || c == '-' || c == '+' || c == '.' || c == 'e' || c == 'E'

/-- Whether the digits of a number have no needless zero in front and a point has digits around. -/
private def isWellFormed (cs : List Char) : Bool :=
  let (whole, rest) := cs.span Char.isDigit
  !whole.isEmpty && (whole.length == 1 || whole.head? != some '0') &&
    match rest with
    | '.' :: c :: _ => c.isDigit
    | '.' :: [] => false
    | _ => true

private def number? (cs : List Char) : Option JsonSyntax :=
  let (negative, ds) := match cs with
    | '-' :: ds => (true, ds)
    | ds => (false, ds)
  if isWellFormed ds then
    (Decimal.numeral? ds).map fun numeral => number negative numeral (ds.all Char.isDigit)
  else none

private def word? (cs : List Char) : Option JsonSyntax :=
  match String.ofList cs with
  | "null" => some null
  | "true" => some (bool true)
  | "false" => some (bool false)
  | _ => none

private def isPlain (c : Char) : Bool :=
  isNumberPart c || c.isAlpha

private def atom? (c : Char) (cs : List Char) : Option JsonSyntax :=
  let text := c :: cs.takeWhile isPlain
  if c.isAlpha then word? text else number? text

/-! ## Values -/

mutual

private def value (cs : List Char) : Option (JsonSyntax × Rest cs) :=
  match next? cs with
  | none => none
  | some (c, r) =>
    if c = '"' then
      (stringTail [] r.1).map fun (s, t) => (string s, ⟨t.1, Nat.lt_trans t.2 r.2⟩)
    else if c = '[' then
      match next? r.1 with
      | some (']', t) => some (array [], ⟨t.1, Nat.lt_trans t.2 r.2⟩)
      | _ => (items [] r.1).map fun (vs, t) => (array vs, ⟨t.1, Nat.lt_trans t.2 r.2⟩)
    else if c.toNat = 123 then
      match next? r.1 with
      | some ('\x7d', t) => some (object [], ⟨t.1, Nat.lt_trans t.2 r.2⟩)
      | _ => (members [] r.1).map fun (ms, t) => (object ms, ⟨t.1, Nat.lt_trans t.2 r.2⟩)
    else
      (atom? c r.1).map fun v =>
        (v, ⟨r.1.dropWhile isPlain, Nat.lt_of_le_of_lt (length_dropWhile_le _ _) r.2⟩)
termination_by (cs.length, 0)
decreasing_by
  all_goals exact Prod.Lex.left _ _ r.2

/-- The items of an array up to its closing bracket, after those already read. -/
private def items (read : List JsonSyntax) (cs : List Char) :
    Option (List JsonSyntax × Rest cs) :=
  match value cs with
  | none => none
  | some (v, r) =>
    match next? r.1 with
    | some (',', t) =>
      (items (v :: read) t.1).map fun (vs, u) =>
        (vs, ⟨u.1, Nat.lt_trans u.2 (Nat.lt_trans t.2 r.2)⟩)
    | some (']', t) => some ((v :: read).reverse, ⟨t.1, Nat.lt_trans t.2 r.2⟩)
    | _ => none
termination_by (cs.length, 1)
decreasing_by
  · exact Prod.Lex.right _ (by decide)
  · exact Prod.Lex.left _ _ (Nat.lt_trans t.2 r.2)

/-- The members of an object up to its closing brace, after those already read. -/
private def members (read : List (List Char × JsonSyntax)) (cs : List Char) :
    Option (List (List Char × JsonSyntax) × Rest cs) :=
  match next? cs with
  | some ('"', q) =>
    match stringTail [] q.1 with
    | none => none
    | some (k, r) =>
      match next? r.1 with
      | some (':', t) =>
        match value t.1 with
        | none => none
        | some (v, u) =>
          match next? u.1 with
          | some (',', w) =>
            (members ((k, v) :: read) w.1).map fun (ms, x) =>
              (ms, ⟨x.1, by have := q.2; have := r.2; have := t.2; have := u.2; have := w.2
                            have := x.2; omega⟩)
          | some ('\x7d', w) =>
            some (((k, v) :: read).reverse,
              ⟨w.1, by have := q.2; have := r.2; have := t.2; have := u.2; have := w.2; omega⟩)
          | _ => none
      | _ => none
  | _ => none
termination_by (cs.length, 1)
decreasing_by
  · exact Prod.Lex.left _ _ (Nat.lt_trans t.2 (Nat.lt_trans r.2 q.2))
  · exact Prod.Lex.left _ _ (by
      have := q.2; have := r.2; have := t.2; have := u.2; have := w.2; omega)

end

def ofText? (text : String) : Option JsonSyntax :=
  match value text.toList with
  | some (v, r) => if r.1.all isSpace then some v else none
  | none => none

end JsonSyntax

end Graticule
