import Graticule.Text.Shown

/-!
# Quoted texts

A text between double quotes in which quotes, backslashes and characters that cannot be shown are
escaped.
-/

namespace Graticule.Text

private def hexDigits (n : Nat) : String :=
  String.ofList (Nat.toDigits 16 n)

def escape (c : Char) : String :=
  match c with
  | '\x00' => "\\0"
  | '\t' => "\\t"
  | '\n' => "\\n"
  | '\x0d' => "\\r"
  | '"' => "\\\""
  | '\\' => "\\\\"
  | c => if isShown c then c.toString else "\\u\x7b" ++ hexDigits c.toNat ++ "\x7d"

def quote (s : String) : String :=
  "\"" ++ String.join (s.toList.map escape) ++ "\""

end Graticule.Text
