import CanScope.Text.Digits
import CanScope.Text.Plain

/-!
# Quoted text

Text between double quotes, with everything that is not plain made visible: the quote and the
backslash behind a backslash, tab, line ends and NUL by a letter or digit of their own, all else that
is not plain by its code point, as in `\u{1b}`.
-/
namespace CanScope.Text

/-- A code point in braces, in lower-case hexadecimal. -/
def codePoint (c : Char) : List Char :=
  ['\\', 'u', '\x7b'] ++ Nat.toDigits 16 c.toNat ++ ['\x7d']

def visible (c : Char) : List Char :=
  match c with
  | '\x00' => ['\\', '0']
  | '\t' => ['\\', 't']
  | '\r' => ['\\', 'r']
  | '\n' => ['\\', 'n']
  | '\\' => ['\\', '\\']
  | '"' => ['\\', '"']
  | c => if isPlain c then [c] else codePoint c

def quoted (s : String) : String :=
  String.ofList ('"' :: s.toList.flatMap visible ++ ['"'])

end CanScope.Text
