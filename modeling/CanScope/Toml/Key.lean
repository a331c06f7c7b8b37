import CanScope.Toml.Text

/-!
# Keys in TOML

A key is bare, of ASCII letters, digits, underscores and hyphens, or a text in single or double
quotes. A path is keys joined by points, with blanks around each; it has fewer than eighty keys.
-/
namespace CanScope.Toml

/-- No path of keys has this length, and no value lies this deep in another one. -/
def depthLimit : Nat := 80

def isBare (c : Char) : Bool :=
  ('A' ≤ c && c ≤ 'Z') || ('a' ≤ c && c ≤ 'z') || ('0' ≤ c && c ≤ '9') || c == '_' || c == '-'

def key? : Reader (List Char)
  | '"' :: rest => basicBody rest
  | '\'' :: rest => literalBody rest
  | cs => if (cs.takeWhile isBare).isEmpty then none else some (cs.takeWhile isBare, cs.dropWhile isBare)

/-- Keys joined by points, at least one. -/
def keys? (cs : List Char) : Option (List String × List Char) := do
  let (key, rest) ← key? (skipSpaces cs)
  match skipSpaces rest with
  | '.' :: rest' =>
    if rest'.length < cs.length then
      let (keys, rest'') ← keys? rest'
      return (String.ofList key :: keys, rest'')
    else none
  | rest' => return ([String.ofList key], rest')
termination_by cs.length

/-- A path of keys. -/
def path? (cs : List Char) : Option (List String × List Char) :=
  (keys? cs).filter fun r => r.1.length < depthLimit

end CanScope.Toml
