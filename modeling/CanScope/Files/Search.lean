import CanScope.Files.Tree

/-!
# Looking for a file

A file that is asked for by a relative path may lie in the working directory or in one above it: the
path is followed from each of them, the closest first, until a file is found. A path from the root of
everything leads to one place.
-/
namespace CanScope.Files

/-- A path as it is followed from the working directory and from `above` directories above it. -/
def Path.outward (path : String) : Nat → List String
  | 0 => [path]
  | above + 1 =>
    if (ofText path).isAbsolute then [path] else path :: outward ("../" ++ path) above

def readFirst {m : Type → Type} [Monad m] (read : String → m (Except Fault ByteArray)) :
    List String → m (Except Fault ByteArray)
  | [] => return .error .missing
  | path :: rest => do
    match ← read path with
    | .ok contents => return .ok contents
    | .error _ => readFirst read rest

namespace Tree

/-- How many directories above the working directory hold anything known. -/
def height (t : Tree) : Nat :=
  (t.entries.map fun entry => (entry.1.takeWhile (· == "..")).length).foldl max 0

end Tree

end CanScope.Files
