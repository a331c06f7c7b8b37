import CanScope.Number.Decimal

/-!
# Settings trees

The values of a TOML document. A table remembers how it came to be, because that decides what later
lines may add to it.
-/
namespace CanScope.Toml

open CanScope.Number

inductive Origin where
  | inline
  | header
  | dotted
  /-- Made on the way to a table below it. -/
  | implied
  deriving DecidableEq, Repr

inductive Value where
  | text (s : String)
  | integer (n : Int)
  | real (d : Decimal)
  | boolean (b : Bool)
  | moment (s : String)
  | array (items : List Value)
  | table (origin : Origin) (entries : List (String × Value))
  /-- Tables opened one after another by headers in double brackets. -/
  | tables (items : List (List (String × Value)))
  deriving Repr, Inhabited

/-- The entries of a table; no key occurs twice. -/
abbrev Table := List (String × Value)

/-- A reader takes a value off the front of a text, or refuses the text. -/
abbrev Reader (α : Type) := List Char → Option (α × List Char)

namespace Table

def put (key : String) (v : Value) : Table → Table
  | [] => [(key, v)]
  | entry :: rest => if entry.1 = key then (key, v) :: rest else entry :: put key v rest

theorem lookup_cons_if (key other : String) (v : Value) (t : Table) :
    List.lookup other ((key, v) :: t) = if other = key then some v else t.lookup other := by
  by_cases h : other = key
  · simp [h]
  · have hb : (other == key) = false := by simpa using h
    simp [List.lookup_cons, h, hb]

theorem lookup_put (key other : String) (v : Value) (t : Table) :
    (put key v t).lookup other = if other = key then some v else t.lookup other := by
  induction t with
  | nil => simp only [put, lookup_cons_if]
  | cons entry rest ih =>
    obtain ⟨k, w⟩ := entry
    by_cases hk : k = key
    · subst hk
      simp only [put, if_true, lookup_cons_if]
      split <;> rfl
    · simp only [put, hk, if_false, lookup_cons_if, ih]
      grind

end Table

end CanScope.Toml
