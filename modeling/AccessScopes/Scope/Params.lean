import AccessScopes.Table

/-!
# Parameters

Parameters narrow a scope to values of named attributes. They are written as `key=value` pairs
joined by `&`. Reading never fails: a pair counts only if its key and its value are non-empty, where
the value ends at the second `=`, and of two pairs with one key the later gives the value.
-/

namespace AccessScopes

/-- The values of named attributes, in the order in which the names first came. -/
abbrev Params := Table String String

namespace Params

/-- The key and the value of a pair, if both are there. -/
def pair? (text : List Char) : Option (String × String) :=
  match text.splitOn '=' with
  | key :: value :: _ => if key = [] ∨ value = [] then none else some (.ofList key, .ofList value)
  | _ => none

/-- The pairs of a text that count, in order. -/
def pairs (text : List Char) : List (String × String) :=
  (text.splitOn '&').filterMap pair?

def parse (text : List Char) : Params :=
  .ofList (pairs text)

def render (params : Params) : String :=
  "&".intercalate (params.entries.map fun (key, value) => key ++ "=" ++ value)

/-- The pairs of two texts joined by `&` are the pairs of the one and then those of the other. -/
theorem pairs_append (left right : List Char) : pairs (left ++ '&' :: right) = pairs left ++ pairs right := by
  rw [pairs, List.splitOn_append_cons_self, List.filterMap_append]
  rfl

end Params

end AccessScopes
