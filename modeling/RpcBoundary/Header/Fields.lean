/-
# Header fields

The headers of a message, or the metadata of a call: names with values, where a
name may stand several times and its values keep their order. Reading takes the
first value of a name; writing one replaces all of them.
-/

import RpcBoundary.Header.Name
import RpcBoundary.Header.Value

namespace RpcBoundary

/-- The headers of a message, in the order in which they were added. -/
structure Headers where
  fields : List (HeaderName × HeaderValue)
  deriving DecidableEq

namespace Headers

/-- No headers. -/
def empty : Headers := ⟨[]⟩

/-- All values of a name, in order. -/
def values (headers : Headers) (name : HeaderName) : List HeaderValue :=
  (headers.fields.filter fun field => field.1 == name).map Prod.snd

/-- The names that have values, in the order in which they got their first one. -/
def names (headers : Headers) : List HeaderName :=
  (headers.fields.map Prod.fst).eraseDups

/-- The first value of a name. -/
def get? (headers : Headers) (name : HeaderName) : Option HeaderValue :=
  (headers.values name).head?

/-- Whether the name has a value. -/
def contains (headers : Headers) (name : HeaderName) : Bool :=
  headers.fields.any fun field => field.1 == name

/-- The headers without those of the given name. -/
def erase (headers : Headers) (name : HeaderName) : Headers :=
  ⟨headers.fields.filter fun field => field.1 != name⟩

/-- Adds a value beside those that the name already has. -/
def append (headers : Headers) (name : HeaderName) (value : HeaderValue) : Headers :=
  ⟨headers.fields ++ [(name, value)]⟩

/-- Gives the name this value only. -/
def insert (headers : Headers) (name : HeaderName) (value : HeaderValue) : Headers :=
  (headers.erase name).append name value

/-- Gives the name this value if it has none. -/
def insertIfAbsent (headers : Headers) (name : HeaderName) (value : HeaderValue) : Headers :=
  if headers.contains name then headers else headers.append name value

/-- The headers whose names are not in the list. -/
def without (headers : Headers) (names : List HeaderName) : Headers :=
  ⟨headers.fields.filter fun field => !names.contains field.1⟩

theorem values_append (headers : Headers) (name other : HeaderName) (value : HeaderValue) :
    (headers.append name value).values other =
      headers.values other ++ if name = other then [value] else [] := by
  by_cases h : name = other <;> simp [values, append, h]

theorem values_erase (headers : Headers) (name other : HeaderName) :
    (headers.erase name).values other = if name = other then [] else headers.values other := by
  by_cases h : name = other
  · subst h
    simp [values, erase, List.filter_filter]
  · simp only [values, erase, List.filter_filter, h, if_false]
    congr 1
    refine List.filter_congr fun field _ => ?_
    by_cases hf : field.1 = other
    · simp [hf, Ne.symm h]
    · simp [hf]

/-- Writing a name leaves it with the one value, and every other name alone. -/
theorem values_insert (headers : Headers) (name other : HeaderName) (value : HeaderValue) :
    (headers.insert name value).values other =
      if name = other then [value] else headers.values other := by
  rw [insert, values_append, values_erase]
  split <;> simp

theorem contains_eq (headers : Headers) (name : HeaderName) :
    headers.contains name = !(headers.values name).isEmpty := by
  simp only [contains, values, List.isEmpty_map]
  induction headers.fields with
  | nil => rfl
  | cons field rest ih => by_cases h : field.1 = name <;> simp_all

end Headers

end RpcBoundary
