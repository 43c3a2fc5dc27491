/-
# Patterns in normal form

Puts patterns together so that sequences and alternatives are flat, alternatives that are
single characters are a set, and what takes no character is not repeated.

What all of several alternatives begin with is taken out of them. This is more than a
matter of form, for it changes which way to find a pattern is preferred: if the common
part is a repetition, how often it is repeated comes first, and the alternative second.
-/

import RpcBoundary.Pattern.Basic

namespace RpcBoundary.Pattern

/-- The parts of a sequence. -/
def parts : Pattern → List Pattern
  | nothing => []
  | both first second => first.parts ++ second.parts
  | pattern => [pattern]

/-- The alternatives of a pattern. -/
def branches : Pattern → List Pattern
  | either first second => first.branches ++ second.branches
  | pattern => [pattern]

/-- Some parts one after another. -/
def ofParts : List Pattern → Pattern
  | [] => nothing
  | [part] => part
  | part :: others => both part (ofParts others)

/-- One of some alternatives. -/
def ofBranches : List Pattern → Pattern
  | [] => one .none
  | [branch] => branch
  | branch :: others => either branch (ofBranches others)

/-- A flat sequence of patterns. -/
def inSequence (patterns : List Pattern) : Pattern := ofParts (patterns.flatMap parts)

/-- Something repeated. What takes no character is repeated once at most. -/
def repeatedly (kind : Repetition) (modest : Bool) (inner : Pattern) : Pattern :=
  if inner.takesNone then
    if kind = .atLeastOnce then inner else repeated .atMostOnce modest inner
  else repeated kind modest inner

/-- The set of a pattern that is a single character. -/
def letter? : Pattern → Option CharSet
  | one set => if set.isSingle then some set else none
  | _ => none

/-- The set of a pattern that is a character of a set with none or several. -/
def choice? : Pattern → Option CharSet
  | one set => if set.isSingle then none else some set
  | _ => none

/-- The runs of a sequence: single characters that follow one another are one run, and
every other part is a run of its own. -/
def runs : List Pattern → List (List Pattern)
  | [] => []
  | part :: others =>
    match runs others with
    | (next :: more) :: rest =>
      if part.letter?.isSome && next.letter?.isSome then (part :: next :: more) :: rest
      else [part] :: (next :: more) :: rest
    | rest => [part] :: rest

/-- What two sequences of runs both begin with. -/
def common : List (List Pattern) → List (List Pattern) → List (List Pattern)
  | first :: others, second :: more => if first = second then first :: common others more else []
  | _, _ => []

/-- What all of some sequences of runs begin with. -/
def commonOfAll : List (List (List Pattern)) → List (List Pattern)
  | [] => []
  | first :: others => others.foldl common first

/-- One of some alternatives, of which none has alternatives itself. In so many steps,
what all of them begin with is taken out, unless one of them is a single run or nothing.
Each step takes a part from every alternative. -/
def oneOfIn : Nat → List Pattern → Pattern
  | 0, branches => ofBranches branches
  | n + 1, branches =>
    match branches with
    | [] => ofBranches []
    | [branch] => branch
    | branches =>
      match (branches.mapM letter?).or (branches.mapM choice?) with
      | some sets => one (sets.foldl CharSet.union .none)
      | none =>
        let sequences := branches.map fun branch => runs branch.parts
        let shared := commonOfAll sequences
        if shared.isEmpty || sequences.any (·.length < 2) then ofBranches branches
        else
          let rests := sequences.map fun sequence =>
            ofParts (sequence.drop shared.length).flatten
          inSequence (shared.flatten ++ [oneOfIn n (rests.flatMap Pattern.branches)])

/-- One of some alternatives. -/
def oneOf (patterns : List Pattern) : Pattern :=
  let flat := patterns.flatMap branches
  oneOfIn (flat.flatMap parts).length flat

end RpcBoundary.Pattern
