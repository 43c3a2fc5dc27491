/-
# Bounded walks along a chain

Whoever looks for something in a chain of causes looks at its first sixty-four
links and no further, so that a chain that leads back to itself does no harm.
`Links` is such a walk under way. `toList` is what it still has to visit, and
everything that is asked of a chain is asked of that list.
-/

import RpcBoundary.Chain
import RpcBoundary.Text.Basic

namespace RpcBoundary

/-- A walk along a chain: where it stands, and how many links it may still visit. -/
structure Links where
  /-- The chain from where the walk stands. -/
  rest : Chain
  /-- How many links may still be visited. -/
  remaining : Nat

namespace Links

/-- The greatest number of links that are looked at. -/
def maxDepth : Nat := 64

/-- The walk along a chain from its first link. -/
def ofChain (chain : Chain) : Links := ⟨chain, maxDepth⟩

/-- The walk that visits nothing. -/
def empty : Links := ⟨Chain.empty, 0⟩

/-- The next link and the walk from there on; nothing once the walk is over. -/
def next? (links : Links) : Option (Link × Links) :=
  match links.remaining with
  | 0 => none
  | n + 1 => links.rest.uncons.map fun (head, rest) => (head, ⟨rest, n⟩)

/-- The links that the walk has still to visit, in order. -/
def toList (links : Links) : List Link := links.rest.take links.remaining

/-- The first status that the walk meets. -/
def status? (links : Links) : Option Status := links.toList.findSome? Link.status?

/-- The first interrupting condition that the walk meets. -/
def interruption? (links : Links) : Option Interruption :=
  links.toList.findSome? Link.interruption?

/-- Adds the text of a cause to what has been said so far, after a colon. A cause
that says nothing, or nothing new, is left out. -/
def extendText (text cause : String) : String :=
  if cause.isEmpty || Text.mentions text cause then text else text ++ ": " ++ cause

/-- The text of the first link, extended by that of each later one. -/
def joinTexts : List String → String
  | [] => ""
  | outermost :: causes => causes.foldl extendText outermost

/-- All that the links of the walk say, in one text. -/
def flatten (links : Links) : String := joinTexts (links.toList.map Link.text)

@[simp]
theorem toList_ofChain (chain : Chain) : (ofChain chain).toList = chain.take maxDepth := rfl

@[simp]
theorem toList_empty : empty.toList = [] := rfl

/-- One step takes the first of the links that are left. -/
theorem toList_eq (links : Links) :
    links.toList =
      match links.next? with
      | none => []
      | some (head, rest) => head :: rest.toList := by
  obtain ⟨rest, remaining⟩ := links
  cases remaining with
  | zero => rfl
  | succ n => cases h : rest.uncons <;> simp [toList, Chain.take, next?, h]

end Links

end RpcBoundary
