/-
# The meaning of written patterns

What a written pattern describes depends on the modes in which it is understood, and
these can change within it. As long as the mode of wide characters is on, sets by letter
and letters without case are refused, since they would need the tables of all scripts;
when it is off, whatever is not a whole character of its own is refused.
-/

import RpcBoundary.Pattern.Normal
import RpcBoundary.Pattern.Reader

namespace RpcBoundary.Pattern

/-- The modes in which a pattern is understood. -/
structure Modes where
  /-- Whether letters mean both cases. -/
  caseless : Bool
  /-- Whether assertions on the beginning and end are about lines. -/
  lines : Bool
  /-- Whether the dot means the end of a line as well. -/
  dotAll : Bool
  /-- Whether repetitions are modest just if they are not marked so. -/
  swapped : Bool
  /-- Whether characters and words are those of all scripts. -/
  unicode : Bool
  /-- Whether a carriage return ends a line too. -/
  returns : Bool

namespace Modes

/-- The modes at the beginning of a pattern. -/
def initial : Modes := ⟨false, false, false, false, true, false⟩

/-- The modes after some changes. -/
def changed (modes : Modes) (changes : ModeChanges) : Modes where
  caseless := (changes.setting? .caseless).getD modes.caseless
  lines := (changes.setting? .lines).getD modes.lines
  dotAll := (changes.setting? .dotAll).getD modes.dotAll
  swapped := (changes.setting? .swapped).getD modes.swapped
  unicode := (changes.setting? .unicode).getD modes.unicode
  returns := (changes.setting? .returns).getD modes.returns

/-- An assertion as it is understood. -/
def assertion (modes : Modes) (kind : AssertionKind) : Assertion :=
  let word (narrow : Assertion) : Assertion := if modes.unicode then .wideBoundary else narrow
  match kind with
  | .lineStart =>
    if !modes.lines then .textStart else if modes.returns then .returnStart else .lineStart
  | .lineEnd =>
    if !modes.lines then .textEnd else if modes.returns then .returnEnd else .lineEnd
  | .textStart => .textStart
  | .textEnd => .textEnd
  | .boundary => word .boundary
  | .noBoundary => word .noBoundary
  | .wordStart => word .wordStart
  | .wordEnd => word .wordEnd

/-- What a dot means: any character, or any that does not end a line. -/
def dot (modes : Modes) : CharSet :=
  if modes.dotAll then CharSet.none.complement
  else if modes.returns then CharSet.complement ⟨[(0xa, 0xa), (0xd, 0xd)]⟩
  else (CharSet.single '\n').complement

/-- Refuses a set that holds parts of characters only. -/
def whole (modes : Modes) (extent : Extent) (set : CharSet) : Except Located CharSet :=
  if modes.unicode || set.isAscii then .ok set
  else .error (Flaw.brokenCharacters.on extent)

/-- A letter within a set. -/
def member (modes : Modes) (letter : Letter) : Except Located Nat :=
  if modes.unicode || letter.char.toNat < 0x80 then .ok letter.char.toNat
  else if letter.isByte then .error (Flaw.brokenCharacters.on letter.extent)
  else .error (Flaw.beyondBytes.on letter.extent)

/-- A letter on its own. -/
def letter (modes : Modes) (letter : Letter) : Except Located CharSet :=
  if modes.unicode then
    if modes.caseless then .error (Flaw.wideCase.on letter.extent)
    else .ok (.single letter.char)
  else if letter.isByte && 0x80 ≤ letter.char.toNat then
    .error (Flaw.brokenCharacters.on letter.extent)
  else if modes.caseless then .ok (CharSet.single letter.char).caseless
  else .ok (.single letter.char)

end Modes

namespace ShortSet

/-- The characters of a set that is named by a letter. -/
def chars : ShortSet → CharSet
  | digit => ⟨[(0x30, 0x39)]⟩
  | blank => ⟨[(0x9, 0xd), (0x20, 0x20)]⟩
  | word => ⟨[(0x30, 0x39), (0x41, 0x5a), (0x5f, 0x5f), (0x61, 0x7a)]⟩

end ShortSet

namespace SetOperation

/-- The result of the operation. -/
def apply : SetOperation → CharSet → CharSet → CharSet
  | intersection => CharSet.intersection
  | difference => CharSet.difference
  | symmetricDifference => CharSet.symmetricDifference

end SetOperation

mutual

/-- Whether a set has characters or ranges of its own, not only further brackets. -/
def SetTree.hasLetters : SetTree → Bool
  | .letter _ => true
  | .range _ _ _ => true
  | .union _ items => SetTree.anyHasLetters items
  | _ => false

/-- Whether one of the sets has characters or ranges of its own. -/
def SetTree.anyHasLetters : List SetTree → Bool
  | [] => false
  | item :: others => item.hasLetters || SetTree.anyHasLetters others

end

/-- A set with both cases of its letters, if letters mean both. -/
def Modes.folded (modes : Modes) (tree : SetTree) (set : CharSet) : Except Located CharSet :=
  if !modes.caseless then .ok set
  else if !modes.unicode then .ok set.caseless
  else if tree.hasLetters then .error (Flaw.wideCase.on tree.extent)
  else .ok set

mutual

/-- The characters that are in a written set. -/
def SetTree.meaning (modes : Modes) : SetTree → Except Located CharSet
  | .empty _ => .ok .none
  | .letter written => do
    let point ← modes.member written
    return ⟨[(point, point)]⟩
  | .range _ first last => do
    let first ← modes.member first
    let last ← modes.member last
    return ⟨[(first, last)]⟩
  | .named extent ranges negated =>
    if modes.caseless && modes.unicode then .error (Flaw.wideCase.on extent)
    else
      let set : CharSet := if modes.caseless then CharSet.caseless ⟨ranges⟩ else ⟨ranges⟩
      modes.whole extent (if negated then set.complement else set)
  | .short extent set negated =>
    if modes.unicode then .error (Flaw.wideSet.on extent)
    else modes.whole extent (if negated then set.chars.complement else set.chars)
  | .property extent =>
    .error ((if modes.unicode then Flaw.propertyUnknown else Flaw.beyondBytes).on extent)
  | .bracketed extent negated inner => do
    let set ← inner.meaning modes
    if modes.caseless && modes.unicode && inner.hasLetters then
      .error (Flaw.wideCase.on extent)
    else
      let set := if modes.caseless && !modes.unicode then set.caseless else set
      modes.whole extent (if negated then set.complement else set)
  | .union _ items => SetTree.unionMeaning modes items
  | .operation _ kind first second => do
    let firstSet ← first.meaning modes
    let secondSet ← second.meaning modes
    let secondSet ← modes.folded second secondSet
    let firstSet ← modes.folded first firstSet
    return kind.apply firstSet secondSet

/-- The characters that are in one of some written sets. -/
def SetTree.unionMeaning (modes : Modes) : List SetTree → Except Located CharSet
  | [] => .ok .none
  | item :: others => do
    let set ← item.meaning modes
    let rest ← SetTree.unionMeaning modes others
    return set.union rest

end

mutual

/-- What a written pattern describes, and the modes behind it. -/
def Tree.meaning (modes : Modes) : Tree → Except Located (Pattern × Modes)
  | .empty _ => .ok (.nothing, modes)
  | .modes _ changes => .ok (.nothing, modes.changed changes)
  | .letter written => do return (.one (← modes.letter written), modes)
  | .dot extent =>
    if modes.unicode then .ok (.one modes.dot, modes)
    else .error (Flaw.brokenCharacters.on extent)
  | .assertion _ kind => .ok (.place (modes.assertion kind), modes)
  | .set tree => do return (.one (← tree.meaning modes), modes)
  | .repetition _ kind modest inner => do
    let (pattern, modes) ← inner.meaning modes
    return (repeatedly kind (modest != modes.swapped) pattern, modes)
  | .group _ number changes inner => do
    let (pattern, _) ← inner.meaning (modes.changed changes)
    return (number.elim pattern fun number => .group number pattern, modes)
  | .alternatives _ branches => do
    let (patterns, modes) ← Tree.meanings modes branches
    return (oneOf patterns, modes)
  | .sequence _ parts => do
    let (patterns, modes) ← Tree.meanings modes parts
    return (inSequence patterns, modes)

/-- What some written patterns describe, where each is understood in the modes behind the
one before it, and the modes behind the last one. -/
def Tree.meanings (modes : Modes) : List Tree → Except Located (List Pattern × Modes)
  | [] => .ok ([], modes)
  | tree :: others => do
    let (pattern, modes) ← tree.meaning modes
    let (patterns, modes) ← Tree.meanings modes others
    return (pattern :: patterns, modes)

end

/-- Whether the words of all scripts are asked for somewhere. -/
def asksForWideBoundary : Pattern → Bool
  | .nothing => false
  | .one _ => false
  | .place assertion => assertion == .wideBoundary
  | .both first second => asksForWideBoundary first || asksForWideBoundary second
  | .either first second => asksForWideBoundary first || asksForWideBoundary second
  | .repeated _ _ inner => asksForWideBoundary inner
  | .further _ inner => asksForWideBoundary inner
  | .group _ inner => asksForWideBoundary inner

/-- The pattern that a text spells. -/
def ofText (text : List Char) : Except Error Pattern :=
  match Tree.ofText text >>= Tree.meaning .initial with
  | .error found => .error (.flawed text found)
  | .ok (pattern, _) => if asksForWideBoundary pattern then .error .wideBoundary else .ok pattern

end RpcBoundary.Pattern
