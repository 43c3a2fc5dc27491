/-
# Quoted literals

The form in which a text is shown inside a log record or an error message: in
double quotes, with the quote and the backslash escaped, the common controls as
letters, and every character that cannot be shown alone by its number.
-/

import RpcBoundary.Text.Basic
import RpcBoundary.Text.Extending
import RpcBoundary.Text.Unprintable

namespace RpcBoundary.Text

/-- The letters that fill the place of a Hangul letter and leave it blank. -/
def isFiller (c : Char) : Bool :=
  c == '\u115f' || c == '\u1160' || c == '\u3164' || c == '\uffa0'

/-- Whether a character is shown as itself: it leaves a mark and does not attach
to the character before it. Of ASCII these are the space and all that follows it
up to the tilde. -/
def isShown (c : Char) : Bool :=
  if c.toNat < 0x80 then 0x20 ≤ c.toNat && c.toNat < 0x7f
  else !(inRanges unprintableRanges c.toNat || inRanges extendingRanges c.toNat || isFiller c)

/-- A character by its number: `\u`, then the lower-case hexadecimal digits in
braces. -/
def numbered (c : Char) : List Char :=
  ['\\', 'u', '\x7b'] ++ Nat.toDigits 16 c.toNat ++ ['\x7d']

/-- One character of a quoted literal. -/
def escaped (c : Char) : List Char :=
  match c with
  | '\x00' => ['\\', '0']
  | '\t' => ['\\', 't']
  | '\r' => ['\\', 'r']
  | '\n' => ['\\', 'n']
  | '\\' => ['\\', '\\']
  | '"' => ['\\', '"']
  | c => if isShown c then [c] else numbered c

/-- The text as a quoted literal. -/
def quoted (text : String) : String :=
  String.ofList ('"' :: text.toList.flatMap escaped ++ ['"'])

end RpcBoundary.Text
