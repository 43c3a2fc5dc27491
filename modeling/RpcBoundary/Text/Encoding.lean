/-
# Bytes and numbers in letters

The forms in which ids, messages and details travel as text. Ids and single bytes are
written in hexadecimal digits. A status message goes into a header, which holds visible
ASCII only: every byte outside that range, and the characters that headers and addresses
give a meaning of their own, is written as a percent sign and two upper-case digits. The
details of a status are written in base 64 without padding: three bytes become four
letters of a sixty-four letter alphabet, and a rest of one or two bytes becomes two or
three letters with nothing after them.
-/

namespace RpcBoundary.Text

/-- The lower-case digit of a number below sixteen. -/
def hexDigit (n : Nat) : Char :=
  if n < 10 then Char.ofNat (0x30 + n) else Char.ofNat (0x57 + n)

/-- The lowest `count` hexadecimal digits of a number, highest first. -/
def hexDigits : Nat → Nat → List Nat
  | 0, _ => []
  | count + 1, n => hexDigits count (n / 16) ++ [n % 16]

/-- The digit of a number below sixteen, letters in upper case. -/
def upperDigit (n : Nat) : Char :=
  if n < 10 then Char.ofNat (0x30 + n) else Char.ofNat (0x37 + n)

/-- The visible characters that are encoded all the same. -/
def reservedInMessages : List Char :=
  [' ', '"', '#', '%', '<', '>', '\x60', '?', '\x7b', '\x7d']

/-- Whether a byte stands for itself in an encoded message. -/
def travelsPlain (byte : UInt8) : Bool :=
  0x20 ≤ byte && byte < 0x7f && !reservedInMessages.contains (Char.ofNat byte.toNat)

/-- One byte of an encoded message. -/
def percentByte (byte : UInt8) : List Char :=
  if travelsPlain byte then [Char.ofNat byte.toNat]
  else ['%', upperDigit (byte.toNat / 16), upperDigit (byte.toNat % 16)]

/-- The message as it travels: its UTF-8 bytes, each plain or encoded. -/
def percentEncode (message : String) : List Char :=
  message.toUTF8.toList.flatMap percentByte

/-- The letter for a number below sixty-four. -/
def sextetLetter (n : Nat) : Char :=
  if n < 26 then Char.ofNat (0x41 + n)
  else if n < 52 then Char.ofNat (0x61 + (n - 26))
  else if n < 62 then Char.ofNat (0x30 + (n - 52))
  else if n = 62 then '+'
  else '/'

/-- The letters that stand for the bytes. -/
def base64 : List UInt8 → List Char
  | [] => []
  | [a] =>
    let n := a.toNat * 16
    [sextetLetter (n / 64), sextetLetter (n % 64)]
  | [a, b] =>
    let n := (a.toNat * 256 + b.toNat) * 4
    [sextetLetter (n / 4096), sextetLetter (n / 64 % 64), sextetLetter (n % 64)]
  | a :: b :: c :: rest =>
    let n := (a.toNat * 256 + b.toNat) * 256 + c.toNat
    sextetLetter (n / 262144) :: sextetLetter (n / 4096 % 64) :: sextetLetter (n / 64 % 64) ::
      sextetLetter (n % 64) :: base64 rest

end RpcBoundary.Text
