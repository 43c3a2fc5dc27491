/-
# Request ids

Every call carries an id, so that its log records can be found again. An id that
the caller sent is kept as it is; where there is none, one is minted from random
bits in the common textual form of a random unique identifier.
-/

import RpcBoundary.Text.Encoding

namespace RpcBoundary

/-- The id of a call. -/
structure RequestId where
  text : String
  deriving DecidableEq

namespace RequestId

/-- The id that a caller sent, unless it is the empty text. -/
def ofText? (text : String) : Option RequestId :=
  if text.isEmpty then none else some ⟨text⟩

/-- The digits with the version, four, in the thirteenth place and the variant in
the two highest bits of the seventeenth. -/
def marked (digits : List Nat) : List Nat :=
  (digits.set 12 4).modify 16 fun digit => 8 + digit % 4

/-- The digits in groups of eight, four, four, four and the rest, with dashes
between them. -/
def grouped (digits : List Char) : List Char :=
  digits.take 8 ++ ['-'] ++ (digits.drop 8).take 4 ++ ['-'] ++ (digits.drop 12).take 4 ++
    ['-'] ++ (digits.drop 16).take 4 ++ ['-'] ++ digits.drop 20

/-- The id made of 128 random bits, of which six are overwritten by version and
variant. -/
def ofRandom (bits : BitVec 128) : RequestId :=
  ⟨String.ofList (grouped ((marked (Text.hexDigits 32 bits.toNat)).map Text.hexDigit))⟩

end RequestId

end RpcBoundary
