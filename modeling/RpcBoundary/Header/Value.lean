/-
# Header values

A header value is a sequence of bytes. It can be read as text only if every byte
is visible ASCII, a space or a tab, and only such texts can be written as values.
`text?_of_ofText?` says that a written text is read back.
-/

namespace RpcBoundary

/-- The value of a header. -/
structure HeaderValue where
  bytes : List UInt8
  deriving DecidableEq

namespace HeaderValue

/-- Whether a character may stand in a readable value. -/
def isReadable (c : Char) : Bool :=
  c == '\t' || (0x20 ≤ c.toNat && c.toNat < 0x7f)

/-- The characters of a value, one for each byte. -/
def chars (value : HeaderValue) : List Char :=
  value.bytes.map fun byte => Char.ofNat byte.toNat

/-- A value from characters of one byte each. -/
def ofChars (chars : List Char) : HeaderValue :=
  ⟨chars.map fun c => c.toNat.toUInt8⟩

/-- The value as text, if it is readable. -/
def text? (value : HeaderValue) : Option String :=
  if value.chars.all isReadable then some (String.ofList value.chars) else none

/-- The value that says a text, if every character of it is readable. -/
def ofText? (text : String) : Option HeaderValue :=
  if text.toList.all isReadable then some (ofChars text.toList) else none

theorem ofNat_toNat_of_isReadable {c : Char} (h : isReadable c = true) :
    Char.ofNat c.toNat.toUInt8.toNat = c := by
  have small : c.toNat < 256 := by
    simp only [isReadable, Bool.or_eq_true, beq_iff_eq, Bool.and_eq_true, decide_eq_true_eq] at h
    rcases h with rfl | ⟨_, h⟩
    · decide
    · omega
  have : c.toNat.toUInt8.toNat = c.toNat := by
    simp only [Nat.toUInt8, UInt8.toNat_ofNat']
    omega
  rw [this, Char.ofNat_toNat]

/-- A text that has a value is what the value says. -/
theorem text?_of_ofText? {text : String} {value : HeaderValue} (h : ofText? text = some value) :
    value.text? = some text := by
  simp only [ofText?, Option.ite_none_right_eq_some, Option.some.injEq] at h
  obtain ⟨readable, rfl⟩ := h
  have same : (ofChars text.toList).chars = text.toList := by
    simp only [chars, ofChars, List.map_map]
    exact (List.map_congr_left fun c hc =>
      ofNat_toNat_of_isReadable (List.all_eq_true.1 readable c hc)).trans (List.map_id _)
  simp [text?, same, readable]

end HeaderValue

end RpcBoundary
