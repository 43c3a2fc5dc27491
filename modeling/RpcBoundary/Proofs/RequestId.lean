/-
# Request ids in headers

An id travels under a header, and two parts of the library look for it there: the log
of calls and the tagger. Both take the first value if it can be read and is not empty,
and otherwise mint an id and let it take the place of all values. `Headers.requestId?`,
`Headers.settledId` and `Headers.settled` state this rule once, `run_settleId` and
`run_tag` say that both follow it, and `requestId?_settled` that what is settled once
stays so. The last needs that every id that can be minted can be written and read.
-/

import RpcBoundary.Call.IdTagger
import RpcBoundary.Call.Log
import RpcBoundary.Proofs.Activity

namespace RpcBoundary

namespace RequestId

theorem lt_of_mem_hexDigits {count n digit : Nat} (member : digit ∈ Text.hexDigits count n) :
    digit < 16 := by
  induction count generalizing n with
  | zero => simp [Text.hexDigits] at member
  | succ count ih =>
      rw [Text.hexDigits, List.mem_append, List.mem_singleton] at member
      rcases member with higher | rfl
      · exact ih higher
      · exact Nat.mod_lt n (by decide)

/-- Version and variant are digits like the others. -/
theorem lt_of_mem_marked {digits : List Nat} (small : ∀ digit ∈ digits, digit < 16)
    {digit : Nat} (member : digit ∈ marked digits) : digit < 16 := by
  obtain ⟨i, inside, rfl⟩ := List.mem_iff_getElem.1 member
  simp only [marked, List.getElem_modify, List.getElem_set]
  split
  · omega
  · split
    · decide
    · exact small _ (List.getElem_mem _)

theorem isReadable_hexDigit :
    ∀ digit < 16, HeaderValue.isReadable (Text.hexDigit digit) = true := by
  decide

theorem mem_of_mem_grouped {digits : List Char} {c : Char} (member : c ∈ grouped digits) :
    c ∈ digits ∨ c = '-' := by
  have part (n k : Nat) (among : c ∈ (digits.drop n).take k) : c ∈ digits :=
    List.mem_of_mem_drop (List.mem_of_mem_take among)
  simp only [grouped, List.mem_append, List.mem_singleton] at member
  grind [List.mem_of_mem_take, List.mem_of_mem_drop]

/-- Every id that can be minted can stand in a header. -/
theorem all_isReadable_ofRandom (bits : BitVec 128) :
    (ofRandom bits).text.toList.all HeaderValue.isReadable = true := by
  rw [List.all_eq_true]
  intro c member
  rw [ofRandom, String.toList_ofList] at member
  rcases mem_of_mem_grouped member with isDigit | rfl
  · obtain ⟨digit, among, rfl⟩ := List.mem_map.1 isDigit
    exact isReadable_hexDigit digit (lt_of_mem_marked (fun _ h => lt_of_mem_hexDigits h) among)
  · decide

theorem ofText?_ofRandom (bits : BitVec 128) :
    ofText? (ofRandom bits).text = some (ofRandom bits) := by
  have dash : '-' ∈ (ofRandom bits).text.toList := by simp [ofRandom, grouped]
  rw [ofText?, if_neg]
  intro empty
  rw [String.isEmpty_iff] at empty
  rw [empty] at dash
  cases dash

theorem ofText?_eq_some_iff {text : String} {id : RequestId} :
    ofText? text = some id ↔ text = id.text ∧ id.text ≠ "" := by
  obtain ⟨own⟩ := id
  simp only [ofText?, Option.ite_none_left_eq_some, Option.some.injEq, mk.injEq,
    String.isEmpty_iff]
  constructor
  · rintro ⟨nonempty, rfl⟩
    exact ⟨rfl, nonempty⟩
  · rintro ⟨rfl, nonempty⟩
    exact ⟨nonempty, rfl⟩

end RequestId

theorem HeaderValue.toUInt8_toNat_ofNat (byte : UInt8) :
    (Char.ofNat byte.toNat).toNat.toUInt8 = byte := by
  have valid : byte.toNat.isValidChar := .inl (Nat.lt_trans byte.toNat_lt (by decide))
  rw [Char.ofNat, dif_pos valid]
  exact UInt8.ofNat_toNat

/-- A value that can be read can be written again, and it is the same value. -/
theorem HeaderValue.ofText?_of_text? {value : HeaderValue} {text : String}
    (readable : value.text? = some text) : ofText? text = some value := by
  obtain ⟨bytes⟩ := value
  simp only [text?, Option.ite_none_right_eq_some, Option.some.injEq] at readable
  obtain ⟨allReadable, rfl⟩ := readable
  rw [ofText?, String.toList_ofList, if_pos allReadable]
  simp [ofChars, chars, toUInt8_toNat_ofNat, Function.comp_def]

namespace Headers

variable {headers : Headers} {name : HeaderName}

@[simp]
theorem erase_append (headers : Headers) (name : HeaderName) (value : HeaderValue) :
    (headers.append name value).erase name = headers.erase name := by
  simp [erase, append]

/-- Writing a header leaves the headers of all other names as they are. -/
@[simp]
theorem erase_insert (headers : Headers) (name : HeaderName) (value : HeaderValue) :
    (headers.insert name value).erase name = headers.erase name := by
  rw [insert, erase_append]
  simp [erase]

/-- Headers that are the same without a name have the same values under every other one. -/
theorem values_eq_of_erase_eq {first second : Headers} {name other : HeaderName}
    (different : name ≠ other) (same : first.erase name = second.erase name) :
    first.values other = second.values other := by
  have erased := congrArg (fun headers => headers.values other) same
  rw [values_erase, values_erase, if_neg different, if_neg different] at erased
  exact erased

/-- The id that stands under a header: the first value, if it can be read and is not
empty. -/
def requestId? (headers : Headers) (name : HeaderName) : Option RequestId :=
  ((headers.get? name).bind HeaderValue.text?).bind RequestId.ofText?

/-- The id on which headers settle, given the one that would be minted next. -/
def settledId (headers : Headers) (name : HeaderName) (fresh : RequestId) : RequestId :=
  (headers.requestId? name).getD fresh

/-- The headers once their id is settled: unchanged if they have one, and otherwise with
the fresh one in place of all values of the header. -/
def settled (headers : Headers) (name : HeaderName) (fresh : RequestId) : Headers :=
  match headers.requestId? name with
  | some _ => headers
  | none => headers.insert name (.ofChars fresh.text.toList)

/-- How many ids are minted for the headers. -/
def minted (headers : Headers) (name : HeaderName) : Nat :=
  match headers.requestId? name with
  | some _ => 0
  | none => 1

section Held

variable {id : RequestId} (held : headers.requestId? name = some id) (fresh : RequestId)

include held

theorem settledId_of_requestId? : headers.settledId name fresh = id := by
  rw [settledId, held, Option.getD_some]

theorem settled_of_requestId? : headers.settled name fresh = headers := by
  rw [settled, held]

theorem minted_of_requestId? : headers.minted name = 0 := by
  rw [minted, held]

end Held

theorem requestId?_eq_some_iff {id : RequestId} :
    headers.requestId? name = some id ↔
      ∃ value, headers.get? name = some value ∧ value.text? = some id.text ∧ id.text ≠ "" := by
  simp only [requestId?, Option.bind_eq_some_iff, RequestId.ofText?_eq_some_iff]
  constructor
  · rintro ⟨text, ⟨value, first, readable⟩, rfl, nonempty⟩
    exact ⟨value, first, readable, nonempty⟩
  · rintro ⟨value, first, readable, nonempty⟩
    exact ⟨id.text, ⟨value, first, readable⟩, rfl, nonempty⟩

theorem requestId?_eq_none_iff :
    headers.requestId? name = none ↔
      ∀ value text, headers.get? name = some value → value.text? = some text → text = "" := by
  rw [Option.eq_none_iff_forall_ne_some]
  simp only [ne_eq, requestId?_eq_some_iff]
  constructor
  · intro missing value text first readable
    by_cases nonempty : text = ""
    · exact nonempty
    · exact absurd ⟨value, first, readable, nonempty⟩ (missing ⟨text⟩)
  · rintro unusable id ⟨value, first, readable, nonempty⟩
    exact nonempty (unusable value id.text first readable)

@[simp]
theorem get?_insert (headers : Headers) (name : HeaderName) (value : HeaderValue) :
    (headers.insert name value).get? name = some value := by
  simp [get?, values_insert]

theorem text?_ofChars_ofRandom (bits : BitVec 128) :
    (HeaderValue.ofChars (RequestId.ofRandom bits).text.toList).text? =
      some (RequestId.ofRandom bits).text := by
  apply HeaderValue.text?_of_ofText?
  rw [HeaderValue.ofText?, if_pos (RequestId.all_isReadable_ofRandom bits)]

theorem requestId?_insert_ofRandom (headers : Headers) (name : HeaderName) (bits : BitVec 128) :
    (headers.insert name (.ofChars (RequestId.ofRandom bits).text.toList)).requestId? name =
      some (.ofRandom bits) := by
  rw [requestId?, get?_insert, Option.bind_some, text?_ofChars_ofRandom, Option.bind_some,
    RequestId.ofText?_ofRandom]

/-- Settled headers have the id on which they settled. -/
theorem requestId?_settled (headers : Headers) (name : HeaderName) (bits : BitVec 128) :
    (headers.settled name (.ofRandom bits)).requestId? name =
      some (headers.settledId name (.ofRandom bits)) := by
  rw [settled, settledId]
  cases found : headers.requestId? name with
  | some id => exact found
  | none => exact requestId?_insert_ofRandom headers name bits

/-- Only the header of the id is touched when the id is settled. -/
theorem erase_settled (headers : Headers) (name : HeaderName) (fresh : RequestId) :
    (headers.settled name fresh).erase name = headers.erase name := by
  rw [settled]
  split
  · rfl
  · exact erase_insert headers name _

/-- How headers settle on an id, given the one that would be minted next. -/
inductive Settles (headers : Headers) (name : HeaderName) (fresh : RequestId) :
    RequestId → Headers → Nat → Prop
  /-- The first value can be read and is not empty, and then nothing is changed. -/
  | kept {id : RequestId} {first : HeaderValue} (isFirst : headers.get? name = some first)
      (readable : first.text? = some id.text) (nonempty : id.text ≠ "") :
      Settles headers name fresh id headers 0
  /-- The first value is of no use, and all values give way to the fresh id. -/
  | replaced {after : Headers} {value : HeaderValue}
      (useless : ∀ first text, headers.get? name = some first → first.text? = some text →
        text = "")
      (readable : value.text? = some fresh.text) (only : after.values name = [value])
      (others : after.erase name = headers.erase name) : Settles headers name fresh fresh after 1

theorem settles_settled (headers : Headers) (name : HeaderName) (bits : BitVec 128) :
    headers.Settles name (.ofRandom bits) (headers.settledId name (.ofRandom bits))
      (headers.settled name (.ofRandom bits)) (headers.minted name) := by
  rw [settledId, settled, minted]
  cases found : headers.requestId? name with
  | some id =>
      obtain ⟨first, isFirst, readable, nonempty⟩ := requestId?_eq_some_iff.1 found
      exact .kept isFirst readable nonempty
  | none =>
      have only := values_insert headers name name (.ofChars (RequestId.ofRandom bits).text.toList)
      rw [if_pos rfl] at only
      exact .replaced (requestId?_eq_none_iff.1 found) (text?_ofChars_ofRandom bits) only
        (erase_insert headers name _)

/-- Either the first value is the id and nothing is minted, or the first value is of no
use and the one id that is minted is the fresh one. -/
theorem settledId_cases (headers : Headers) (name : HeaderName) (fresh : RequestId) :
    (headers.minted name = 0 ∧ ∃ first, headers.get? name = some first ∧
        first.text? = some (headers.settledId name fresh).text ∧
        (headers.settledId name fresh).text ≠ "") ∨
      (headers.minted name = 1 ∧ headers.settledId name fresh = fresh ∧
        ∀ first text, headers.get? name = some first → first.text? = some text → text = "") := by
  rw [minted, settledId]
  cases found : headers.requestId? name with
  | some id => exact .inl ⟨rfl, requestId?_eq_some_iff.1 found⟩
  | none => exact .inr ⟨rfl, rfl, requestId?_eq_none_iff.1 found⟩

end Headers

namespace Surroundings

/-- The id that would be minted next. -/
def fresh (around : Surroundings) : RequestId := .ofRandom (around.random 0)

end Surroundings

/-- The log of calls settles the id of the headers. -/
theorem CallLog.run_settleId (header : HeaderName) (headers : Headers) (around : Surroundings) :
    (settleId header headers).run around =
      ⟨some (headers.settledId header around.fresh, headers.settled header around.fresh), [],
        headers.minted header⟩ := by
  rw [settleId, Headers.settledId, Headers.settled, Headers.minted, ← Headers.requestId?]
  cases headers.requestId? header with
  | some id => rfl
  | none =>
      have writable := RequestId.all_isReadable_ofRandom (around.random 0)
      rw [Activity.run_bind_of_silent (Activity.run_mint around), HeaderValue.ofText?,
        if_pos writable]
      rfl

/-- The tagger settles the id of the headers in the same way, and notes it in the
extensions whatever stood there. -/
theorem IdTagger.run_tag {α : Type} (tagger : IdTagger) (request : Request α)
    (around : Surroundings) :
    (tagger.tag request).run around =
      ⟨some ((request.withHeaders (request.headers.settled tagger.key around.fresh)).withId
        (request.headers.settledId tagger.key around.fresh)), [],
        request.headers.minted tagger.key⟩ := by
  have sent : tagger.sentId? request = request.headers.requestId? tagger.key := by
    rw [sentId?, Headers.requestId?, Option.bind_assoc]
    rfl
  rw [tag, sent, Headers.settledId, Headers.settled, Headers.minted]
  cases request.headers.requestId? tagger.key with
  | some id => rfl
  | none =>
      have writable := RequestId.all_isReadable_ofRandom (around.random 0)
      rw [Activity.run_bind_of_silent (Activity.run_mint around), HeaderValue.ofText?,
        if_pos writable]
      rfl

end RpcBoundary
