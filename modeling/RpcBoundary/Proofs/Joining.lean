/-
# Seams of joined texts

What a chain says is made of what its links say, with a colon and a blank between one
text and the next. Rules look for phrases in the whole, and a phrase might be found
there that no link has, or be missed because its text was left out. Neither happens to a
phrase without colons that does not begin with a blank: `infix_intercalate_iff` says that
it cannot touch a seam, and `infix_joinTexts_of_mem` that no text is lost, since one that
is left out stands in the others. A phrase with a colon and a blank inside may also be
made up by a seam, and `infix_intercalate_split_iff` says from which two texts.
-/

import Mathlib.Data.List.Basic
import RpcBoundary.Evidence
import RpcBoundary.Rule

namespace RpcBoundary

namespace Text

/-- What stands between two texts that are joined. -/
def seam : List Char := [':', ' ']

/-- A phrase that says something, has no colon and does not begin with a blank cannot
share a character with a seam. -/
structure IsSeamless (phrase : List Char) : Prop where
  nonempty : phrase ≠ []
  noColon : ':' ∉ phrase
  noBlank : phrase.head? ≠ some ' '

variable {phrase before after first rest : List Char} {parts : List (List Char)}

theorem IsSeamless.head?_ne_colon (seamless : IsSeamless phrase) : phrase.head? ≠ some ':' := by
  intro begins
  exact seamless.noColon (List.mem_of_head? begins)

theorem infix_seam_append_iff (nonempty : phrase ≠ []) (noColon : phrase.head? ≠ some ':')
    (noBlank : phrase.head? ≠ some ' ') : phrase <:+: seam ++ rest ↔ phrase <:+: rest := by
  obtain ⟨c, others, rfl⟩ := List.exists_cons_of_ne_nil nonempty
  rw [List.head?_cons, ne_eq, Option.some.injEq] at noColon noBlank
  simp only [seam, List.cons_append, List.nil_append, List.infix_cons_iff,
    List.cons_prefix_cons, noColon, noBlank, false_and, false_or]

/-- What reaches into a seam from the left takes its colon first. -/
theorem exists_colon_cons_of_prefix_seam (nonempty : phrase ≠ [])
    (reaches : phrase <+: seam ++ rest) :
    ∃ others, phrase = ':' :: others ∧ others <+: ' ' :: rest := by
  obtain ⟨c, others, rfl⟩ := List.exists_cons_of_ne_nil nonempty
  obtain ⟨rfl, further⟩ := List.cons_prefix_cons.1 reaches
  exact ⟨others, rfl, further⟩

theorem infix_append_seam_iff (seamless : IsSeamless phrase) :
    phrase <:+: first ++ (seam ++ rest) ↔ phrase <:+: first ∨ phrase <:+: rest := by
  rw [List.infix_append_iff_ne_nil,
    infix_seam_append_iff seamless.nonempty seamless.head?_ne_colon seamless.noBlank]
  refine or_congr_right (or_iff_left ?_)
  rintro ⟨left, right, -, nonempty, rfl, -, reaches⟩
  obtain ⟨others, rfl, -⟩ := exists_colon_cons_of_prefix_seam nonempty reaches
  exact seamless.noColon (by simp)

/-- A phrase with one colon, which a blank follows, stands on one side of a seam, or its
colon is that of the seam. -/
theorem infix_append_seam_split_iff (seamless : IsSeamless before) (noColon : ':' ∉ after) :
    before ++ (seam ++ after) <:+: first ++ (seam ++ rest) ↔
      before ++ (seam ++ after) <:+: first ∨ before ++ (seam ++ after) <:+: rest ∨
        before <:+ first ∧ after <+: rest := by
  have head : (before ++ (seam ++ after)).head? = before.head? :=
    List.head?_append_of_ne_nil _ seamless.nonempty
  rw [List.infix_append_iff_ne_nil, infix_seam_append_iff (by simp [seam])
    (head ▸ seamless.head?_ne_colon) (head ▸ seamless.noBlank)]
  refine or_congr_right (or_congr_right ?_)
  constructor
  · rintro ⟨left, right, -, nonempty, same, ends, reaches⟩
    obtain ⟨others, rfl, further⟩ := exists_colon_cons_of_prefix_seam nonempty reaches
    -- There is one colon only, so the two ways to divide the phrase are the same.
    have once : ':' ∉ ' ' :: after := by simpa using noColon
    obtain ⟨rfl, -, rfl⟩ := (List.append_cons_inj_of_notMem seamless.noColon once).1 same
    exact ⟨ends, (List.prefix_append_right_inj [' ']).1 further⟩
  · rintro ⟨ends, begins⟩
    exact ⟨before, seam ++ after, seamless.nonempty, by simp [seam], rfl, ends,
      (List.prefix_append_right_inj seam).2 begins⟩

/-- What has no colon does not reach beyond the first of joined texts. -/
theorem prefix_intercalate_cons_iff (noColon : ':' ∉ after) :
    after <+: seam.intercalate (first :: parts) ↔ after <+: first := by
  cases parts with
  | nil => rw [List.intercalate_singleton]
  | cons next others =>
      rw [List.intercalate_cons_cons, List.append_assoc]
      refine ⟨fun begins => ?_, List.prefix_append_of_prefix⟩
      rcases List.prefix_or_prefix_of_prefix begins (List.prefix_append first _) with
        within | ⟨more, rfl⟩
      · exact within
      · by_cases onlyFirst : more = []
        · simp [onlyFirst]
        · obtain ⟨others, rfl, -⟩ := exists_colon_cons_of_prefix_seam onlyFirst
            ((List.prefix_append_right_inj first).1 begins)
          exact absurd (by simp) noColon

theorem infix_intercalate_iff (seamless : IsSeamless phrase) :
    phrase <:+: seam.intercalate parts ↔ ∃ part ∈ parts, phrase <:+: part := by
  induction parts with
  | nil => simp [seamless.nonempty]
  | cons part others ih =>
      cases others with
      | nil => simp
      | cons next others =>
          rw [List.intercalate_cons_cons, List.append_assoc, infix_append_seam_iff seamless, ih]
          simp only [List.exists_mem_cons_iff]

theorem exists_neighbours_cons_cons_iff {α : Type} {p : α → α → Prop} {a b : α} {others : List α} :
    (∃ former latter, [former, latter] <:+: a :: b :: others ∧ p former latter) ↔
      p a b ∨ ∃ former latter, [former, latter] <:+: b :: others ∧ p former latter := by
  have neighbours (former latter : α) : [former, latter] <:+: a :: b :: others ↔
      former = a ∧ latter = b ∨ [former, latter] <:+: b :: others := by
    rw [List.infix_cons_iff]
    simp
  simp only [neighbours]
  constructor
  · rintro ⟨former, latter, ⟨rfl, rfl⟩ | further, holds⟩
    · exact .inl holds
    · exact .inr ⟨former, latter, further, holds⟩
  · rintro (holds | ⟨former, latter, further, holds⟩)
    · exact ⟨a, b, .inl ⟨rfl, rfl⟩, holds⟩
    · exact ⟨former, latter, .inr further, holds⟩

/-- A phrase with one colon, which a blank follows, stands in joined texts exactly if it
stands in one of them, or some text ends with what is before the colon and the next one
begins with what is after the blank. -/
theorem infix_intercalate_split_iff (seamless : IsSeamless before) (noColon : ':' ∉ after) :
    before ++ (seam ++ after) <:+: seam.intercalate parts ↔
      (∃ part ∈ parts, before ++ (seam ++ after) <:+: part) ∨
        ∃ former latter, [former, latter] <:+: parts ∧ before <:+ former ∧ after <+: latter := by
  induction parts with
  | nil => simp [seam]
  | cons part others ih =>
      cases others with
      | nil => simp [List.infix_cons_iff]
      | cons next others =>
          rw [List.intercalate_cons_cons, List.append_assoc,
            infix_append_seam_split_iff seamless noColon, ih, prefix_intercalate_cons_iff noColon,
            exists_neighbours_cons_cons_iff]
          simp only [List.exists_mem_cons_iff]
          -- What is left is the order of the cases.
          constructor
          · rintro (here | (later | further) | across)
            · exact .inl (.inl here)
            · exact .inl (.inr later)
            · exact .inr (.inr further)
            · exact .inr (.inl across)
          · rintro ((here | later) | across | further)
            · exact .inl here
            · exact .inr (.inl (.inl later))
            · exact .inr (.inr across)
            · exact .inr (.inl (.inr further))

end Text

namespace Links

/-- The causes that say something new, in their order, when so much has been said before
them. -/
def newTexts (said : String) : List String → List String
  | [] => []
  | cause :: causes =>
    if cause.isEmpty || Text.mentions said cause then newTexts said causes
    else cause :: newTexts (said ++ ": " ++ cause) causes

/-- The texts that are kept when texts are joined: the outermost one, and then those that
say something new. -/
def keptTexts : List String → List String
  | [] => []
  | outermost :: causes => outermost :: newTexts outermost causes

variable {said text : String} {texts causes : List String}

theorem foldl_extendText_eq_intercalate (said : String) (causes : List String) :
    causes.foldl extendText said = ": ".intercalate (said :: newTexts said causes) := by
  induction causes generalizing said with
  | nil => simp [newTexts]
  | cons cause causes ih =>
      rw [List.foldl_cons, ih, extendText, newTexts]
      split
      · rfl
      · rw [String.intercalate_cons_cons, String.intercalate_cons_append]

theorem joinTexts_eq_intercalate (texts : List String) :
    joinTexts texts = ": ".intercalate (keptTexts texts) := by
  cases texts with
  | nil => rfl
  | cons outermost causes => exact foldl_extendText_eq_intercalate outermost causes

/-- A text that has been mentioned is left out, and so is one that says nothing. -/
example : keptTexts ["load booking", "query failed", "", "query"] =
    ["load booking", "query failed"] := by
  rfl

theorem mem_of_mem_newTexts (kept : text ∈ newTexts said causes) : text ∈ causes := by
  induction causes generalizing said with
  | nil => cases kept
  | cons cause causes ih =>
      rw [newTexts] at kept
      split at kept
      · exact List.mem_cons_of_mem _ (ih kept)
      · rcases List.mem_cons.1 kept with rfl | later
        · exact List.mem_cons_self
        · exact List.mem_cons_of_mem _ (ih later)

theorem mem_of_mem_keptTexts (kept : text ∈ keptTexts texts) : text ∈ texts := by
  cases texts with
  | nil => cases kept
  | cons outermost causes =>
      rcases List.mem_cons.1 kept with rfl | later
      · exact List.mem_cons_self
      · exact List.mem_cons_of_mem _ (mem_of_mem_newTexts later)

theorem prefix_extendText (said cause : String) :
    said.toList <+: (extendText said cause).toList := by
  rw [extendText]
  split
  · exact List.prefix_rfl
  · simp [List.append_assoc]

theorem prefix_foldl_extendText (said : String) (causes : List String) :
    said.toList <+: (causes.foldl extendText said).toList := by
  induction causes generalizing said with
  | nil => exact List.prefix_rfl
  | cons cause causes ih => exact (prefix_extendText said cause).trans (ih _)

/-- A cause has been mentioned once it has been added or left out. -/
theorem infix_extendText (said cause : String) :
    cause.toList <:+: (extendText said cause).toList := by
  rw [extendText]
  split
  next leftOut =>
    rw [Bool.or_eq_true, Text.mentions, Text.occurs_iff] at leftOut
    rcases leftOut with silent | mentioned
    · rw [String.isEmpty_iff.1 silent]
      exact List.nil_infix
    · exact mentioned
  next => exact ⟨said.toList ++ ": ".toList, [], by simp⟩

theorem infix_foldl_extendText_of_mem (member : text ∈ causes) :
    text.toList <:+: (causes.foldl extendText said).toList := by
  induction causes generalizing said with
  | nil => cases member
  | cons cause causes ih =>
      rcases List.mem_cons.1 member with rfl | later
      · exact (infix_extendText said text).trans (prefix_foldl_extendText _ causes).isInfix
      · exact ih later

theorem infix_joinTexts_of_mem (member : text ∈ texts) :
    text.toList <:+: (joinTexts texts).toList := by
  cases texts with
  | nil => cases member
  | cons outermost causes =>
      rcases List.mem_cons.1 member with rfl | later
      · exact (prefix_foldl_extendText text causes).isInfix
      · exact infix_foldl_extendText_of_mem later

theorem toList_joinTexts (texts : List String) :
    (joinTexts texts).toList = Text.seam.intercalate ((keptTexts texts).map String.toList) := by
  rw [joinTexts_eq_intercalate, String.toList_intercalate]
  rfl

theorem infix_joinTexts_iff {phrase : List Char} (seamless : Text.IsSeamless phrase) :
    phrase <:+: (joinTexts texts).toList ↔ ∃ text ∈ texts, phrase <:+: text.toList := by
  constructor
  · rw [toList_joinTexts, Text.infix_intercalate_iff seamless]
    rintro ⟨part, member, found⟩
    obtain ⟨text, kept, rfl⟩ := List.mem_map.1 member
    exact ⟨text, mem_of_mem_keptTexts kept, found⟩
  · rintro ⟨text, member, found⟩
    exact found.trans (infix_joinTexts_of_mem member)

/-- A phrase with one colon, which a blank follows, is found in joined texts exactly if it
is found in one of them, or two neighbours among the kept texts make it up. -/
theorem infix_joinTexts_split_iff {before after : List Char} (seamless : Text.IsSeamless before)
    (noColon : ':' ∉ after) :
    before ++ (Text.seam ++ after) <:+: (joinTexts texts).toList ↔
      (∃ text ∈ texts, before ++ (Text.seam ++ after) <:+: text.toList) ∨
        ∃ former latter, [former, latter] <:+: keptTexts texts ∧
          before <:+ former.toList ∧ after <+: latter.toList := by
  constructor
  · rw [toList_joinTexts, Text.infix_intercalate_split_iff seamless noColon]
    rintro (⟨part, member, found⟩ | ⟨former, latter, neighbours, ends, begins⟩)
    · obtain ⟨text, kept, rfl⟩ := List.mem_map.1 member
      exact .inl ⟨text, mem_of_mem_keptTexts kept, found⟩
    · obtain ⟨pair, kept, same⟩ := List.infix_map_iff.1 neighbours
      obtain ⟨former, latter, rfl⟩ : ∃ former latter, pair = [former, latter] := by
        rw [← List.length_eq_two, ← List.length_map String.toList, ← same]
        rfl
      cases same
      exact .inr ⟨former, latter, kept, ends, begins⟩
  · rintro (⟨text, member, found⟩ | ⟨former, latter, neighbours, ends, begins⟩)
    · exact found.trans (infix_joinTexts_of_mem member)
    · rw [toList_joinTexts, Text.infix_intercalate_split_iff seamless noColon]
      exact .inr ⟨former.toList, latter.toList, neighbours.map String.toList, ends, begins⟩

end Links

/-- Joining the texts of a chain neither makes up nor loses a phrase that says something,
has no colon and does not begin with a blank: the whole mentions it exactly if one of the
first sixty-four links does. All phrases of the rules are of this sort but one, which the
whole mentions exactly if one of these links does, or one of the kept texts ends with its
first word and the next one begins with the rest. The kept texts are those of which the
whole is made: the outermost one, and each that says something new. -/
theorem mentions_ofChain_iff (typeName : String) (chain : Chain) :
    let texts := (chain.take 64).map Link.text
    let whole := (Evidence.ofChain typeName chain).text
    (∀ phrase : String, phrase ≠ "" → ':' ∉ phrase.toList → phrase.toList.head? ≠ some ' ' →
      (phrase.toList <:+: whole.toList ↔ ∃ text ∈ texts, phrase.toList <:+: text.toList)) ∧
    (∀ rule ∈ Rule.table, ∀ phrase ∈ rule.phrases, phrase ≠ "driver: bad connection" →
      phrase ≠ "" ∧ ':' ∉ phrase.toList ∧ phrase.toList.head? ≠ some ' ') ∧
    ("driver: bad connection".toList <:+: whole.toList ↔
      (∃ text ∈ texts, "driver: bad connection".toList <:+: text.toList) ∨
        ∃ former latter, [former, latter] <:+: Links.keptTexts texts ∧
          "driver".toList <:+ former.toList ∧ "bad connection".toList <+: latter.toList) ∧
    whole = ": ".intercalate (Links.keptTexts texts) := by
  intro texts whole
  refine ⟨?_, by decide, ?_, Links.joinTexts_eq_intercalate texts⟩
  · intro phrase nonempty noColon noBlank
    exact Links.infix_joinTexts_iff ⟨by simpa using nonempty, noColon, noBlank⟩
  · have divided : "driver: bad connection".toList =
        "driver".toList ++ (Text.seam ++ "bad connection".toList) := by decide
    rw [divided]
    exact Links.infix_joinTexts_split_iff ⟨by decide, by decide, by decide⟩ (by decide)

/-- Two links make up the phrase that neither has, and a text that is left out is still
mentioned. -/
theorem mentions_ofChain_iff_of_bad_driver :
    let chain : Chain := .finite [.plain "no driver", .plain "bad connection pool", .plain "pool"]
    let texts := (chain.take 64).map Link.text
    let whole := (Evidence.ofChain "anyhow::Error" chain).text
    ("pool" ≠ "" ∧ ':' ∉ "pool".toList ∧ "pool".toList.head? ≠ some ' ') ∧
      "pool".toList <:+: whole.toList ∧ "driver: bad connection".toList <:+: whole.toList ∧
      ¬ ∃ text ∈ texts, "driver: bad connection".toList <:+: text.toList := by
  intro chain texts whole
  have phrase : "pool" ≠ "" ∧ ':' ∉ "pool".toList ∧ "pool".toList.head? ≠ some ' ' := by decide
  have same : texts = ["no driver", "bad connection pool", "pool"] := rfl
  obtain ⟨mentions, -, splits, -⟩ := mentions_ofChain_iff "anyhow::Error" chain
  refine ⟨phrase, ?_, ?_, ?_⟩
  · apply (mentions "pool" phrase.1 phrase.2.1 phrase.2.2).2
    exact ⟨"pool", by simp [chain, Link.text], List.infix_rfl⟩
  · refine splits.2 (.inr ⟨"no driver", "bad connection pool", ⟨[], [], rfl⟩, ?_, ?_⟩)
    · exact ⟨"no ".toList, by decide⟩
    · exact ⟨" pool".toList, by decide⟩
  · simp only [same, ← Text.occurs_iff]
    decide

end RpcBoundary
