/-
# Documents that make choices

Settings can be chosen in a program or in a document, and either way what is left open is as
usual. A document that gives each chosen setting once, in any order and between members that
are no settings, makes the same choices (`Choices.ofDocument_of_spelledBy`). It is read from
left to right, and `Choices.only` is how far it has come: the choices of the settings that were
met so far. One more member adds the choice that it spells (`Choices.takeMember_only`).

A document that lists its values by position is one that names them, as long as there are no
more values than settings (`Choices.ofDocument_array`).

In the other direction, a document from which choices are made has named each setting once at
most, and with a value that the setting takes (`Choices.values_of_ofDocument`). Otherwise there
are no choices at all, whatever else is there.
-/

import Mathlib
import RpcBoundary.Proofs.MilestoneSet
import RpcBoundary.Settings.Decode

namespace RpcBoundary

namespace Decoded

variable {α β : Type}

/-- What is done in two steps succeeds exactly if both of them do. -/
theorem bind_eq_ok_iff {first : Decoded α} {second : α → Decoded β} {result : β} :
    first >>= second = .ok result ↔ ∃ value, first = .ok value ∧ second value = .ok result := by
  cases first with
  | error error =>
      refine iff_of_false (by rintro ⟨⟩) ?_
      rintro ⟨value, isValue, -⟩
      cases isValue
  | ok value =>
      constructor
      · intro succeeded
        exact ⟨value, rfl, succeeded⟩
      · rintro ⟨_, ⟨⟩, succeeded⟩
        exact succeeded

theorem mapM_eq_ok_iff {decode : α → Decoded β} {items : List α} {values : List β} :
    items.mapM decode = .ok values ↔
      List.Forall₂ (fun item value => decode item = .ok value) items values := by
  induction items generalizing values with
  | nil =>
      rw [List.mapM_nil, List.forall₂_nil_left_iff]
      constructor
      · rintro ⟨⟩
        rfl
      · rintro rfl
        rfl
  | cons item items ih =>
      rw [List.mapM_cons, bind_eq_ok_iff, List.forall₂_cons_left_iff]
      apply exists_congr
      intro value
      rw [bind_eq_ok_iff]
      constructor
      · rintro ⟨isValue, rest, isRest, ⟨⟩⟩
        exact ⟨rest, isValue, ih.1 isRest, rfl⟩
      · rintro ⟨rest, isValue, isRest, rfl⟩
        exact ⟨isValue, rest, ih.2 isRest, rfl⟩

end Decoded

namespace Document

variable {α : Type} {document : Document}

/-- A value that goes by a name is written as the name, or as an object that has nothing under
the name. -/
inductive Names (key : α → String) (value : α) : Document → Prop
  | alone : Names key value (.string (some (key value)))
  | member : Names key value (.object [(some (key value), .null)] true)

theorem mismatch_ne_ok {expected : String} {value : α} :
    document.mismatch expected ≠ .ok value := by
  intro succeeded
  obtain ⟨found, -, failed⟩ := Decoded.bind_eq_ok_iff.1 succeeded
  cases failed

theorem decodeText_eq_ok_iff {text : String} :
    document.decodeText = .ok text ↔ document = .string (some text) := by
  constructor
  · intro decoded
    rw [Document.decodeText.eq_def] at decoded
    split at decoded
    · cases decoded
      rfl
    · exact absurd decoded mismatch_ne_ok
  · rintro rfl
    rfl

theorem eq_null_of_decodeNothing (decoded : document.decodeNothing = .ok ()) :
    document = .null := by
  rw [decodeNothing.eq_def] at decoded
  split at decoded
  · rfl
  · exact absurd decoded mismatch_ne_ok

theorem key_of_decodeName {all : List α} {key : α → String} {name : String} {value : α}
    (decoded : decodeName all key name = .ok value) : key value = name := by
  rw [decodeName] at decoded
  split at decoded
  · next found isFound =>
      cases decoded
      have same := List.find?_some isFound
      exact eq_of_beq same
  · cases decoded

theorem decodeNamed_eq_ok_iff {all : List α} {key : α → String}
    (known : ∀ value, decodeName all key (key value) = .ok value) {value : α} :
    decodeNamed all key document = .ok value ↔ document.Names key value := by
  constructor
  · intro decoded
    rw [decodeNamed.eq_def] at decoded
    split at decoded
    · rw [← key_of_decodeName decoded]
      exact .alone
    · obtain ⟨named, isNamed, decoded⟩ := Decoded.bind_eq_ok_iff.1 decoded
      obtain ⟨⟨⟩, isNothing, decoded⟩ := Decoded.bind_eq_ok_iff.1 decoded
      split at decoded
      · next ends =>
          cases decoded
          rw [Bool.and_eq_true, List.isEmpty_iff] at ends
          rw [← key_of_decodeName isNamed, eq_null_of_decodeNothing isNothing, ends.1, ends.2]
          exact .member
      · cases decoded
    · cases decoded
  · rintro (_ | _)
    · exact known value
    · rw [decodeNamed, known]
      rfl

theorem decodeMilestones_eq_ok_iff {set : Milestones} :
    document.decodeMilestones = .ok set ↔ ∃ items milestones, document = .array items true ∧
      List.Forall₂ (fun item milestone => item.Names Milestone.key milestone) items milestones ∧
      Milestones.ofList milestones = set := by
  have known (milestone : Milestone) :
      decodeName Milestone.all Milestone.key milestone.key = .ok milestone := by
    cases milestone <;> rfl
  constructor
  · intro decoded
    rw [decodeMilestones.eq_def] at decoded
    split at decoded
    · next items closed =>
        obtain ⟨milestones, isList, decoded⟩ := Decoded.bind_eq_ok_iff.1 decoded
        split at decoded
        · next isClosed =>
            cases decoded
            refine ⟨items, milestones, by rw [isClosed], ?_, rfl⟩
            exact (Decoded.mapM_eq_ok_iff.1 isList).imp fun _ _ => (decodeNamed_eq_ok_iff known).1
        · cases decoded
    · exact absurd decoded mismatch_ne_ok
  · rintro ⟨items, milestones, rfl, named, rfl⟩
    have isList : items.mapM (decodeNamed Milestone.all Milestone.key) = .ok milestones :=
      Decoded.mapM_eq_ok_iff.2 (named.imp fun _ _ => (decodeNamed_eq_ok_iff known).2)
    rw [decodeMilestones, isList]
    rfl

theorem decodeLogFormat_eq_ok_iff {format : LogFormat} :
    document.decodeLogFormat = .ok format ↔ document.Names LogFormat.key format := by
  apply decodeNamed_eq_ok_iff
  intro format
  cases format <;> rfl

end Document

namespace SettingName

variable {setting : SettingName} {members : List (Option String × Document)}

/-- The values that an object gives under the name of the setting, in their order. -/
def values (setting : SettingName) (members : List (Option String × Document)) : List Document :=
  (members.filter fun member => member.1 = some setting.key).map Prod.snd

/-- The members that name the settings in their order and have these values. -/
def membersOf (items : List Document) : List (Option String × Document) :=
  all.zipWith (fun setting item => (some setting.key, item)) items

theorem ofKey?_key (setting : SettingName) : ofKey? setting.key = some setting := by
  cases setting <;> rfl

theorem eq_of_key_eq {one other : SettingName} (same : one.key = other.key) : one = other := by
  apply Option.some.inj
  rw [← ofKey?_key one, ← ofKey?_key other, same]

theorem key_eq_of_ofKey? {name : String} (found : ofKey? name = some setting) :
    setting.key = name := by
  have same := List.find?_some found
  exact eq_of_beq same

theorem values_cons (setting : SettingName) (member : Option String × Document)
    (members : List (Option String × Document)) :
    setting.values (member :: members) = setting.values [member] ++ setting.values members := by
  rw [values, ← List.singleton_append, List.filter_append, List.map_append]
  rfl

theorem values_singleton (setting other : SettingName) (value : Document) :
    setting.values [(some other.key, value)] = if setting = other then [value] else [] := by
  by_cases same : setting = other
  · rw [if_pos same, same, values, List.filter_singleton, decide_eq_true rfl]
    rfl
  · have differs : (some other.key : Option String) ≠ some setting.key := fun sameName =>
      same (eq_of_key_eq (Option.some.inj sameName).symm)
    rw [if_neg same, values, List.filter_singleton, decide_eq_false differs]
    rfl

/-- A member under another name gives no value for any setting. -/
theorem values_singleton_of_ne {member : Option String × Document}
    (other : member.1 ≠ some setting.key) : setting.values [member] = [] := by
  rw [values, List.filter_singleton, decide_eq_false other]
  rfl

end SettingName

namespace Choices

/-- The document is what the choices have for the setting. Of milestones it may give any list
that has those of the set as its members. -/
inductive Spells (choices : Choices) : SettingName → Document → Prop
  | requestIdHeader {text : String} (chosen : choices.requestIdHeader = some text) :
      Spells choices .requestIdHeader (.string (some text))
  | milestones {items : List Document} {milestones : List Milestone} {set : Milestones}
      (named : List.Forall₂ (fun item milestone => item.Names Milestone.key milestone)
        items milestones)
      (chosen : choices.milestones = some set) (made : set.IsMade)
      (sameMembers : ∀ milestone, set.contains milestone = true ↔ milestone ∈ milestones) :
      Spells choices .milestones (.array items true)
  | logFilter {text : String} (chosen : choices.logFilter = some text) :
      Spells choices .logFilter (.string (some text))
  | logFormat {document : Document} {format : LogFormat}
      (named : document.Names LogFormat.key format) (chosen : choices.logFormat = some format) :
      Spells choices .logFormat document

end Choices

/-- The document is of the type of the setting: it spells some choice of it. -/
def SettingName.Takes (setting : SettingName) (value : Document) : Prop :=
  ∃ choices : Choices, choices.Spells setting value

namespace Choices

variable {choices next last : Choices} {setting : SettingName} {value : Document}
  {member : Option String × Document} {members : List (Option String × Document)}

/-- A member that is no setting, but has a name and is read to its end. -/
structure IsPassedOver (member : Option String × Document) : Prop where
  noSetting : ∀ setting : SettingName, member.1 ≠ some setting.key
  named : member.1 ≠ none
  whole : member.2.isWhole = true

/-- The members of an object make exactly these choices: each setting that is chosen is given
once, no other setting is given, and the rest is passed over. -/
structure SpelledBy (choices : Choices) (members : List (Option String × Document)) : Prop where
  chosen : ∀ setting, choices.has setting = true →
    ∃ value, setting.values members = [value] ∧ choices.Spells setting value
  leftOpen : ∀ setting : SettingName, choices.has setting = false → setting.values members = []
  others : ∀ member ∈ members,
    (∃ setting : SettingName, member.1 = some setting.key) ∨ IsPassedOver member

/-- The choices for some of the settings, while the others are left open. -/
def only (choices : Choices) (kept : SettingName → Bool) : Choices where
  requestIdHeader := if kept .requestIdHeader then choices.requestIdHeader else none
  milestones := if kept .milestones then choices.milestones else none
  logFilter := if kept .logFilter then choices.logFilter else none
  logFormat := if kept .logFormat then choices.logFormat else none

theorem has_only (choices : Choices) (kept : SettingName → Bool) (setting : SettingName) :
    (choices.only kept).has setting = (kept setting && choices.has setting) := by
  cases setting <;> cases isKept : kept _ <;> simp [only, has, isKept]

theorem only_none (choices : Choices) : choices.only (fun _ => false) = empty := rfl

theorem only_eq_self {kept : SettingName → Bool}
    (all : ∀ setting, choices.has setting = true → kept setting = true) :
    choices.only kept = choices := by
  have part {α : Type} {isKept : Bool} {chosen : Option α}
      (keeps : chosen.isSome = true → isKept = true) :
      (if isKept then chosen else none) = chosen := by
    cases chosen with
    | none => exact ite_self none
    | some value => rw [keeps rfl, if_pos rfl]
  rw [only, part (all .requestIdHeader), part (all .milestones), part (all .logFilter),
    part (all .logFormat)]

/-- A value that spells a choice makes just this choice. -/
theorem choose_only (spells : choices.Spells setting value) (kept : SettingName → Bool) :
    (choices.only kept).choose value setting =
      .ok (choices.only fun other => kept other || decide (other = setting)) := by
  cases spells with
  | requestIdHeader chosen => simp [choose, only, Document.decodeText, chosen]
  | @milestones items milestones set named chosen made sameMembers =>
      have sameSet : Milestones.ofList milestones = set := by
        apply (Milestones.IsMade.ofList milestones).eq_of_contains_eq made
        intro milestone
        rw [Bool.eq_iff_iff, Milestones.contains_ofList_iff, sameMembers]
      have isSet : (Document.array items true).decodeMilestones = .ok set :=
        Document.decodeMilestones_eq_ok_iff.2 ⟨items, milestones, rfl, named, sameSet⟩
      simp [choose, only, isSet, chosen]
  | logFilter chosen => simp [choose, only, Document.decodeText, chosen]
  | logFormat named chosen =>
      simp [choose, only, Document.decodeLogFormat_eq_ok_iff.2 named, chosen]

theorem takeMember_setting (notYet : choices.has setting = false) :
    choices.takeMember (some setting.key, value) = choices.choose value setting := by
  simp only [takeMember, SettingName.ofKey?_key, notYet]
  rfl

theorem takeMember_of_isPassedOver (passed : IsPassedOver member) :
    choices.takeMember member = .ok choices := by
  obtain ⟨name, value⟩ := member
  cases name with
  | none => exact absurd rfl passed.named
  | some name =>
      have noKey : SettingName.ofKey? name = none := by
        cases found : SettingName.ofKey? name with
        | none => rfl
        | some setting =>
            have sameName := SettingName.key_eq_of_ofKey? found
            exact absurd (congrArg some sameName.symm) (passed.noSetting setting)
      simp only [takeMember, noKey, if_pos passed.whole]

/-- This is all that the taking of a member can come to, if it succeeds. -/
theorem cases_takeMember (taken : choices.takeMember member = .ok next) :
    (∃ setting : SettingName, member.1 = some setting.key ∧ choices.has setting = false ∧
      choices.choose member.2 setting = .ok next) ∨
    (IsPassedOver member ∧ next = choices) := by
  obtain ⟨name, value⟩ := member
  cases name with
  | none => cases taken
  | some name =>
      cases found : SettingName.ofKey? name with
      | some setting =>
          have isKey := SettingName.key_eq_of_ofKey? found
          simp only [takeMember, found] at taken
          split at taken
          · cases taken
          · next notYet =>
              exact .inl ⟨setting, congrArg some isKey.symm, Bool.eq_false_iff.2 notYet, taken⟩
      | none =>
          simp only [takeMember, found] at taken
          split at taken
          · next whole =>
              cases taken
              refine .inr ⟨⟨?_, Option.some_ne_none _, whole⟩, rfl⟩
              intro setting sameName
              rw [Option.some.inj sameName, SettingName.ofKey?_key] at found
              cases found
          · cases taken

/-- One member adds the choice that it spells, if that is not made yet, or none. -/
theorem takeMember_only {kept : SettingName → Bool}
    (spells : ∀ setting : SettingName, ∀ value ∈ setting.values [member],
      choices.Spells setting value)
    (once : ∀ setting : SettingName,
      (setting.values [member]).length + (kept setting).toNat ≤ 1)
    (isOther : (∃ setting : SettingName, member.1 = some setting.key) ∨ IsPassedOver member) :
    (choices.only kept).takeMember member =
      .ok (choices.only fun setting => kept setting || !(setting.values [member]).isEmpty) := by
  cases isOther with
  | inl isSetting =>
      obtain ⟨name, value⟩ := member
      obtain ⟨setting, rfl⟩ := isSetting
      have here : setting.values [(some setting.key, value)] = [value] := by
        rw [SettingName.values_singleton, if_pos rfl]
      have isSpelled : choices.Spells setting value := by
        apply spells
        rw [here]
        exact List.mem_singleton_self value
      have notYet : kept setting = false := by
        have atMostOne := once setting
        rw [here, List.length_singleton] at atMostOne
        exact Bool.toNat_eq_zero.1 (by omega)
      have notChosen : (choices.only kept).has setting = false := by
        rw [has_only, notYet, Bool.false_and]
      have given (other : SettingName) : decide (other = setting) =
          !(other.values [(some setting.key, value)]).isEmpty := by
        rw [SettingName.values_singleton]
        by_cases same : other = setting
        · rw [if_pos same, decide_eq_true same]
          rfl
        · rw [if_neg same, decide_eq_false same]
          rfl
      rw [takeMember_setting notChosen, choose_only isSpelled]
      simp only [given]
  | inr passed =>
      have noValue (setting : SettingName) : setting.values [member] = [] :=
        SettingName.values_singleton_of_ne (passed.noSetting setting)
      simp only [noValue, List.isEmpty_nil, Bool.not_true, Bool.or_false]
      exact takeMember_of_isPassedOver passed

/-- Members that give each setting once at most, and none again that has been chosen, add
their choices to those that there are. -/
theorem foldlM_takeMember_only {kept : SettingName → Bool}
    (spells : ∀ setting : SettingName, ∀ value ∈ setting.values members,
      choices.Spells setting value)
    (once : ∀ setting : SettingName,
      (setting.values members).length + (kept setting).toNat ≤ 1)
    (others : ∀ member ∈ members,
      (∃ setting : SettingName, member.1 = some setting.key) ∨ IsPassedOver member) :
    members.foldlM takeMember (choices.only kept) =
      .ok (choices.only fun setting => kept setting || !(setting.values members).isEmpty) := by
  induction members generalizing kept with
  | nil =>
      have noMore : (fun setting : SettingName =>
          kept setting || !(setting.values []).isEmpty) = kept := by
        funext setting
        exact Bool.or_false _
      rw [noMore]
      rfl
  | cons member members ih =>
      simp only [SettingName.values_cons _ member members, List.mem_append, List.length_append]
        at spells once
      have onceFirst (setting : SettingName) :
          (setting.values [member]).length + (kept setting).toNat ≤ 1 := by
        have atMostOne := once setting
        omega
      have first := takeMember_only
        (fun setting value isValue => spells setting value (.inl isValue))
        onceFirst (others member List.mem_cons_self)
      have onceRest (setting : SettingName) : (setting.values members).length +
          (kept setting || !(setting.values [member]).isEmpty).toNat ≤ 1 := by
        have atMostOne := once setting
        cases here : setting.values [member] with
        | nil =>
            rw [here, List.length_nil, Nat.zero_add] at atMostOne
            rw [List.isEmpty_nil, Bool.not_true, Bool.or_false]
            exact atMostOne
        | cons value values =>
            rw [here, List.length_cons] at atMostOne
            rw [List.isEmpty_cons, Bool.not_false, Bool.or_true, Bool.toNat_true]
            omega
      have rest := ih (fun setting value isValue => spells setting value (.inr isValue)) onceRest
        (fun other isOther => others other (List.mem_cons_of_mem _ isOther))
      have sameKept : (fun setting : SettingName =>
          kept setting || !(setting.values (member :: members)).isEmpty) =
          fun setting => (kept setting || !(setting.values [member]).isEmpty) ||
            !(setting.values members).isEmpty := by
        funext setting
        rw [SettingName.values_cons, Bool.or_assoc]
        cases setting.values [member] <;> rfl
      rw [List.foldlM_cons, first, sameKept]
      exact rest

/-- An object makes the choices that its members spell. -/
theorem ofDocument_of_spelledBy (spelled : choices.SpelledBy members) :
    ofDocument (.object members true) = .ok choices := by
  have values (setting : SettingName) : setting.values members = [] ∨
      ∃ value, setting.values members = [value] ∧ choices.Spells setting value := by
    cases isChosen : choices.has setting with
    | false => exact .inl (spelled.leftOpen setting isChosen)
    | true => exact .inr (spelled.chosen setting isChosen)
  have spells (setting : SettingName) (value : Document)
      (isValue : value ∈ setting.values members) : choices.Spells setting value := by
    obtain none | ⟨only, isOnly, isSpelled⟩ := values setting
    · rw [none] at isValue
      cases isValue
    · rw [isOnly, List.mem_singleton] at isValue
      rw [isValue]
      exact isSpelled
  have once (setting : SettingName) : (setting.values members).length + false.toNat ≤ 1 := by
    obtain none | ⟨only, isOnly, -⟩ := values setting
    · rw [none]
      exact Nat.zero_le 1
    · rw [isOnly]
      exact Nat.le_refl 1
  have all (setting : SettingName) (isChosen : choices.has setting = true) :
      (false || !(setting.values members).isEmpty) = true := by
    obtain ⟨value, isOnly, -⟩ := spelled.chosen setting isChosen
    rw [isOnly]
    rfl
  have taken := foldlM_takeMember_only spells once spelled.others
  rw [only_eq_self all, only_none] at taken
  rw [ofDocument, taken]
  rfl

theorem has_of_choose (chosen : choices.choose value setting = .ok next) (other : SettingName) :
    next.has other = (choices.has other || decide (other = setting)) := by
  cases setting <;>
    · obtain ⟨_, -, ⟨⟩⟩ := Decoded.bind_eq_ok_iff.1 chosen
      cases other <;> simp [has]

/-- Nothing is chosen but with a value of the type of the setting. -/
theorem takes_of_choose (chosen : choices.choose value setting = .ok next) :
    setting.Takes value := by
  cases setting with
  | requestIdHeader =>
      obtain ⟨text, decoded, -⟩ := Decoded.bind_eq_ok_iff.1 chosen
      rw [Document.decodeText_eq_ok_iff.1 decoded]
      exact ⟨{ empty with requestIdHeader := some text }, .requestIdHeader rfl⟩
  | milestones =>
      obtain ⟨set, decoded, -⟩ := Decoded.bind_eq_ok_iff.1 chosen
      obtain ⟨items, milestones, rfl, named, rfl⟩ :=
        Document.decodeMilestones_eq_ok_iff.1 decoded
      exact ⟨{ empty with milestones := some (.ofList milestones) },
        .milestones named rfl (.ofList milestones) (Milestones.contains_ofList_iff milestones)⟩
  | logFilter =>
      obtain ⟨text, decoded, -⟩ := Decoded.bind_eq_ok_iff.1 chosen
      rw [Document.decodeText_eq_ok_iff.1 decoded]
      exact ⟨{ empty with logFilter := some text }, .logFilter rfl⟩
  | logFormat =>
      obtain ⟨format, decoded, -⟩ := Decoded.bind_eq_ok_iff.1 chosen
      exact ⟨{ empty with logFormat := some format },
        .logFormat (Document.decodeLogFormat_eq_ok_iff.1 decoded) rfl⟩

/-- A setting is chosen by a member as often as the member gives a value for it, and with
nothing but values of its type. -/
theorem values_of_takeMember (taken : choices.takeMember member = .ok next)
    (setting : SettingName) :
    (next.has setting).toNat = (choices.has setting).toNat + (setting.values [member]).length ∧
      ∀ value ∈ setting.values [member], setting.Takes value := by
  obtain ⟨other, isKey, notYet, chosen⟩ | ⟨passed, rfl⟩ := cases_takeMember taken
  · obtain ⟨name, value⟩ := member
    obtain rfl : name = some other.key := isKey
    rw [SettingName.values_singleton, has_of_choose chosen]
    by_cases same : setting = other
    · rw [if_pos same, same, notYet, decide_eq_true rfl]
      refine ⟨rfl, fun given isGiven => ?_⟩
      rw [List.mem_singleton.1 isGiven]
      exact takes_of_choose chosen
    · rw [if_neg same, decide_eq_false same, Bool.or_false]
      exact ⟨rfl, fun given isGiven => absurd isGiven List.not_mem_nil⟩
  · rw [SettingName.values_singleton_of_ne (passed.noSetting setting)]
    exact ⟨rfl, fun given isGiven => absurd isGiven List.not_mem_nil⟩

theorem values_of_foldlM_takeMember (taken : members.foldlM takeMember choices = .ok last)
    (setting : SettingName) :
    (last.has setting).toNat = (choices.has setting).toNat + (setting.values members).length ∧
      ∀ value ∈ setting.values members, setting.Takes value := by
  induction members generalizing choices with
  | nil =>
      cases taken
      exact ⟨rfl, fun value isValue => absurd isValue List.not_mem_nil⟩
  | cons member members ih =>
      rw [List.foldlM_cons, Decoded.bind_eq_ok_iff] at taken
      obtain ⟨next, first, rest⟩ := taken
      obtain ⟨countFirst, takesFirst⟩ := values_of_takeMember first setting
      obtain ⟨countRest, takesRest⟩ := ih rest
      rw [SettingName.values_cons]
      constructor
      · rw [countRest, countFirst, List.length_append, Nat.add_assoc]
      · intro value isValue
        cases List.mem_append.1 isValue with
        | inl isFirst => exact takesFirst value isFirst
        | inr isLater => exact takesRest value isLater

/-- An object that makes choices gives no setting twice, and each with a value of its type. -/
theorem values_of_ofDocument {closed : Bool}
    (decoded : ofDocument (.object members closed) = .ok last) (setting : SettingName) :
    (setting.values members).length ≤ 1 ∧
      ∀ value ∈ setting.values members, setting.Takes value := by
  rw [ofDocument, Decoded.bind_eq_ok_iff] at decoded
  obtain ⟨made, taken, -⟩ := decoded
  obtain ⟨count, takes⟩ := values_of_foldlM_takeMember taken setting
  refine ⟨?_, takes⟩
  calc
    (setting.values members).length ≤ (empty.has setting).toNat + _ := Nat.le_add_left _ _
    _ = (made.has setting).toNat := count.symm
    _ ≤ 1 := Bool.toNat_le _

/-- Items are taken like members under the names of the settings at their positions, if these
are different settings and none of them has been chosen. -/
theorem takeItems_eq_foldlM_takeMember {settings : List SettingName} {items : List Document}
    (different : settings.Nodup) (notYet : ∀ setting ∈ settings, choices.has setting = false)
    (fits : items.length ≤ settings.length) :
    choices.takeItems settings items =
      (settings.zipWith (fun setting item => (some setting.key, item)) items).foldlM
        takeMember choices := by
  induction settings generalizing choices items with
  | nil =>
      obtain rfl : items = [] := List.eq_nil_of_length_eq_zero (Nat.le_zero.1 fits)
      rfl
  | cons setting settings ih =>
      cases items with
      | nil => rfl
      | cons item items =>
          obtain ⟨noneAgain, differentRest⟩ := List.nodup_cons.1 different
          rw [List.zipWith_cons_cons, List.foldlM_cons,
            takeMember_setting (notYet setting List.mem_cons_self), takeItems]
          cases chosen : choices.choose item setting with
          | error error => rfl
          | ok next =>
              apply ih differentRest _ (Nat.le_of_succ_le_succ fits)
              intro other isOther
              have differs : other ≠ setting := ne_of_mem_of_not_mem isOther noneAgain
              rw [has_of_choose chosen, notYet other (List.mem_cons_of_mem _ isOther),
                decide_eq_false differs]
              rfl

/-- To list values by position is the same as to name them. -/
theorem ofDocument_array {items : List Document} (fits : items.length ≤ SettingName.all.length) :
    ofDocument (.array items true) = ofDocument (.object (SettingName.membersOf items) true) := by
  have same : empty.takeItems SettingName.all items =
      (SettingName.membersOf items).foldlM takeMember empty := by
    apply takeItems_eq_foldlM_takeMember (by decide) _ fits
    intro setting _
    cases setting <;> rfl
  rw [ofDocument, ofDocument, same]

end Choices

namespace Settings

variable {text : String} {document : Document}

/-- What is usual for a setting that is left open is usual for one that is not mentioned. -/
theorem ofMentioned_eq_settings (choices : Choices) : ofMentioned choices = choices.settings := rfl

/-- A text that is read as a document gives the settings of the choices that it makes. -/
theorem ofText_of_read (isRead : Document.read text = (document, true)) :
    ofText text = (Choices.ofDocument document).map Choices.settings := by
  rw [ofText, decodeText, isRead]
  dsimp only
  cases Choices.ofDocument document with
  | error error => rfl
  | ok choices => exact congrArg Except.ok (ofMentioned_eq_settings choices)

/-- There are no settings without the choices that the document makes. -/
theorem exists_ofDocument_of_ofText {complete : Bool} {settings : Settings}
    (isRead : Document.read text = (document, complete)) (given : ofText text = .ok settings) :
    ∃ choices, Choices.ofDocument document = .ok choices := by
  rw [ofText, Decoded.bind_eq_ok_iff] at given
  obtain ⟨choices, decoded, -⟩ := given
  rw [decodeText, isRead] at decoded
  obtain ⟨made, isMade, -⟩ := Decoded.bind_eq_ok_iff.1 decoded
  exact ⟨made, isMade⟩

end Settings

/-- Settings from a document are those that its choices give in a program. An object that gives
chosen settings once each, in any order and between members that are no settings, gives the
settings of these choices, and what it leaves out is as usual in both. An array that lists the
values of the first settings gives what the object gives that names them. And an object that
gives a setting twice or with a value that is not of its type gives an error. -/
theorem documents_choose_as_programs_do :
    (∀ (text : String) (members : List (Option String × Document)) (choices : Choices),
      Document.read text = (.object members true, true) → choices.SpelledBy members →
        Settings.ofText text = .ok choices.settings) ∧
    (∀ (text : String) (items : List Document),
      Document.read text = (.array items true, true) → items.length ≤ SettingName.all.length →
        (∀ named, Document.read named = (.object (SettingName.membersOf items) true, true) →
          Settings.ofText text = Settings.ofText named) ∧
        ∀ choices : Choices, choices.SpelledBy (SettingName.membersOf items) →
          Settings.ofText text = .ok choices.settings) ∧
    ∀ (text : String) (members : List (Option String × Document)) (closed complete : Bool)
      (setting : SettingName), Document.read text = (.object members closed, complete) →
      1 < (setting.values members).length ∨
        (∃ value ∈ setting.values members, ¬ setting.Takes value) →
        ∃ error, Settings.ofText text = .error error := by
  refine ⟨?_, ?_, ?_⟩
  · intro text members choices isRead spelled
    rw [Settings.ofText_of_read isRead, Choices.ofDocument_of_spelledBy spelled]
    rfl
  · intro text items isRead fits
    rw [Settings.ofText_of_read isRead, Choices.ofDocument_array fits]
    constructor
    · intro named isNamed
      rw [Settings.ofText_of_read isNamed]
    · intro choices spelled
      rw [Choices.ofDocument_of_spelledBy spelled]
      rfl
  · intro text members closed complete setting isRead fault
    cases given : Settings.ofText text with
    | error error => exact ⟨error, rfl⟩
    | ok settings =>
        obtain ⟨choices, decoded⟩ := Settings.exists_ofDocument_of_ofText isRead given
        obtain ⟨once, takes⟩ := Choices.values_of_ofDocument decoded setting
        cases fault with
        | inl twice => exact absurd once (Nat.not_le_of_lt twice)
        | inr other =>
            obtain ⟨value, isValue, takesNot⟩ := other
            exact absurd (takes value isValue) takesNot

/-- An object with a format, with a member that is no setting and with a list that has a
milestone twice; an array of two values and the object that names them; and objects that give
the filter of the log twice, and nothing where milestones should be. -/
theorem documents_choose_as_programs_do_of_texts :
    Settings.ofText ("\x7b\"log_format\":\"json\",\"seats\":[],"
        ++ "\"log_events\":[\"finish_call\",\"finish_call\"]\x7d") =
      .ok { Settings.usual with milestones := .ofList [.finishCall], logFormat := .json } ∧
    Settings.ofText "[\"trace\",[]]" =
      Settings.ofText "\x7b\"request_id_header\":\"trace\",\"log_events\":[]\x7d" ∧
    (∃ error, Settings.ofText "\x7b\"log_filter\":\"info\",\"log_filter\":\"info\"\x7d" =
      .error error) ∧
    ∃ error, Settings.ofText "\x7b\"log_events\":null\x7d" = .error error := by
  obtain ⟨object, array, faulty⟩ := documents_choose_as_programs_do
  refine ⟨?_, ?_, ?_, ?_⟩
  · let choices : Choices :=
      ⟨none, some (.ofList [.finishCall]), none, some .json⟩
    let members : List (Option String × Document) :=
      [(some "log_format", .string (some "json")), (some "seats", .array [] true),
        (some "log_events",
          .array [.string (some "finish_call"), .string (some "finish_call")] true)]
    have noSetting (setting : SettingName) : some "seats" ≠ some setting.key := by
      cases setting <;> decide
    have spelled : choices.SpelledBy members := by
      refine ⟨?_, ?_, ?_⟩
      · intro setting isChosen
        cases setting with
        | requestIdHeader => cases isChosen
        | milestones =>
            have isName : Document.Names Milestone.key .finishCall (.string (some "finish_call")) :=
              .alone
            refine ⟨_, rfl, .milestones (.cons isName (.cons isName .nil)) rfl (.ofList _) ?_⟩
            intro milestone
            rw [Milestones.contains_ofList_iff]
            simp
        | logFilter => cases isChosen
        | logFormat => exact ⟨_, rfl, .logFormat .alone rfl⟩
      · intro setting leftOpen
        cases setting with
        | requestIdHeader => rfl
        | milestones => cases leftOpen
        | logFilter => rfl
        | logFormat => cases leftOpen
      · intro member isMember
        simp only [members, List.mem_cons, List.not_mem_nil, or_false] at isMember
        obtain rfl | rfl | rfl := isMember
        · exact .inl ⟨.logFormat, rfl⟩
        · exact .inr ⟨noSetting, Option.some_ne_none _, rfl⟩
        · exact .inl ⟨.milestones, rfl⟩
    have isRead : Document.read ("\x7b\"log_format\":\"json\",\"seats\":[],"
        ++ "\"log_events\":[\"finish_call\",\"finish_call\"]\x7d") =
      (.object members true, true) := by cbv
    exact object _ members choices isRead spelled
  · have isRead : Document.read "[\"trace\",[]]" =
        (.array [.string (some "trace"), .array [] true] true, true) := by cbv
    have isNamed :
        Document.read "\x7b\"request_id_header\":\"trace\",\"log_events\":[]\x7d" =
          (.object (SettingName.membersOf [.string (some "trace"), .array [] true]) true,
            true) := by cbv
    obtain ⟨sameAsNamed, -⟩ := array _ _ isRead (by decide)
    exact sameAsNamed _ isNamed
  · have isRead :
        Document.read "\x7b\"log_filter\":\"info\",\"log_filter\":\"info\"\x7d" =
          (.object [(some "log_filter", .string (some "info")),
            (some "log_filter", .string (some "info"))] true, true) := by cbv
    exact faulty _ _ _ _ .logFilter isRead (.inl (by decide))
  · have isRead : Document.read "\x7b\"log_events\":null\x7d" =
        (.object [(some "log_events", .null)] true, true) := by cbv
    have takesNot : ¬ SettingName.milestones.Takes .null := by
      rintro ⟨choices, ⟨⟩⟩
    exact faulty _ _ _ _ .milestones isRead (.inr ⟨.null, List.mem_singleton_self _, takesNot⟩)

end RpcBoundary
