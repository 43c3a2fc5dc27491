/-
# Errors that repeat their causes

An error around another one says something of its own, and some errors go on with what the
other one says. Both habits may be mixed along a chain, so a cause may have been repeated
already when the walk comes to it, in full or up to some error further in. `Nest` has one
case for each habit. As long as every error adds something new, the texts are joined to the
same whole whoever repeats what: by `Nest.exists_reach` the outermost text reaches down to
some error of the chain, the causes up to there are passed over since they have been
mentioned, and the next one is new.
-/

import RpcBoundary.Proofs.Horizon
import RpcBoundary.Proofs.Joining

namespace RpcBoundary

/-- Every text but the first says something that those before it do not say when they are
joined. -/
def AddNew (texts : List String) : Prop :=
  ∀ j text, 0 < j → texts[j]? = some text →
    text ≠ "" ∧ ¬ text.toList <:+: (": ".intercalate (texts.take j)).toList

/-- Errors stand around one another, and each adds one of the texts. The errors are given as
the outermost one and its causes. -/
inductive Nest : List String → Link → List Link → Prop
  /-- The innermost error says its text. -/
  | innermost (link : Link) : Nest [link.text] link []
  /-- An error says its own text and nothing of what is within it. -/
  | terse {texts : List String} {inner : Link} {causes : List Link} (link : Link)
      (within : Nest texts inner causes) : Nest (link.text :: texts) link (inner :: causes)
  /-- An error says its own text and then, after a colon, all that the next one says. -/
  | quoting {texts : List String} {inner : Link} {causes : List Link} {link : Link}
      {text : String} (quotes : link.text = text ++ ": " ++ inner.text)
      (within : Nest texts inner causes) : Nest (text :: texts) link (inner :: causes)

variable {texts before told left : List String} {text : String} {outermost : Link}
  {causes : List Link}

theorem AddNew.of_append (new : AddNew (before ++ text :: left)) (behind : before ≠ []) :
    text ≠ "" ∧ ¬ text.toList <:+: (": ".intercalate before).toList := by
  have here : (before ++ text :: left)[before.length]? = some text := by simp
  have added := new before.length text (List.length_pos_of_ne_nil behind) here
  rwa [List.take_left] at added

namespace Links

variable {said cause : String}

theorem extendText_of_mentioned (mentioned : cause.toList <:+: said.toList) :
    extendText said cause = said := by
  rw [← Text.occurs_iff] at mentioned
  rw [extendText, Text.mentions, mentioned, Bool.or_true, if_pos rfl]

theorem extendText_of_new (nonempty : cause ≠ "") (new : ¬ cause.toList <:+: said.toList) :
    extendText said cause = said ++ ": " ++ cause := by
  have isText : cause.isEmpty = false := by simpa using nonempty
  rw [← Text.occurs_iff, Bool.not_eq_true] at new
  rw [extendText, Text.mentions, isText, new, Bool.or_false, if_neg Bool.false_ne_true]

/-- A cause that says no more than the last of the texts said so far is passed over. -/
theorem extendText_intercalate_of_told (behind : before ≠ []) (some : told ≠ []) :
    extendText (": ".intercalate (before ++ told)) (": ".intercalate told) =
      ": ".intercalate (before ++ told) := by
  apply extendText_of_mentioned
  rw [String.intercalate_append_of_ne_nil behind some, String.toList_append]
  exact (List.suffix_append _ _).isInfix

/-- A cause that begins with a new text is added as a whole. -/
theorem extendText_intercalate_of_addNew (behind : before ≠ [])
    (new : AddNew (before ++ (text :: told ++ left))) :
    extendText (": ".intercalate before) (": ".intercalate (text :: told)) =
      ": ".intercalate (before ++ text :: told) := by
  obtain ⟨nonempty, notMentioned⟩ := new.of_append behind
  have begins : text.toList <+: (": ".intercalate (text :: told)).toList := by
    rw [← String.append_empty (s := text), String.intercalate_cons_append, String.append_empty,
      String.toList_append]
    exact List.prefix_append _ _
  rw [extendText_of_new, String.intercalate_append_of_ne_nil behind (List.cons_ne_nil _ _)]
  · intro empty
    rw [empty] at begins
    exact nonempty (String.toList_eq_nil_iff.1 (List.prefix_nil.1 begins))
  · intro mentioned
    exact notMentioned (begins.isInfix.trans mentioned)

/-- A search for what no plain link is finds nothing among plain links. -/
theorem findSome?_eq_none_of_plain {α : Type} {links : List Link} {f : Link → Option α}
    (plain : ∀ link ∈ links, link.IsPlain) (passes : ∀ link : Link, link.IsPlain → f link = none) :
    (ofChain (.finite links)).toList.findSome? f = none := by
  rw [List.findSome?_eq_none_iff]
  intro link visited
  rw [toList_ofChain, Chain.take_finite] at visited
  exact passes link (plain link (List.mem_of_mem_take visited))

end Links

namespace Nest

theorem length_eq (nest : Nest texts outermost causes) : texts.length = causes.length + 1 := by
  induction nest with
  | innermost link => rfl
  | terse link within ih => rw [List.length_cons, ih, List.length_cons]
  | quoting quotes within ih => rw [List.length_cons, ih, List.length_cons]

/-- What the outermost error says reaches down to some error of the nest. Once so much has
been said, the causes add the texts of the errors further in and nothing else. -/
theorem exists_reach (nest : Nest texts outermost causes) :
    ∃ text told left, texts = text :: told ++ left ∧
      outermost.text = ": ".intercalate (text :: told) ∧
      ∀ before, AddNew (before ++ texts) →
        (causes.map Link.text).foldl Links.extendText (": ".intercalate (before ++ text :: told)) =
          ": ".intercalate (before ++ texts) := by
  induction nest with
  | innermost link => exact ⟨link.text, [], [], rfl, by simp, fun _ _ => rfl⟩
  | @terse texts inner causes link within ih =>
      obtain ⟨text, told, left, rfl, innerText, rest⟩ := ih
      refine ⟨link.text, [], text :: told ++ left, rfl, by simp, ?_⟩
      intro before new
      rw [List.append_cons] at new
      have added := Links.extendText_intercalate_of_addNew (by simp) new
      rw [List.map_cons, List.foldl_cons, innerText, added,
        List.append_cons before link.text (text :: told ++ left)]
      exact rest (before ++ [link.text]) new
  | @quoting texts inner causes link own quotes within ih =>
      obtain ⟨text, told, left, rfl, innerText, rest⟩ := ih
      refine ⟨own, text :: told, left, rfl, ?_, ?_⟩
      · rw [quotes, innerText, String.intercalate_cons_cons]
      · intro before new
        rw [List.append_cons] at new
        have passed : Links.extendText (": ".intercalate (before ++ [own] ++ text :: told))
            (": ".intercalate (text :: told)) =
              ": ".intercalate (before ++ [own] ++ text :: told) :=
          Links.extendText_intercalate_of_told (by simp) (by simp)
        rw [List.append_cons before own (text :: told), List.map_cons, List.foldl_cons, innerText,
          passed, List.append_cons before own (text :: told ++ left)]
        exact rest (before ++ [own]) new

theorem joinTexts_eq (nest : Nest texts outermost causes) (new : AddNew texts) :
    Links.joinTexts ((outermost :: causes).map Link.text) = ": ".intercalate texts := by
  obtain ⟨text, told, left, rfl, outermostText, rest⟩ := nest.exists_reach
  rw [List.map_cons, Links.joinTexts, outermostText]
  exact rest [] new

/-- A nest of no more errors than are looked at says the texts that they add. -/
theorem flatten_eq (nest : Nest texts outermost causes) (new : AddNew texts)
    (short : texts.length ≤ 64) :
    (Links.ofChain (.finite (outermost :: causes))).flatten = ": ".intercalate texts := by
  have all : (outermost :: causes).take Links.maxDepth = outermost :: causes := by
    apply List.take_of_length_le
    rw [List.length_cons, ← nest.length_eq]
    exact short
  rw [Links.flatten, Links.toList_ofChain, Chain.take_finite, all, nest.joinTexts_eq new]

/-- Errors that are recognised as nothing are judged by these texts. -/
theorem ground_eq (nest : Nest texts outermost causes) (new : AddNew texts)
    (short : texts.length ≤ 64) (plain : ∀ link ∈ outermost :: causes, link.IsPlain)
    (typeName : String) :
    (Evidence.ofChain typeName (.finite (outermost :: causes))).ground =
      .text (": ".intercalate texts) := by
  rw [← nest.flatten_eq new short]
  apply Evidence.ground_of_text
  · exact Links.findSome?_eq_none_of_plain plain fun _ isPlain => isPlain.1
  · exact Links.findSome?_eq_none_of_plain plain fun _ isPlain => isPlain.2

end Nest

/-- It does not matter which errors repeat their causes. If every error adds something new,
all nests of the same texts say the same as a whole, which is the texts with a colon between
them; and if none of the errors is a status or stands for an interruption, they are judged
alike and send the same status, and the same is logged but for the names of their types. -/
theorem nests_say_the_same (new : AddNew texts) (short : texts.length ≤ 64) :
    (∀ {outermost : Link} {causes : List Link}, Nest texts outermost causes →
      (Links.ofChain (.finite (outermost :: causes))).flatten = ": ".intercalate texts) ∧
    ∀ {outermost other : Link} {causes otherCauses : List Link},
      Nest texts outermost causes → Nest texts other otherCauses →
      (∀ link ∈ outermost :: causes, link.IsPlain) → (∀ link ∈ other :: otherCauses, link.IsPlain) →
      ∀ (typeName otherType : String) (around : Surroundings),
        let first := Evidence.ofChain typeName (.finite (outermost :: causes))
        let second := Evidence.ofChain otherType (.finite (other :: otherCauses))
        ((classify first).run around).SameButType ((classify second).run around) ∧
          ((toStatus first).run around).SameButType ((toStatus second).run around) := by
  refine ⟨fun nest => nest.flatten_eq new short, ?_⟩
  intro outermost other causes otherCauses nest otherNest plain otherPlain typeName otherType
    around first second
  have ground : first.ground = .text (": ".intercalate texts) :=
    nest.ground_eq new short plain typeName
  have otherGround : second.ground = .text (": ".intercalate texts) :=
    otherNest.ground_eq new short otherPlain otherType
  exact Evidence.sameButType_of_ground_eq (ground.trans otherGround.symm) around

/-- Three errors of which first the outermost one and then the next one repeats its cause,
so that the walk comes to a cause that was mentioned, or to one of which the end is new. -/
theorem nests_say_the_same_of_refused :
    let texts := ["load booking", "query", "connection refused"]
    let refused : Link := .plain "connection refused"
    let causes : List Link := [.plain "query", refused]
    let otherCauses : List Link := [.plain "query: connection refused", refused]
    AddNew texts ∧ texts.length ≤ 64 ∧
      (Nest texts (.plain "load booking: query") causes ∧
        Nest texts (.plain "load booking") otherCauses) ∧
      (Links.ofChain (.finite (.plain "load booking: query" :: causes))).flatten =
        "load booking: query: connection refused" ∧
      (Links.ofChain (.finite (.plain "load booking" :: otherCauses))).flatten =
        "load booking: query: connection refused" ∧
      ((classify (.ofChain "Load" (.finite (.plain "load booking: query" :: causes)))).run
          ⟨[], fun _ => 0⟩).SameButType
        ((classify (.ofChain "Query" (.finite (.plain "load booking" :: otherCauses)))).run
          ⟨[], fun _ => 0⟩) := by
  intro texts refused causes otherCauses
  have new : AddNew texts := by
    intro j text behind there
    have few : j < 3 := (List.getElem?_eq_some_iff.1 there).1
    rw [← Text.occurs_iff, Bool.not_eq_true]
    obtain rfl | rfl : j = 1 ∨ j = 2 := by omega
    · obtain rfl : "query" = text := Option.some.inj there
      exact ⟨by decide, by decide⟩
    · obtain rfl : "connection refused" = text := Option.some.inj there
      exact ⟨by decide, by decide⟩
  have nest : Nest texts (.plain "load booking: query") causes :=
    .quoting rfl (.terse (.plain "query") (.innermost refused))
  have otherNest : Nest texts (.plain "load booking") otherCauses :=
    .terse (.plain "load booking") (.quoting rfl (.innermost refused))
  have isPlain (text : String) : (Link.plain text).IsPlain := ⟨rfl, rfl⟩
  obtain ⟨whole, alike⟩ := nests_say_the_same new (by decide)
  have joined : ": ".intercalate texts = "load booking: query: connection refused" := by decide
  refine ⟨new, by decide, ⟨nest, otherNest⟩, (whole nest).trans joined,
    (whole otherNest).trans joined, (alike nest otherNest ?_ ?_ _ _ _).1⟩
  · simp [causes, refused, isPlain]
  · simp [otherCauses, refused, isPlain]

end RpcBoundary
