/-
# Installing a recorder once and for all

A process may be asked to install a recorder as often as one likes, and with any settings.
What a single call comes to is one of three things (`Recorder.Installs`), and of these only
one changes what is installed. So the recorder that is installed after a run of calls is the
one that the first call with a valid filter asked for (`Process.installed_run`). This is
the invariant from which the answers of all calls follow: an invalid filter is told whether
something is installed or not, and takes nothing away from the calls after it.
-/

import Mathlib.Data.List.Induction
import RpcBoundary.Log.Recorder

namespace RpcBoundary

/-- The filter of the settings is one. -/
def Settings.HasFilter (settings : Settings) : Prop :=
  ∃ filter, Filter.ofText settings.logFilter = .ok filter

theorem Settings.not_hasFilter_of_error {settings : Settings} {error : FilterError}
    (isError : Filter.ofText settings.logFilter = .error error) : ¬ settings.HasFilter := by
  rintro ⟨filter, isFilter⟩
  rw [isError] at isFilter
  cases isFilter

namespace Recorder

/-- What a call for installation comes to, from what is installed before it to what is
installed after it. -/
inductive Installs (settings : Settings) :
    Option Recorder → Except SetupError Unit → Option Recorder → Prop
  /-- Without a filter nothing happens, whatever is installed. -/
  | refuse {error : FilterError} (isError : Filter.ofText settings.logFilter = .error error)
      (installed : Option Recorder) :
      Installs settings installed (.error (.invalidLogFilter error)) installed
  /-- A recorder is installed where there was none. -/
  | install {filter : Filter} (isFilter : Filter.ofText settings.logFilter = .ok filter) :
      Installs settings none (.ok ()) (some ⟨filter, settings.logFormat⟩)
  /-- The recorder that is there stays. -/
  | keep {filter : Filter} (isFilter : Filter.ofText settings.logFilter = .ok filter)
      (earlier : Recorder) :
      Installs settings (some earlier) (.error .alreadyInstalled) (some earlier)

theorem installs_install (settings : Settings) (installed : Option Recorder) :
    Installs settings installed (install settings installed).1
      (install settings installed).2 := by
  cases isRead : Filter.ofText settings.logFilter with
  | error error =>
      simp only [Recorder.install, ofSettings, isRead]
      exact .refuse isRead installed
  | ok filter =>
      simp only [Recorder.install, ofSettings, isRead]
      cases installed with
      | none => exact .install isRead
      | some earlier => exact .keep isRead earlier

namespace Installs

variable {settings : Settings} {before after : Option Recorder} {answer : Except SetupError Unit}

/-- An invalid filter is told, and it is told of no other, whatever is installed. -/
theorem invalidLogFilter_iff (installs : Installs settings before answer after) :
    (∃ error, answer = .error (.invalidLogFilter error)) ↔ ¬ settings.HasFilter := by
  cases installs with
  | refuse isError => exact iff_of_true ⟨_, rfl⟩ (Settings.not_hasFilter_of_error isError)
  | install isFilter =>
      refine iff_of_false ?_ (not_not_intro ⟨_, isFilter⟩)
      rintro ⟨error, isError⟩
      cases isError
  | keep isFilter =>
      refine iff_of_false ?_ (not_not_intro ⟨_, isFilter⟩)
      rintro ⟨error, isError⟩
      cases isError

theorem ok_iff (installs : Installs settings before answer after) :
    answer = .ok () ↔ settings.HasFilter ∧ before = none := by
  cases installs with
  | refuse isError =>
      refine iff_of_false (by rintro ⟨⟩) ?_
      rintro ⟨hasFilter, -⟩
      exact Settings.not_hasFilter_of_error isError hasFilter
  | install isFilter => exact iff_of_true rfl ⟨⟨_, isFilter⟩, rfl⟩
  | keep isFilter => exact iff_of_false (by rintro ⟨⟩) (by rintro ⟨-, ⟨⟩⟩)

/-- A call that succeeds has found nothing, and installs what its settings ask for. -/
theorem exists_of_ok (installs : Installs settings before answer after)
    (succeeded : answer = .ok ()) :
    before = none ∧ ∃ filter, Filter.ofText settings.logFilter = .ok filter ∧
      after = some ⟨filter, settings.logFormat⟩ := by
  cases installs with
  | refuse isError => cases succeeded
  | install isFilter => exact ⟨rfl, _, isFilter, rfl⟩
  | keep isFilter => cases succeeded

/-- A valid filter comes too late for a recorder that is there. -/
theorem eq_alreadyInstalled (installs : Installs settings before answer after)
    (hasFilter : settings.HasFilter) (isInstalled : before ≠ none) :
    answer = .error .alreadyInstalled := by
  cases installs with
  | refuse isError => exact absurd hasFilter (Settings.not_hasFilter_of_error isError)
  | install isFilter => exact absurd rfl isInstalled
  | keep isFilter => rfl

/-- A call that fails changes nothing. -/
theorem eq_of_error (installs : Installs settings before answer after) {error : SetupError}
    (failed : answer = .error error) : after = before := by
  cases installs with
  | refuse isError => rfl
  | install isFilter => cases failed
  | keep isFilter => rfl

/-- A call that succeeds makes the difference between nothing and something installed. -/
theorem isSome_eq (installs : Installs settings before answer after) :
    after.isSome.toNat = before.isSome.toNat + answer.isOk.toNat := by
  cases installs with
  | refuse isError => rfl
  | install isFilter => rfl
  | keep isFilter => rfl

/-- What is installed stays, and where nothing is, the settings decide. -/
theorem eq_or (installs : Installs settings before answer after) :
    after = before.or (ofSettings settings).toOption := by
  cases installs with
  | refuse isError =>
      rw [ofSettings, isError]
      exact (Option.or_none).symm
  | install isFilter =>
      rw [ofSettings, isFilter]
      rfl
  | keep isFilter => rfl

end Installs

end Recorder

/-- A process in which recorders are installed: what the calls for it have answered, and the
recorder that is installed. -/
structure Process where
  answers : List (Except SetupError Unit)
  installed : Option Recorder

namespace Process

/-- The process after one more call. -/
def call (process : Process) (settings : Settings) : Process where
  answers := process.answers ++ [(Recorder.install settings process.installed).1]
  installed := (Recorder.install settings process.installed).2

/-- The process after calls with these settings, one after another. Nothing is installed
before the first of them. -/
def run (calls : List Settings) : Process := calls.foldl call ⟨[], none⟩

theorem run_concat (calls : List Settings) (settings : Settings) :
    run (calls ++ [settings]) = (run calls).call settings := by
  rw [run, List.foldl_append]
  rfl

/-- Each call comes to what it can come to where the calls before it have led. -/
theorem installs_call (process : Process) (settings : Settings) :
    ∃ answer, (process.call settings).answers = process.answers ++ [answer] ∧
      Recorder.Installs settings process.installed answer (process.call settings).installed :=
  ⟨_, rfl, Recorder.installs_install settings process.installed⟩

/-- The first call with a valid filter is the one that installs. -/
theorem installed_run (calls : List Settings) :
    (run calls).installed =
      calls.findSome? fun settings => (Recorder.ofSettings settings).toOption := by
  induction calls using List.reverseRecOn with
  | nil => rfl
  | append_singleton earlier settings ih =>
      obtain ⟨answer, -, installs⟩ := (run earlier).installs_call settings
      rw [run_concat, installs.eq_or, ih, List.findSome?_append, List.findSome?_singleton]

theorem installed_run_eq_none_iff (calls : List Settings) :
    (run calls).installed = none ↔ ∀ settings ∈ calls, ¬ settings.HasFilter := by
  rw [installed_run, List.findSome?_eq_none_iff]
  apply forall₂_congr
  intro settings _
  rw [Recorder.ofSettings]
  cases isRead : Filter.ofText settings.logFilter with
  | error error => exact iff_of_true rfl (Settings.not_hasFilter_of_error isRead)
  | ok filter => exact iff_of_false (Option.some_ne_none _) (not_not_intro ⟨filter, isRead⟩)

/-- As many calls have succeeded as recorders are installed. -/
theorem countP_isOk_answers_run (calls : List Settings) :
    (run calls).answers.countP Except.isOk = (run calls).installed.isSome.toNat := by
  induction calls using List.reverseRecOn with
  | nil => rfl
  | append_singleton earlier settings ih =>
      obtain ⟨answer, answered, installs⟩ := (run earlier).installs_call settings
      rw [run_concat, answered, installs.isSome_eq, List.countP_append, ih,
        List.countP_singleton]
      cases answer <;> rfl

theorem ok_mem_answers_run_iff (calls : List Settings) :
    .ok () ∈ (run calls).answers ↔ (run calls).installed ≠ none := by
  have counted : .ok () ∈ (run calls).answers ↔ 0 < (run calls).answers.countP Except.isOk := by
    rw [List.countP_pos_iff]
    constructor
    · intro member
      exact ⟨.ok (), member, rfl⟩
    · rintro ⟨_ | _, member, isOk⟩
      · cases isOk
      · exact member
  rw [counted, countP_isOk_answers_run]
  cases (run calls).installed with
  | none => simp
  | some recorder => simp

/-- Calls add their answers to those there are. -/
theorem exists_answers_foldl_call (process : Process) (calls : List Settings) :
    ∃ answers, (calls.foldl call process).answers = process.answers ++ answers ∧
      answers.length = calls.length := by
  induction calls generalizing process with
  | nil => exact ⟨[], (List.append_nil _).symm, rfl⟩
  | cons settings later ih =>
      obtain ⟨answers, added, sameLength⟩ := ih (process.call settings)
      refine ⟨(Recorder.install settings process.installed).1 :: answers, ?_, ?_⟩
      · rw [List.foldl_cons, added, call, List.append_assoc]
        rfl
      · rw [List.length_cons, List.length_cons, sameLength]

theorem length_answers_run (calls : List Settings) :
    (run calls).answers.length = calls.length := by
  obtain ⟨answers, added, sameLength⟩ := exists_answers_foldl_call ⟨[], none⟩ calls
  rw [run, added, List.nil_append, sameLength]

/-- Nothing replaces a recorder. -/
theorem installed_run_append_of_ne_none {earlier : List Settings}
    (isInstalled : (run earlier).installed ≠ none) (later : List Settings) :
    (run (earlier ++ later)).installed = (run earlier).installed := by
  obtain ⟨recorder, isRecorder⟩ := Option.ne_none_iff_exists'.1 isInstalled
  rw [installed_run] at isRecorder ⊢
  rw [installed_run, List.findSome?_append, isRecorder]
  rfl

end Process

/-- In every run of calls for installation, a call is told that its filter is invalid exactly if
it is, whatever is installed. With a valid filter it succeeds if no call before it did, and if
one did it is told that there is a recorder already. So at most one call succeeds, and this is
the first one with a valid filter: its filter and format are installed from there on, and no
call that fails changes what is installed. -/
theorem first_valid_filter_installed (earlier : List Settings) (settings : Settings)
    (later : List Settings) :
    let calls := earlier ++ settings :: later
    let before := Process.run earlier
    let after := Process.run (earlier ++ [settings])
    (Process.run calls).answers.countP Except.isOk ≤ 1 ∧
    ∃ answer answersLater,
      (Process.run calls).answers = before.answers ++ answer :: answersLater ∧
      before.answers.length = earlier.length ∧ answersLater.length = later.length ∧
      ((∃ error, answer = .error (.invalidLogFilter error)) ↔ ¬ settings.HasFilter) ∧
      (settings.HasFilter → .ok () ∉ before.answers → answer = .ok ()) ∧
      (settings.HasFilter → .ok () ∈ before.answers →
        ∃ reason, answer = .error (.subscriber reason)) ∧
      (answer = .ok () ↔ settings.HasFilter ∧ ∀ call ∈ earlier, ¬ call.HasFilter) ∧
      (∀ error, answer = .error error → after.installed = before.installed) ∧
      (answer = .ok () → before.installed = none ∧
        ∃ filter, Filter.ofText settings.logFilter = .ok filter ∧
          after.installed = some ⟨filter, settings.logFormat⟩ ∧
          (Process.run calls).installed = after.installed) := by
  intro calls before after
  have atMostOne : (Process.run calls).answers.countP Except.isOk ≤ 1 := by
    rw [Process.countP_isOk_answers_run]
    exact Bool.toNat_le _
  refine ⟨atMostOne, ?_⟩
  have isAfter : after = before.call settings := Process.run_concat earlier settings
  obtain ⟨answer, answered, installs⟩ := before.installs_call settings
  rw [← isAfter] at answered installs
  have goesOn : calls = (earlier ++ [settings]) ++ later := by
    rw [List.append_assoc, List.singleton_append]
  obtain ⟨answersLater, answeredLater, sameLength⟩ := after.exists_answers_foldl_call later
  have allAnswers : (Process.run calls).answers = before.answers ++ answer :: answersLater := by
    rw [goesOn, Process.run, List.foldl_append, ← Process.run, answeredLater, answered,
      List.append_assoc, List.singleton_append]
  refine ⟨answer, answersLater, allAnswers, Process.length_answers_run earlier, sameLength,
    installs.invalidLogFilter_iff, ?_, ?_, ?_, fun _ => installs.eq_of_error, ?_⟩
  · intro hasFilter noneBefore
    rw [Process.ok_mem_answers_run_iff, not_not] at noneBefore
    exact installs.ok_iff.2 ⟨hasFilter, noneBefore⟩
  · intro hasFilter oneBefore
    rw [Process.ok_mem_answers_run_iff] at oneBefore
    exact ⟨_, installs.eq_alreadyInstalled hasFilter oneBefore⟩
  · rw [installs.ok_iff, Process.installed_run_eq_none_iff]
  · intro succeeded
    obtain ⟨nothing, filter, isFilter, isInstalled⟩ := installs.exists_of_ok succeeded
    refine ⟨nothing, filter, isFilter, isInstalled, ?_⟩
    have isSome : after.installed ≠ none := by
      rw [isInstalled]
      exact Option.some_ne_none _
    rw [goesOn]
    exact Process.installed_run_append_of_ne_none isSome later

/-- Three calls: the first has a filter with a level that there is not, the second installs its
filter for records, and the third comes too late. -/
theorem first_valid_filter_installed_of_loud :
    let loud : Settings := { Settings.usual with logFilter := "app=loud" }
    let records : Settings := { Settings.usual with logFilter := "debug", logFormat := .json }
    let answers := (Process.run [loud, records, Settings.usual]).answers
    ¬ loud.HasFilter ∧ records.HasFilter ∧ Settings.usual.HasFilter ∧
      .ok () ∉ (Process.run [loud]).answers ∧ .ok () ∈ (Process.run [loud, records]).answers ∧
      (∃ first last, answers = first ++ .ok () :: last ∧ first.length = 1 ∧ last.length = 1) ∧
      ∃ first reason, answers = first ++ [.error (.subscriber reason)] ∧ first.length = 2 := by
  intro loud records answers
  have isError : Filter.ofText "app=loud" = .error .unknownLevel := rfl
  have isDebug : Filter.ofText "debug" = .ok ⟨[⟨[], none, none, some .debug⟩]⟩ := by rfl
  have isInfo : Filter.ofText "info" = .ok ⟨[⟨[], none, none, some .info⟩]⟩ := by rfl
  have noFilter : ¬ loud.HasFilter := Settings.not_hasFilter_of_error isError
  have hasFilter : records.HasFilter := ⟨_, isDebug⟩
  have usualHasFilter : Settings.usual.HasFilter := ⟨_, isInfo⟩
  have noneBefore : .ok () ∉ (Process.run [loud]).answers := by
    rw [Process.ok_mem_answers_run_iff, not_not, Process.installed_run_eq_none_iff]
    exact List.forall_mem_singleton.2 noFilter
  have oneBefore : .ok () ∈ (Process.run [loud, records]).answers := by
    rw [Process.ok_mem_answers_run_iff, ne_eq, Process.installed_run_eq_none_iff]
    intro noneHas
    exact noneHas records (List.mem_cons_of_mem _ List.mem_cons_self) hasFilter
  refine ⟨noFilter, hasFilter, usualHasFilter, noneBefore, oneBefore, ?_, ?_⟩
  · obtain ⟨-, answer, last, all, lengthBefore, lengthAfter, -, succeeds, -⟩ :=
      first_valid_filter_installed [loud] records [Settings.usual]
    rw [succeeds hasFilter noneBefore] at all
    exact ⟨_, last, all, lengthBefore, lengthAfter⟩
  · obtain ⟨-, answer, last, all, lengthBefore, lengthAfter, -, -, comesTooLate, -⟩ :=
      first_valid_filter_installed [loud, records] Settings.usual []
    obtain ⟨reason, told⟩ := comesTooLate usualHasFilter oneBefore
    rw [told, List.length_eq_zero_iff.1 lengthAfter] at all
    exact ⟨_, reason, all, lengthBefore⟩

end RpcBoundary
