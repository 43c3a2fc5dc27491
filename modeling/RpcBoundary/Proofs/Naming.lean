/-
# Names read off paths

A path spells the name of a call with a service, a slash and a method, and slashes at its
beginning do not count. `CallName.IsSpelledBy` says so without a search: the service is not empty
and has no slash, so the first slash behind it ends it, however many follow in the method. What
has no slash behind those at its beginning names no service and is a method as it stands.

Reading and spelling determine each other. Each way of spelling is read back
(`ofPath_of_isSpelledBy`), and every path is spelled in one of the two ways
(`exists_isSpelledBy`), so no path has two names and none is left out. Either way there is a
service to tell, and so the span in which a call runs behind a log always tells one.
-/

import Mathlib.Data.List.Basic
import Mathlib.Data.List.TakeWhile
import RpcBoundary.Proofs.RecordedCode

namespace RpcBoundary

namespace CallName

/-- So many slashes. -/
def slashes (count : Nat) : String := String.ofList (List.replicate count '/')

/-- The path to a call, behind so many slashes. The usual number is one. -/
def pathBehind (name : CallName) (leading : Nat) : String :=
  slashes leading ++ (name.service ++ "/" ++ name.method)

/-- The name of a call has a service that can be told from the method behind it. -/
structure IsProper (name : CallName) : Prop where
  nonempty : name.service ≠ ""
  noSlash : '/' ∉ name.service.toList

/-- The path spells the name. -/
inductive IsSpelledBy : CallName → String → Prop
  /-- The method is all that is behind the service and its slash. -/
  | named (leading : Nat) {name : CallName} (proper : name.IsProper) :
      IsSpelledBy name (name.pathBehind leading)
  /-- A path without a service is a method together with its slashes. -/
  | nameless (leading : Nat) {rest : String} (noSlash : '/' ∉ rest.toList) :
      IsSpelledBy ⟨"unknown", slashes leading ++ rest⟩ (slashes leading ++ rest)

variable {name : CallName} {path rest : String}

@[simp]
theorem toList_slashes (count : Nat) : (slashes count).toList = List.replicate count '/' :=
  String.toList_ofList

theorem dropWhile_slashes (count : Nat) {rest : List Char} (begins : rest.head? ≠ some '/') :
    (List.replicate count '/' ++ rest).dropWhile (· == '/') = rest := by
  have onlySlashes : ∀ c ∈ List.replicate count '/', (c == '/') = true := by
    intro c member
    rw [List.eq_of_mem_replicate member]
    rfl
  rw [List.dropWhile_append_of_pos onlySlashes]
  cases rest with
  | nil => rfl
  | cons first others => exact List.dropWhile_cons_of_neg (by simpa using begins)

theorem ne_slash_of_noSlash {text : List Char} (noSlash : '/' ∉ text) :
    ∀ c ∈ text, (c != '/') = true := by
  intro c member
  rw [bne_iff_ne]
  rintro rfl
  exact noSlash member

theorem takeWhile_append_slash {text : List Char} (noSlash : '/' ∉ text) (behind : List Char) :
    (text ++ '/' :: behind).takeWhile (· != '/') = text := by
  rw [List.takeWhile_append_of_pos (ne_slash_of_noSlash noSlash),
    List.takeWhile_cons_of_neg (by decide), List.append_nil]

theorem dropWhile_append_slash {text : List Char} (noSlash : '/' ∉ text) (behind : List Char) :
    (text ++ '/' :: behind).dropWhile (· != '/') = '/' :: behind := by
  rw [List.dropWhile_append_of_pos (ne_slash_of_noSlash noSlash),
    List.dropWhile_cons_of_neg (by decide)]

theorem head?_ne_slash_of_noSlash {text : List Char} (noSlash : '/' ∉ text) :
    text.head? ≠ some '/' := by
  intro begins
  exact noSlash (List.mem_of_head? begins)

theorem IsProper.head?_ne_slash (proper : name.IsProper) (behind : List Char) :
    (name.service.toList ++ behind).head? ≠ some '/' := by
  have nonempty : name.service.toList ≠ [] := String.toList_eq_nil_iff.not.2 proper.nonempty
  rw [List.head?_append_of_ne_nil _ nonempty]
  exact head?_ne_slash_of_noSlash proper.noSlash

/-- What was spelled is read back, whatever slashes the method has. -/
theorem ofPath_pathBehind (leading : Nat) (proper : name.IsProper) :
    ofPath (name.pathBehind leading) = name := by
  have trimmed : (name.pathBehind leading).toList.dropWhile (· == '/') =
      name.service.toList ++ '/' :: name.method.toList := by
    have spelled : (name.pathBehind leading).toList =
        List.replicate leading '/' ++ (name.service.toList ++ '/' :: name.method.toList) := by
      simp [pathBehind]
    rw [spelled, dropWhile_slashes leading (proper.head?_ne_slash _)]
  rw [ofPath, trimmed, takeWhile_append_slash proper.noSlash, dropWhile_append_slash proper.noSlash]
  simp only [String.ofList_toList]

/-- A path with no slash but those at its beginning is read as a method. -/
theorem ofPath_nameless (leading : Nat) (noSlash : '/' ∉ rest.toList) :
    ofPath (slashes leading ++ rest) = ⟨unknownService, slashes leading ++ rest⟩ := by
  have trimmed : (slashes leading ++ rest).toList.dropWhile (· == '/') = rest.toList := by
    rw [String.toList_append, toList_slashes,
      dropWhile_slashes leading (head?_ne_slash_of_noSlash noSlash)]
  have nothingBehind : rest.toList.dropWhile (· != '/') = [] :=
    List.dropWhile_eq_nil_iff.2 (ne_slash_of_noSlash noSlash)
  rw [ofPath, trimmed, nothingBehind]

/-- What is left behind the slashes at the beginning begins with none. -/
theorem exists_slashes_append (path : String) :
    ∃ leading rest, path = slashes leading ++ rest ∧ rest.toList.head? ≠ some '/' := by
  have areSlashes : path.toList.takeWhile (· == '/') =
      List.replicate (path.toList.takeWhile (· == '/')).length '/' := by
    apply List.eq_replicate_of_mem
    intro c member
    have isSlash := List.mem_takeWhile_imp member
    exact beq_iff_eq.1 isSlash
  refine ⟨(path.toList.takeWhile (· == '/')).length,
    String.ofList (path.toList.dropWhile (· == '/')), ?_, ?_⟩
  · rw [slashes, ← areSlashes, ← String.ofList_append, List.takeWhile_append_dropWhile,
      String.ofList_toList]
  · intro begins
    rw [String.toList_ofList] at begins
    have stopped := List.head?_dropWhile_not (· == '/') path.toList
    rw [begins] at stopped
    exact absurd stopped (by decide)

/-- There is no third way to spell a name. -/
theorem exists_isSpelledBy (path : String) : ∃ name : CallName, name.IsSpelledBy path := by
  obtain ⟨leading, rest, rfl, begins⟩ := exists_slashes_append path
  by_cases slash : '/' ∈ rest.toList
  · -- The service ends at the first slash, so it has none, and the path does not begin with it.
    obtain ⟨service, method, split, noSlash⟩ := List.eq_append_cons_of_mem slash
    have nonempty : service ≠ [] := by
      rintro rfl
      rw [split] at begins
      exact begins rfl
    have spelled : rest = String.ofList service ++ "/" ++ String.ofList method := by
      rw [← String.toList_inj, split]
      simp
    rw [spelled]
    exact ⟨⟨String.ofList service, String.ofList method⟩, .named leading
      ⟨by simpa using nonempty, by simpa using noSlash⟩⟩
  · exact ⟨_, .nameless leading slash⟩

/-- Either way of spelling is read back. -/
theorem ofPath_of_isSpelledBy (spelled : name.IsSpelledBy path) : ofPath path = name := by
  cases spelled with
  | named leading proper => exact ofPath_pathBehind leading proper
  | nameless leading noSlash => exact ofPath_nameless leading noSlash

/-- A path is read as the one name that it spells. -/
theorem ofPath_eq_iff : ofPath path = name ↔ name.IsSpelledBy path := by
  refine ⟨?_, ofPath_of_isSpelledBy⟩
  rintro rfl
  obtain ⟨name, spelled⟩ := exists_isSpelledBy path
  rw [ofPath_of_isSpelledBy spelled]
  exact spelled

/-- Slashes at the beginning are told with a method only if there is no service. -/
example : ofPath "//health" = ⟨"unknown", "//health"⟩ := by
  decide

theorem IsSpelledBy.isProper (spelled : name.IsSpelledBy path) : name.IsProper := by
  cases spelled with
  | named leading proper => exact proper
  | nameless leading noSlash =>
      have nonempty : "unknown" ≠ "" := by decide
      have noSlashInIt : '/' ∉ "unknown".toList := by decide
      exact ⟨nonempty, noSlashInIt⟩

end CallName

/-- The span tells the name of the call. -/
structure Span.TellsName (span : Span) (name : CallName) : Prop where
  service : span.fields.find? (fun field => field.name == "grpc.service") =
    some ⟨"grpc.service", .shown name.service⟩
  method : span.fields.find? (fun field => field.name == "grpc.method") =
    some ⟨"grpc.method", .shown name.method⟩

namespace CallLog

variable {ε α β : Type} [Loggable ε]

/-- A call to the service from behind the log is told within the span: the work of it that is
pending after the service has been called runs there, and there the log tells of it. -/
def TellsWithin (log : CallLog) (span : Span) (service : Service ε α β) (request : Request α)
    (around : Surroundings) : Prop :=
  let minted := request.headers.minted log.header
  let called := (service.call (log.handed request around)).run (around.after minted)
  let spans := around.spans ++ [span]
  ∀ pending, called.value = some pending → ∃ outcome,
    ((log.around service).complete request).run around =
        (called.followedBy outcome).minting minted ∧
      outcome.Surrounds (pending.run ((around.after (minted + called.minted)).within spans))
        fun event => event.spans = spans

theorem tellsWithin_spanFor (log : CallLog) (service : Service ε α β) (request : Request α)
    (around : Surroundings) :
    log.TellsWithin (log.spanFor request around) service request around := by
  unfold TellsWithin
  intro minted called spans pending started
  refine ⟨_, ?_, log.observe_surrounds (request.headers.settledId log.header around.fresh) pending
    ((around.after (minted + called.minted)).within spans)⟩
  rw [run_complete_around, Activity.run_bind, started]
  dsimp only
  rw [Activity.run_within, Surroundings.after_after]

omit [Loggable ε] in
theorem tellsName_spanFor (log : CallLog) (request : Request α) (around : Surroundings) :
    (log.spanFor request around).TellsName (.ofPath (pathOf request.target)) :=
  ⟨rfl, rfl⟩

end CallLog

/-- A path is read as the one name that it spells: either it has no slash behind those at its
beginning, and then it is as a whole the method of an unknown service, or it is a service that is
not empty and has no slash, behind any number of slashes, and then a slash and the method. In
particular every such name is read back from its path, however many slashes are before the
service or in the method. So a call to whatever service behind a log runs and is told within a
span that has the name spelled by its path, and never an empty service. -/
theorem call_named_as_spelled {ε α β : Type} [Loggable ε] :
    (∀ path name, CallName.ofPath path = name ↔ name.IsSpelledBy path) ∧
      (∀ (leading : Nat) (service method : String), service ≠ "" → '/' ∉ service.toList →
        CallName.ofPath (CallName.slashes leading ++ (service ++ "/" ++ method)) =
          ⟨service, method⟩) ∧
      ∀ (log : CallLog) (request : Request α) (around : Surroundings), ∃ span name,
        (∀ service : Service ε α β, log.TellsWithin span service request around) ∧
          span.TellsName name ∧ name.IsSpelledBy (pathOf request.target) ∧ name.service ≠ "" := by
  refine ⟨fun path name => CallName.ofPath_eq_iff, ?_, ?_⟩
  · intro leading service method nonempty noSlash
    have proper : CallName.IsProper ⟨service, method⟩ := ⟨nonempty, noSlash⟩
    have readBack := CallName.ofPath_pathBehind leading proper
    rw [CallName.pathBehind] at readBack
    exact readBack
  · intro log request around
    have spelled : (CallName.ofPath (pathOf request.target)).IsSpelledBy (pathOf request.target) :=
      CallName.ofPath_eq_iff.1 rfl
    refine ⟨log.spanFor request around, _, ?_, log.tellsName_spanFor request around, spelled,
      spelled.isProper.nonempty⟩
    intro service
    exact log.tellsWithin_spanFor service request around

/-- Slashes before the service and in the method do not come between the two. -/
theorem call_named_as_spelled_of_slashes :
    "seats.Seats" ≠ "" ∧ '/' ∉ "seats.Seats".toList ∧
      CallName.ofPath "//seats.Seats/Reserve/now/" = ⟨"seats.Seats", "Reserve/now/"⟩ := by
  have nonempty : "seats.Seats" ≠ "" := by decide
  have noSlash : '/' ∉ "seats.Seats".toList := by decide
  have written : CallName.slashes 2 ++ ("seats.Seats" ++ "/" ++ "Reserve/now/") =
      "//seats.Seats/Reserve/now/" := by decide
  obtain ⟨-, readBack, -⟩ :=
    call_named_as_spelled (ε := TransportError) (α := Payload) (β := Payload)
  have read := readBack 2 "seats.Seats" "Reserve/now/" nonempty noSlash
  rw [written] at read
  exact ⟨nonempty, noSlash, read⟩

end RpcBoundary
