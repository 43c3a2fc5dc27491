/-
# What a log of calls leaves alone

A log changes at most one header of the request and one of the response, and it leaves an error
of the service as it is. It tells of a call before and after it, and what it tells of the end is
read off what the service answered. `call_log_frames_service` states this for one log in front
of any service. The service stands behind the existential quantifiers there, so the request that
is handed on, its id and the span of the log are the same for every service.

The log gives up on the id without a word where it cannot be written into a header. That this
never happens has two reasons. An id that was minted consists of readable characters, and one
that was accepted was itself read from a value (`HeaderValue.ofText?_of_text?`), which is then
also the value that the response gets.
-/

import RpcBoundary.Proofs.RecordedCode

namespace RpcBoundary

namespace Code

theorem wire_ofWire {bytes : List UInt8} (known : ofWire bytes ≠ unknown) :
    (ofWire bytes).wire = bytes := by
  rw [ofWire] at known ⊢
  cases found : all.find? fun code => code.wire == bytes with
  | some code =>
      have same := List.find?_some found
      rw [beq_iff_eq] at same
      exact same
  | none =>
      rw [found] at known
      exact absurd rfl known

theorem ofWire_eq_unknown {bytes : List UInt8} (foreign : ∀ code : Code, bytes ≠ code.wire) :
    ofWire bytes = unknown := by
  by_cases known : ofWire bytes = unknown
  · exact known
  · exact absurd (wire_ofWire known).symm (foreign _)

theorem ofWire_eq_ok_iff {bytes : List UInt8} : ofWire bytes = ok ↔ bytes = ok.wire := by
  constructor
  · intro isOk
    have known : ofWire bytes ≠ unknown := by
      rw [isOk]
      decide
    have same := wire_ofWire known
    rw [isOk] at same
    exact same.symm
  · rintro rfl
    exact ofWire_wire ok

theorem name_eq_ok_iff {code : Code} : code.name = "Ok" ↔ code = ok := by
  cases code <;> decide

theorem number_le (code : Code) : code.number ≤ 16 := by
  cases code <;> decide

end Code

namespace CallLog

variable {ε α β : Type}

/-- The request as the log hands it on: the value is the first one of its header, and nothing
else is changed. -/
structure HandsOn (log : CallLog) (value : HeaderValue) (request handed : Request α) : Prop where
  first : handed.headers.get? log.header = some value
  others : handed.headers.erase log.header = request.headers.erase log.header
  target : handed.target = request.target
  extensions : handed.extensions = request.extensions
  body : handed.body = request.body

/-- The response as the log gives it back: the header of the log is as it was or, if there was
none, has the value and no other. -/
structure GivesBack (log : CallLog) (value : HeaderValue) (response returned : Response β) :
    Prop where
  httpStatus : returned.httpStatus = response.httpStatus
  body : returned.body = response.body
  others : returned.headers.erase log.header = response.headers.erase log.header
  kept : response.headers.values log.header ≠ [] → returned.headers = response.headers
  added : response.headers.values log.header = [] → returned.headers.values log.header = [value]

/-- The answer as the log returns it. -/
inductive Returns (log : CallLog) (value : HeaderValue) : Answered ε β → Answered ε β → Prop
  | ok {response returned : Response β} (givesBack : log.GivesBack value response returned) :
      Returns log value (.ok response) (.ok returned)
  /-- That the service itself failed is not touched. -/
  | error (error : ε) : Returns log value (.error error) (.error error)

/-- What code the headers of a response report, and under which name it is told. -/
structure Reports (headers : Headers) (code : Code) : Prop where
  /-- The call went well if they say nothing of it or say zero. -/
  ok_iff : code = .ok ↔ headers.get? ⟨"grpc-status"⟩ = none ∨
    headers.get? ⟨"grpc-status"⟩ = some (.ofChars ['0'])
  /-- This is told by the name of the code. -/
  told_ok_iff : code.name = "Ok" ↔ headers.get? ⟨"grpc-status"⟩ = none ∨
    headers.get? ⟨"grpc-status"⟩ = some (.ofChars ['0'])
  /-- The decimal number of a code stands for this code. -/
  decimal : ∀ own : Code,
    headers.get? ⟨"grpc-status"⟩ = some (.ofChars (Nat.toDigits 10 own.number)) → code = own
  /-- Whatever is not the decimal number of a code stands for an unknown one. -/
  foreign : ∀ value, headers.get? ⟨"grpc-status"⟩ = some value →
    (∀ n ≤ 16, value ≠ .ofChars (Nat.toDigits 10 n)) → code = .unknown ∧ code.name = "Unknown"

/-- The event with which the log tells of the end of a call. -/
inductive TellsEnd [Loggable ε] (log : CallLog) (spans : List Span) : Answered ε β → Event → Prop
  | ok {response : Response β} {code : Code} (reports : Reports response.headers code) :
      TellsEnd log spans (.ok response)
        ⟨log.side.severityOf code, Target.callLog, "finished call",
          [⟨"grpc.code", .shown code.name⟩, ⟨"grpc.time_ms", .elapsed⟩], spans⟩
  | error (error : ε) :
      TellsEnd log spans (.error error)
        ⟨.error, Target.callLog, "finished call",
          [⟨"error", .shown (Loggable.logged error)⟩, ⟨"grpc.time_ms", .elapsed⟩], spans⟩

/-- How a call behind the log ends: what is returned for what the service answered, and that the
end is told once if it is to be told. -/
structure Concludes [Loggable ε] (log : CallLog) (value : HeaderValue) (spans : List Span)
    (answered : Answered ε β) (answer : Option (Answered ε β)) (closing : List Event) : Prop where
  answer : ∃ returned, answer = some returned ∧ log.Returns value answered returned
  told : log.milestones.contains .finishCall = true →
    ∃ event, closing = [event] ∧ log.TellsEnd spans answered event
  untold : log.milestones.contains .finishCall = false → closing = []

theorem handsOn_handed (log : CallLog) (request : Request α) (around : Surroundings) :
    ∃ value, log.HandsOn value request (log.handed request around) ∧
      value.text? = some (request.headers.settledId log.header around.fresh).text := by
  obtain ⟨value, first, readable, -⟩ := Headers.requestId?_eq_some_iff.1
    (Headers.requestId?_settled request.headers log.header (around.random 0))
  exact ⟨value, ⟨first, Headers.erase_settled request.headers log.header around.fresh, rfl, rfl,
    rfl⟩, readable⟩

theorem returnId_of_ofText? {id : RequestId} {value : HeaderValue}
    (written : HeaderValue.ofText? id.text = some value) (header : HeaderName)
    (response : Response β) :
    returnId header id response =
      { response with headers := response.headers.insertIfAbsent header value } := by
  rw [returnId, written]

theorem givesBack_returnId (log : CallLog) {id : RequestId} {value : HeaderValue}
    (written : HeaderValue.ofText? id.text = some value) (response : Response β) :
    log.GivesBack value response (returnId log.header id response) := by
  rw [returnId_of_ofText? written]
  by_cases present : response.headers.contains log.header = true
  · have some : response.headers.values log.header ≠ [] := by
      rw [Headers.contains_eq] at present
      simpa using present
    have kept : response.headers.insertIfAbsent log.header value = response.headers := by
      rw [Headers.insertIfAbsent, if_pos present]
    rw [kept]
    exact ⟨rfl, rfl, rfl, fun _ => rfl, fun none => absurd none some⟩
  · have none : response.headers.values log.header = [] := by
      rw [Headers.contains_eq] at present
      simpa using present
    have added : response.headers.insertIfAbsent log.header value =
        response.headers.append log.header value := by
      rw [Headers.insertIfAbsent, if_neg present]
    rw [added]
    refine ⟨rfl, rfl, Headers.erase_append .., fun some => absurd none some, fun _ => ?_⟩
    show (response.headers.append log.header value).values log.header = [value]
    rw [Headers.values_append, if_pos rfl, none, List.nil_append]

theorem returns_map_returnId (log : CallLog) {id : RequestId} {value : HeaderValue}
    (written : HeaderValue.ofText? id.text = some value) (answered : Answered ε β) :
    log.Returns value answered (answered.map (returnId log.header id)) := by
  cases answered with
  | ok response => exact .ok (log.givesBack_returnId written response)
  | error error => exact .error error

theorem codeOf_of_get?_eq_some {headers : Headers} {value : HeaderValue}
    (first : headers.get? ⟨"grpc-status"⟩ = some value) :
    codeOf headers = Code.ofWire value.bytes := by
  have isCode : headers.get? Status.codeHeader = some value := first
  rw [codeOf, isCode]

theorem codeOf_of_get?_eq_none {headers : Headers}
    (missing : headers.get? ⟨"grpc-status"⟩ = none) : codeOf headers = .ok := by
  have noCode : headers.get? Status.codeHeader = none := missing
  rw [codeOf, noCode]

theorem codeOf_eq_ok_iff {headers : Headers} :
    codeOf headers = .ok ↔ headers.get? ⟨"grpc-status"⟩ = none ∨
      headers.get? ⟨"grpc-status"⟩ = some (.ofChars ['0']) := by
  cases first : headers.get? ⟨"grpc-status"⟩ with
  | none => simp [codeOf_of_get?_eq_none first]
  | some value =>
      obtain ⟨bytes⟩ := value
      have zero : HeaderValue.ofChars ['0'] = ⟨Code.ok.wire⟩ := by decide
      rw [codeOf_of_get?_eq_some first, Code.ofWire_eq_ok_iff, zero]
      simp

theorem reports_codeOf (headers : Headers) : Reports headers (codeOf headers) where
  ok_iff := codeOf_eq_ok_iff
  told_ok_iff := Code.name_eq_ok_iff.trans codeOf_eq_ok_iff
  decimal := by
    intro own first
    rw [codeOf_of_get?_eq_some first]
    exact Code.ofWire_wire own
  foreign := by
    intro value first foreign
    have notWire : ∀ own : Code, value.bytes ≠ own.wire := by
      intro own same
      exact foreign own.number own.number_le (congrArg HeaderValue.mk same)
    rw [codeOf_of_get?_eq_some first, Code.ofWire_eq_unknown notWire]
    exact ⟨rfl, rfl⟩

variable [Loggable ε]

theorem tellsEnd_of_mem_finishEvents {log : CallLog} {spans : List Span}
    {answered : Answered ε β} {event : Event}
    (member : event ∈ log.finishEvents spans answered) : log.TellsEnd spans answered event := by
  unfold finishEvents at member
  rw [List.mem_ite_nil_right] at member
  obtain ⟨-, member⟩ := member
  cases answered with
  | ok response =>
      rw [List.mem_singleton.1 member]
      exact .ok (reports_codeOf response.headers)
  | error error =>
      rw [List.mem_singleton.1 member]
      exact .error error

theorem concludes_finishEvents (log : CallLog) {id : RequestId} {value : HeaderValue}
    (written : HeaderValue.ofText? id.text = some value) (spans : List Span)
    (answered : Answered ε β) :
    log.Concludes value spans answered (some (answered.map (returnId log.header id)))
      (log.finishEvents spans answered) where
  answer := ⟨_, rfl, log.returns_map_returnId written answered⟩
  told := by
    intro enabled
    have once := log.length_finishEvents spans answered
    rw [if_pos enabled, List.length_eq_one_iff] at once
    obtain ⟨event, isEvent⟩ := once
    refine ⟨event, isEvent, tellsEnd_of_mem_finishEvents ?_⟩
    rw [isEvent]
    exact List.mem_singleton_self event
  untold := by
    intro disabled
    have never := log.length_finishEvents spans answered
    rw [disabled, if_neg Bool.false_ne_true, List.length_eq_zero_iff] at never
    exact never

omit [Loggable ε] in
theorem message_of_mem_startEvents {log : CallLog} {spans : List Span} {event : Event}
    (member : event ∈ log.startEvents spans) : event.message = "started call" := by
  rw [eq_of_mem_startEvents member]

theorem observe_traces (log : CallLog) {id : RequestId} {value : HeaderValue}
    (written : HeaderValue.ofText? id.text = some value)
    (pending : Activity (Answered ε β)) (around : Surroundings) :
    ((log.observe id pending).run around).Traces (pending.run around) 0 around.spans
      (log.startEvents around.spans) (log.Concludes value around.spans) := by
  have traces : Outcome.Traces _ (pending.run around) 0 around.spans
      (log.startEvents around.spans) (log.Concludes value around.spans) :=
    Outcome.traces_of_concludes 0 (log.concludes_finishEvents written around.spans)
    (fun event member => spans_of_mem_startEvents member)
    (fun answered event member => spans_of_mem_finishEvents member)
  rw [run_observe]
  dsimp only
  rw [Option.map_eq_bind]
  rw [Nat.zero_add] at traces
  exact traces

end CallLog

/-- A log in front of a service settles the id of the request, hands on the request with this id
as the first value of its header and otherwise as it came, and runs the work of the service
within one span that is made with the id. A response goes back with the id added if its header
was missing, which always succeeds, and otherwise as it came; an error of the service goes back
as it is. What is logged is at most one event at the start, what the service logs, and then, if
it is to be told, the end of the call, once, as the answer of the service reports it. -/
theorem call_log_frames_service {ε α β : Type} [Loggable ε] (log : CallLog) (request : Request α)
    (around : Surroundings) :
    ∃ id value minted handed,
      request.headers.Settles log.header around.fresh id handed.headers minted ∧
      log.HandsOn value request handed ∧ value.text? = some id.text ∧
      HeaderValue.ofText? id.text = some value ∧
      (log.span id request.target).name = "grpc" ∧ (log.span id request.target).Tells id ∧
      let spans := around.spans ++ [log.span id request.target]
      (∀ event ∈ log.startEvents spans, event.message = "started call") ∧
      ∀ service : Service ε α β,
        let called := (service.call handed).run (around.after minted)
        let run := ((log.around service).complete request).run around
        (called.value = none → run = ⟨none, called.events, minted + called.minted⟩) ∧
        ∀ pending, called.value = some pending →
          ∃ outcome, run = (called.followedBy outcome).minting minted ∧
            outcome.Traces
              (pending.run ((around.after (minted + called.minted)).within spans)) 0 spans
              (log.startEvents spans) (log.Concludes value spans) := by
  obtain ⟨value, handsOn, readable⟩ := log.handsOn_handed request around
  have written := HeaderValue.ofText?_of_text? readable
  refine ⟨_, value, _, log.handed request around,
    request.headers.settles_settled log.header (around.random 0), handsOn, readable, written, rfl,
    log.span_tells _ _, fun event member => CallLog.message_of_mem_startEvents member, ?_⟩
  intro service called run
  have ran : run = _ := log.run_complete_around service request around
  rw [Activity.run_bind] at ran
  constructor
  · intro unfinished
    rw [unfinished] at ran
    exact ran
  · intro pending finished
    rw [finished] at ran
    dsimp only at ran
    rw [Activity.run_within, Surroundings.after_after] at ran
    exact ⟨_, ran, log.observe_traces written pending _⟩

/-- A service answers with an id of its own and with a code that has a zero too many. The
response goes back with that id, and the end of the call is told as unknown. -/
theorem call_log_frames_service_of_strange_code :
    let ownId : HeaderValue := .ofChars "own".toList
    let headers : Headers :=
      ⟨[(⟨"x-request-id"⟩, ownId), (⟨"grpc-status"⟩, .ofChars ['0', '5'])]⟩
    let response : Response (Option Payload) := ⟨200, headers, none⟩
    let service : Service TransportError Payload (Option Payload) :=
      ⟨.ok (), fun _ => pure (pure (.ok response))⟩
    let request : Request Payload := ⟨"/seats.Seats/Reserve", .empty, .empty, .nothing⟩
    let run := (((CallLog.usual .server).around service).complete request).run ⟨[], fun _ => 0⟩
    (∃ returned : Response (Option Payload), run.value = some (.ok returned) ∧
        returned.headers = headers) ∧
      ∃ finished ∈ run.events, finished.message = "finished call" ∧
        finished.fields.head? = some ⟨"grpc.code", .shown "Unknown"⟩ := by
  intro ownId headers response service request run
  obtain ⟨id, value, minted, handed, -, -, -, -, -, -, -, frames⟩ :=
    call_log_frames_service (ε := TransportError) (β := Option Payload) (.usual .server) request
      ⟨[], fun _ => 0⟩
  obtain ⟨outcome, ran, traces⟩ := (frames service).2 (pure (.ok response)) rfl
  obtain ⟨after, concludes, told⟩ := traces.finished (.ok response) rfl
  obtain ⟨answer, isAnswer, returns⟩ := concludes.answer
  obtain ⟨finished, only, tellsEnd⟩ := concludes.told (by decide)
  have returned : run.value = some answer := (congrArg Outcome.value ran).trans isAnswer
  have toldLast : finished ∈ outcome.events := by
    rw [told, only]
    simp
  have toldAtAll : finished ∈ run.events := by
    have isRun : run = _ := ran
    rw [isRun]
    exact List.mem_append_right _ toldLast
  constructor
  · cases returns with
    | ok givesBack => exact ⟨_, returned, givesBack.kept (by decide)⟩
  · refine ⟨finished, toldAtAll, ?_⟩
    cases tellsEnd with
    | ok reports =>
        obtain ⟨-, unknown⟩ := reports.foreign _ rfl (by decide)
        rw [unknown]
        exact ⟨rfl, rfl⟩

end RpcBoundary
