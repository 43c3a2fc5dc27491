/-
# The code of a failed call, wherever it is recorded

A call that fails behind a log leaves its code in three places. The handler tells it when it
makes the status, the status carries it to the caller, and the log tells it once the call is
over. By then the log has nothing but a response to go by, in which the code is written as
digits. `Event.code?` reads the code back from a record, and `failure_recorded_under_one_code`
says that all three are the same. How a status becomes a response is left open (`ofCallBy`):
all that counts is that the code is written, and nothing beside it.
-/

import RpcBoundary.Proofs.Stack

namespace RpcBoundary

/-- The code with this name. -/
def Code.ofName? (name : String) : Option Code := all.find? fun code => code.name == name

theorem Code.ofName?_name (code : Code) : ofName? code.name = some code := by
  cases code <;> decide

/-- The code that an event tells, if it tells one. -/
def Event.code? (event : Event) : Option Code :=
  match event.fields.find? fun field => field.name == "grpc.code" with
  | some ⟨_, .shown name⟩ => Code.ofName? name
  | _ => none

theorem Status.values_headers_codeHeader (status : Status) :
    status.headers.values codeHeader = [⟨status.code.wire⟩] := by
  have notMessage : messageHeader ≠ codeHeader := by decide
  have notDetails : detailsHeader ≠ codeHeader := by decide
  rw [headers]
  by_cases noMessage : status.message.isEmpty <;> by_cases noDetails : status.details.isEmpty <;>
    simp [noMessage, noDetails, Headers.values_insert, notMessage, notDetails]

namespace Service

variable {ε α β : Type}

/-- The answer to a call of which the statuses become responses in this way. -/
def answerBy (respond : Status → Response (Option β)) :
    Except Status (Response β) → Answered ε (Option β)
  | .ok response => .ok (response.mapBody some)
  | .error status => .ok (respond status)

/-- The service of a call of which the statuses become responses in this way. -/
def ofCallBy (respond : Status → Response (Option β))
    (call : Request α → Activity (Except Status (Response β))) : Service ε α (Option β) where
  ready := .ok ()
  call request := pure (call request >>= fun result => pure (answerBy respond result))

/-- The service of a call sends a status as the headers of a response. -/
theorem ofCall_eq_ofCallBy (call : Request α → Activity (Except Status (Response β))) :
    (ofCall call : Service ε α (Option β)) = ofCallBy Response.ofStatus call := by
  have same (request : Request α) :
      (ofCall call : Service ε α (Option β)).call request =
        (ofCallBy Response.ofStatus call).call request := by
    apply congrArg pure
    apply bind_congr
    intro result
    cases result <;> rfl
  exact congrArg (Service.mk (.ok ())) (funext same)

end Service

namespace CallLog

variable {ε α β : Type}

/-- The code that was written is the one that is read. -/
theorem codeOf_of_values_eq {headers : Headers} {code : Code}
    (written : headers.values Status.codeHeader = [⟨code.wire⟩]) : codeOf headers = code := by
  rw [codeOf, Headers.get?, written]
  exact Code.ofWire_wire code

/-- Writing the id into a response leaves the code alone, also if the id goes by its header. -/
theorem values_codeHeader_returnId (header : HeaderName) (id : RequestId) {response : Response β}
    {value : HeaderValue} (written : response.headers.values Status.codeHeader = [value]) :
    (returnId header id response).headers.values Status.codeHeader = [value] := by
  rw [returnId]
  split
  next own isValue =>
    rw [Headers.insertIfAbsent]
    by_cases present : response.headers.contains header = true
    · rw [if_pos present]
      exact written
    · have other : header ≠ Status.codeHeader := by
        intro same
        apply present
        rw [Headers.contains_eq, same, written]
        rfl
      rw [if_neg present, Headers.values_append, if_neg other, List.append_nil]
      exact written
  next => exact written

/-- The span that the log opens for a request. -/
def spanFor (log : CallLog) (request : Request α) (around : Surroundings) : Span :=
  log.span (request.headers.settledId log.header around.fresh) request.target

/-- The request as the log hands it on. -/
def handed (log : CallLog) (request : Request α) (around : Surroundings) : Request α :=
  request.withHeaders (request.headers.settled log.header around.fresh)

/-- The surroundings in which the work of the call is pending behind the log. -/
def behind (log : CallLog) (request : Request α) (around : Surroundings) : Surroundings :=
  (around.after (request.headers.minted log.header)).within
    (around.spans ++ [log.spanFor request around])

variable [Loggable ε]

/-- The whole run of a service behind the log, in which the service starts outside of the span
of the log and its pending work runs within. -/
theorem run_complete_around (log : CallLog) (service : Service ε α β) (request : Request α)
    (around : Surroundings) :
    ((log.around service).complete request).run around =
      ((service.call (log.handed request around) >>= fun pending =>
        Activity.within (around.spans ++ [log.spanFor request around])
          (log.observe (request.headers.settledId log.header around.fresh) pending)).run
            (around.after (request.headers.minted log.header))).minting
              (request.headers.minted log.header) :=
  ((Layer.callLog log).admits_settled request around).run_complete service

/-- A call behind the log: it runs within the span of the log on the request that was handed
on, and the log tells of it before and after. -/
theorem run_complete_ofCallBy (log : CallLog) (respond : Status → Response (Option β))
    (call : Request α → Activity (Except Status (Response β))) (request : Request α)
    (around : Surroundings) :
    ((log.around (.ofCallBy respond call) : Service ε α (Option β)).complete request).run around =
      let outcome := (call (log.handed request around)).run (log.behind request around)
      let spans := around.spans ++ [log.spanFor request around]
      let answer : Except Status (Response β) → Answered ε (Option β) := Service.answerBy respond
      ⟨outcome.value.map fun result => (answer result).map
          (returnId log.header (request.headers.settledId log.header around.fresh)),
        log.startEvents spans ++ (outcome.events ++
          outcome.value.elim [] fun result => log.finishEvents spans (answer result)),
        request.headers.minted log.header + outcome.minted⟩ := by
  rw [run_complete_around, Service.ofCallBy, Activity.pure_bind, Activity.run_within, run_observe,
    Activity.run_bind_pure]
  simp only [Outcome.map, Outcome.minting, Option.map_map, Option.elim_map]
  rfl

/-- What is logged of a call that fails with this code. The handler tells the code within its
span, and this span lies within that of the log. If the log tells of the end of the call at
all, it does so within its own span, with the code and as seriously as its side takes it. The
rest of what the two tell has no code. -/
structure RecordsFailure (log : CallLog) (code : Code) (outer : List Span) (call : Span)
    (opening judged : List Event) (failed : Event) (closing : List Event) : Prop where
  failed : failed.target = Target.handler ∧ failed.message = "unary call failed" ∧
    failed.code? = some code ∧ failed.spans = outer ++ [call]
  finished : ∀ event ∈ closing, event.target = Target.callLog ∧ event.message = "finished call" ∧
    event.code? = some code ∧ event.severity = log.side.severityOf code ∧ event.spans = outer
  /-- The end of the call is told once if it is to be logged. -/
  once : closing.length = if log.milestones.contains .finishCall then 1 else 0
  others : ∀ event ∈ opening ++ judged, event.code? = none ∧
    (event.target = Target.callLog ∧ event.spans = outer ∨
      event.target ≠ Target.callLog ∧ event.spans = outer ++ [call])

theorem code?_of_mem_startEvents {log : CallLog} {spans : List Span} {event : Event}
    (member : event ∈ log.startEvents spans) :
    event.code? = none ∧ event.target = Target.callLog := by
  rw [eq_of_mem_startEvents member]
  exact ⟨rfl, rfl⟩

/-- The end of a call is told with the code that the response has. -/
theorem finishEvents_of_code {log : CallLog} {spans : List Span} {response : Response β}
    {code : Code} (isCode : codeOf response.headers = code) {event : Event}
    (member : event ∈ log.finishEvents spans (.ok response : Answered ε β)) :
    event.target = Target.callLog ∧ event.message = "finished call" ∧
      event.code? = some code ∧ event.severity = log.side.severityOf code ∧
      event.spans = spans := by
  rw [finishEvents, List.mem_ite_nil_right, List.mem_singleton, isCode] at member
  rw [member.2]
  exact ⟨rfl, rfl, code.ofName?_name, rfl, rfl⟩

theorem length_finishEvents (log : CallLog) (spans : List Span) (answered : Answered ε β) :
    (log.finishEvents spans answered).length =
      if log.milestones.contains .finishCall then 1 else 0 := by
  unfold finishEvents
  split
  · cases answered <;> rfl
  · rfl

end CallLog

theorem Ground.code?_of_mem_events {typeName : String} {spans : List Span} {ground : Ground}
    {event : Event} (member : event ∈ ground.events typeName spans) :
    event.code? = none ∧ event.target = Target.classify := by
  cases ground with
  | text said =>
      rw [events, List.mem_singleton] at member
      rw [member]
      exact ⟨rfl, rfl⟩
  | _ => cases member

namespace CallHandler

variable {α β : Type} [Loggable α]

theorem code?_of_mem_received {handler : CallHandler} {payload : α} {spans : List Span}
    {event : Event} (member : event ∈ handler.payloadEvents .payloadReceived "payload received"
      "grpc.request.content" payload spans) :
    event.code? = none ∧ event.target = Target.handler := by
  rw [eq_of_mem_payloadEvents member]
  exact ⟨rfl, rfl⟩

/-- The event that tells of a failure. -/
def failedEvent (errorType : String) (code : Code) (spans : List Span) : Event :=
  ⟨.debug, Target.handler, "unary call failed",
    [⟨"error_type", .text errorType⟩, ⟨"grpc.code", .shown code.name⟩], spans⟩

theorem code?_failedEvent (errorType : String) (code : Code) (spans : List Span) :
    (failedEvent errorType code spans).code? = some code :=
  code.ofName?_name

end CallHandler

namespace CallLog

variable {ε α β : Type} [Loggable ε] [Loggable α]

/-- A response in which the code of the status is written makes the log record the code that
the handler told. -/
theorem recordsFailure (log : CallLog) (handler : CallHandler) {response : Response (Option β)}
    {ground : Ground} (written : codeOf response.headers = ground.sent.code) (typeName : String)
    (payload : α) (outer : List Span) (call : Span) :
    log.RecordsFailure ground.sent.code outer call
      (log.startEvents outer ++ handler.payloadEvents .payloadReceived "payload received"
        "grpc.request.content" payload (outer ++ [call]))
      (ground.events typeName (outer ++ [call]))
      (CallHandler.failedEvent typeName ground.sent.code (outer ++ [call]))
      (log.finishEvents outer (.ok response : Answered ε (Option β))) where
  failed := ⟨rfl, rfl, CallHandler.code?_failedEvent _ _ _, rfl⟩
  finished := fun event member => finishEvents_of_code written member
  once := log.length_finishEvents outer (.ok response : Answered ε (Option β))
  others := by
    have notHandler : Target.handler ≠ Target.callLog := by decide
    have notClassify : Target.classify ≠ Target.callLog := by decide
    intro event member
    rcases List.mem_append.1 member with opening | judged
    · rcases List.mem_append.1 opening with start | received
      · obtain ⟨noCode, ofLog⟩ := code?_of_mem_startEvents start
        exact ⟨noCode, .inl ⟨ofLog, spans_of_mem_startEvents start⟩⟩
      · obtain ⟨noCode, ofHandler⟩ := CallHandler.code?_of_mem_received received
        exact ⟨noCode,
          .inr ⟨ofHandler ▸ notHandler, CallHandler.spans_of_mem_payloadEvents received⟩⟩
    · obtain ⟨noCode, ofClassifier⟩ := Ground.code?_of_mem_events judged
      exact ⟨noCode, .inr ⟨ofClassifier ▸ notClassify, Ground.spans_of_mem_events judged⟩⟩

end CallLog

/-- A call that fails behind a log has one code. It is that of the status which the error is
given and the handler returns. The handler tells it within its span, which lies within that of
the log, and the log tells it again, as seriously as its side takes it, though all it has to go
by is a response in which the code is written as digits. The caller reads it there as well. -/
theorem failure_recorded_under_one_code {ε α β : Type} [Loggable ε] [Loggable α] [Loggable β]
    {respond : Status → Response (Option β)}
    (writes : ∀ status : Status,
      (respond status).headers.values Status.codeHeader = [⟨status.code.wire⟩])
    (log : CallLog) (handler : CallHandler) (body : CallBody α β) (request : Request α)
    (around : Surroundings) :
    let handed := log.handed request around
    let behind := log.behind request around
    let id := CallHandler.servedId handed behind.fresh
    let inside := CallHandler.inside behind (CallHandler.mintedFor handed) id
    let outer := around.spans ++ [log.spanFor request around]
    let work := (body.run (handed.withId id)).run inside
    let run := ((log.around (.ofCallBy respond (handler.unary body)) :
      Service ε α (Option β)).complete request).run around
    (log.spanFor request around).name = "grpc" ∧ (CallHandler.span id).name = "call" ∧
      inside.spans = outer ++ [CallHandler.span id] ∧
      ∀ failure, work.value = some (.error failure) →
        ∃ status response opening judged failed closing,
          ((toStatus (.ofFailure body.errorType failure)).run around).value = some status ∧
          ((handler.unary body handed).run behind).value = some (.error status) ∧
          run.value = some (.ok response) ∧ CallLog.codeOf response.headers = status.code ∧
          run.events = opening ++ (work.events ++ (judged ++ failed :: closing)) ∧
          log.RecordsFailure status.code outer (CallHandler.span id) opening judged failed
            closing := by
  intro handed behind id inside outer work run
  refine ⟨rfl, rfl, rfl, ?_⟩
  intro failure failed
  have ran : run = _ := log.run_complete_ofCallBy respond (handler.unary body) request around
  have returned := handler.run_unary_of_failure failed
  rw [returned] at ran
  have written := writes (Evidence.ofFailure body.errorType failure).ground.sent
  refine ⟨_, _, _, _, _, _, by rw [run_toStatus], congrArg Outcome.value returned,
    congrArg Outcome.value ran, ?_, ?_,
    log.recordsFailure (ε := ε) handler (CallLog.codeOf_of_values_eq written) body.errorType
      handed.body outer (CallHandler.span id)⟩
  · exact CallLog.codeOf_of_values_eq (CallLog.values_codeHeader_returnId _ _ written)
  · rw [ran]
    simp only [CallHandler.closingEvents, List.append_assoc, List.singleton_append]
    rfl

/-- A call fails with a status of its own behind the log of a client, which takes a lack of
seats lightly. The metadata of the status cannot pass for another code. -/
theorem failure_recorded_under_one_code_of_sold_out :
    let metadata : Headers := ⟨[(⟨"grpc-status"⟩, .ofChars ['0']), (⟨"x-row"⟩, .ofChars ['9'])]⟩
    let soldOut : Status := ⟨.resourceExhausted, "no seats", [7], metadata⟩
    let failure : Failure := ⟨.plain "reserve", .finite [.status soldOut "sold out"]⟩
    let body : CallBody Payload Payload := ⟨"SeatError", fun _ => pure (.error failure)⟩
    let request : Request Payload := ⟨"/seats.Seats/Reserve", .empty, .empty, .nothing⟩
    let service : Service TransportError Payload (Option Payload) :=
      .ofCall (CallHandler.usual.unary body)
    let run := (((CallLog.usual .client).around service).complete request).run ⟨[], fun _ => 0⟩
    (∀ status : Status, (Response.ofStatus status : Response (Option Payload)).headers.values
        Status.codeHeader = [⟨status.code.wire⟩]) ∧
      (∃ response, run.value = some (.ok response) ∧
        CallLog.codeOf response.headers = .resourceExhausted) ∧
      (∃ failed ∈ run.events, failed.message = "unary call failed" ∧
        failed.code? = some .resourceExhausted) ∧
      ∃ finished ∈ run.events, finished.message = "finished call" ∧ finished.severity = .debug ∧
        finished.code? = some .resourceExhausted := by
  intro metadata soldOut failure body request service run
  have writes (status : Status) :
      (Response.ofStatus status : Response (Option Payload)).headers.values Status.codeHeader =
        [⟨status.code.wire⟩] := status.values_headers_codeHeader
  obtain ⟨-, -, -, records⟩ := failure_recorded_under_one_code (ε := TransportError) writes
    (.usual .client) .usual body request ⟨[], fun _ => 0⟩
  rw [← Service.ofCall_eq_ofCallBy] at records
  obtain ⟨status, response, opening, judged, failed, closing, given, -, answered, isCode, told,
    recorded⟩ := records failure rfl
  obtain rfl : soldOut = status := Option.some.inj given
  obtain ⟨finished, only⟩ : ∃ finished, closing = [finished] :=
    List.length_eq_one_iff.1 recorded.once
  have isFinished : finished ∈ closing := by simp [only]
  obtain ⟨-, message, code, severity, -⟩ := recorded.finished finished isFinished
  obtain ⟨-, failedMessage, failedCode, -⟩ := recorded.failed
  have toldFailed : failed ∈ run.events := told ▸ by simp
  have toldFinished : finished ∈ run.events := told ▸ by simp [isFinished]
  exact ⟨writes, ⟨response, answered, isCode⟩, ⟨failed, toldFailed, failedMessage, failedCode⟩,
    finished, toldFinished, message, severity, code⟩

end RpcBoundary
