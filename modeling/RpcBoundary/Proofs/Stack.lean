/-
# One id for a whole stack

Call logs and taggers may stand around a call in any number and order. Each of them
looks for the id of the call and would mint one if it found none, but it finds what
the layers before it have left. `Admits` says what one layer does with a request, in
front of any service: under which id it goes on and how many ids it minted.
`Descends` says the same of a stack, layer by layer and under a single id. The
invariant is that the headers hold this id: the first layer brings it about, and every
further layer keeps it without minting.
-/

import Mathlib.Algebra.GroupWithZero.Nat
import RpcBoundary.Call.Stack
import RpcBoundary.Proofs.CallHandler
import RpcBoundary.Proofs.CallLog
import RpcBoundary.Proofs.RequestId

namespace RpcBoundary

namespace HeaderName

/-- The name that a text spells in upper or lower case. -/
def ofSpelling (spelling : String) : HeaderName :=
  ⟨String.ofList (spelling.toList.map Char.toLower)⟩

theorem eq_ofSpelling_of_ofText? {text : String} {name : HeaderName}
    (found : ofText? text = some name) : name = ofSpelling text := by
  rw [ofText?, Option.ite_none_right_eq_some] at found
  exact (Option.some.inj found.2).symm

end HeaderName

/-- The span tells that this is the id of the call. -/
def Span.Tells (span : Span) (id : RequestId) : Prop :=
  span.fields.find? (fun field => field.name == "request_id") =
    some ⟨"request_id", .shown id.text⟩

/-- The event is logged within spans of its own, and all of them tell the id. -/
def Event.IsWithin (event : Event) (outside : List Span) (id : RequestId) : Prop :=
  ∃ own, own ≠ [] ∧ event.spans = outside ++ own ∧ ∀ span ∈ own, span.Tells id

theorem CallLog.span_tells (log : CallLog) (id : RequestId) (target : String) :
    (log.span id target).Tells id := rfl

theorem CallHandler.span_tells (id : RequestId) : (span id).Tells id := rfl

namespace Service

variable {ε α β : Type}

/-- The result of a call as an answer: a status becomes a response that is over with
its headers. -/
def answerOf : Except Status (Response β) → Answered ε (Option β)
  | .ok response => .ok (response.mapBody some)
  | .error status => .ok (.ofStatus status)

/-- A call is pending as a whole, and nothing of it is done at once. -/
theorem call_ofCall (call : Request α → Activity (Except Status (Response β)))
    (request : Request α) :
    (ofCall call : Service ε α (Option β)).call request =
      pure (call request >>= fun result => pure (answerOf result)) := by
  apply congrArg pure
  apply bind_congr
  intro result
  cases result <;> rfl

end Service

namespace Layer

variable {ε α β : Type} [Loggable ε]

/-- The layer comes from settings that name this header in upper or lower case. -/
inductive IsSetUp (spelling : String) : Layer → Prop
  | callLog {settings : Settings} {side : Side} {log : CallLog}
      (same : HeaderName.ofSpelling settings.requestIdHeader = .ofSpelling spelling)
      (done : CallLog.ofSettings settings side = .ok log) : IsSetUp spelling (.callLog log)
  | idTagger {settings : Settings} {tagger : IdTagger}
      (same : HeaderName.ofSpelling settings.requestIdHeader = .ofSpelling spelling)
      (done : IdTagger.ofSettings settings = .ok tagger) : IsSetUp spelling (.idTagger tagger)

/-- The header under which the layer looks for the id. -/
def header : Layer → HeaderName
  | callLog log => log.header
  | idTagger tagger => tagger.key

/-- All spellings of the header make layers that look under the same name. -/
theorem IsSetUp.header_eq {spelling : String} {layer : Layer} (setUp : layer.IsSetUp spelling) :
    layer.header = .ofSpelling spelling := by
  cases setUp with
  | callLog same done =>
      rw [CallLog.ofSettings] at done
      split at done
      next name found =>
        cases done
        rw [header, ← same, HeaderName.eq_ofSpelling_of_ofText? found]
      next => cases done
  | idTagger same done =>
      rw [IdTagger.ofSettings] at done
      split at done
      next name found =>
        cases done
        rw [HeaderName.ofMetadataKey?, Option.filter_eq_some_iff] at found
        rw [header, ← same, HeaderName.eq_ofSpelling_of_ofText? found.1]
      next => cases done

/-- The usual layers are those of the usual settings. -/
theorem isSetUp_callLog_usual (side : Side) :
    (callLog (.usual side)).IsSetUp Settings.usual.requestIdHeader :=
  .callLog rfl rfl

theorem isSetUp_idTagger_usual : (idTagger .usual).IsSetUp Settings.usual.requestIdHeader :=
  .idTagger rfl rfl

/-- The pending work of a call as the layer lets it run: a call log opens a span with
the id and tells of the work within it, and a tagger leaves it alone. -/
def enclose (layer : Layer) (id : RequestId) (target : String) (outside : List Span)
    (pending : Activity (Answered ε β)) : Activity (Answered ε β) :=
  match layer with
  | callLog log => Activity.within (outside ++ [log.span id target]) (log.observe id pending)
  | idTagger _ => pending

/-- The pending work as a stack of layers lets it run. -/
def encloseAll (layers : List Layer) (id : RequestId) (target : String) (outside : List Span)
    (pending : Activity (Answered ε β)) : Activity (Answered ε β) :=
  layers.foldr (fun layer => layer.enclose id target outside) pending

/-- What is noted in the extensions by the layer. -/
def note (layer : Layer) (id : RequestId) (request : Request α) : Request α :=
  match layer with
  | callLog _ => request
  | idTagger _ => request.withId id

/-- In front of any service, the layer lets a request go on under the id: it mints so
many ids for it, hands it on in this form, and encloses what is then pending. -/
structure Admits (layer : Layer) (id : RequestId) (minted : Nat) (request handed : Request α)
    (around : Surroundings) : Prop where
  target : handed.target = request.target
  run : ∀ {ε β : Type} [Loggable ε] (service : Service ε α β),
    ((layer.around service).call request).run around =
      (((service.call handed).run (around.after minted)).map
        (layer.enclose id request.target around.spans)).minting minted

/-- The whole run of a service behind a layer. -/
theorem Admits.run_complete {layer : Layer} {id : RequestId} {minted : Nat}
    {request handed : Request α} {around : Surroundings}
    (admits : layer.Admits id minted request handed around) (service : Service ε α β) :
    ((layer.around service).complete request).run around =
      ((service.call handed >>= layer.enclose id request.target around.spans).run
        (around.after minted)).minting minted := by
  rw [Service.complete, Activity.run_bind, admits.run, Activity.run_bind]
  cases ran : ((service.call handed).run (around.after minted)).value with
  | none => simp only [Outcome.minting, Outcome.map, ran, Option.map_none]
  | some pending =>
      simp only [Outcome.minting, Outcome.map, ran, Option.map_some, Outcome.followedBy,
        Surroundings.after_after, Nat.add_assoc]

/-- The layers of a stack let a request go on one after another, all under the same id
and each minting as many ids as the list says, until it is seen in the last form. -/
inductive Descends (id : RequestId) :
    List Layer → List Nat → Request α → Request α → Surroundings → Prop
  | nil {request : Request α} {around : Surroundings} : Descends id [] [] request request around
  | cons {layer : Layer} {layers : List Layer} {minted : Nat} {counts : List Nat}
      {request handed seen : Request α} {around : Surroundings}
      (step : layer.Admits id minted request handed around)
      (rest : Descends id layers counts handed seen (around.after minted)) :
      Descends id (layer :: layers) (minted :: counts) request seen around

/-- Every layer settles the id of the headers. -/
theorem admits_settled (layer : Layer) (request : Request α) (around : Surroundings) :
    layer.Admits (request.headers.settledId layer.header around.fresh)
      (request.headers.minted layer.header) request
      (layer.note (request.headers.settledId layer.header around.fresh)
        (request.withHeaders (request.headers.settled layer.header around.fresh))) around := by
  cases layer with
  | callLog log =>
      refine ⟨rfl, fun service => ?_⟩
      show Activity.run (_ >>= _) around = _
      rw [Activity.run_bind_of_silent (CallLog.run_settleId ..)]
      dsimp only
      rw [Activity.run_bind_of_silent (Activity.run_spans _), Surroundings.after_zero,
        Activity.run_bind_pure, Outcome.minting_zero]
      rfl
  | idTagger tagger =>
      refine ⟨rfl, fun service => ?_⟩
      show Activity.run (_ >>= _) around = _
      rw [Activity.run_bind_of_silent (IdTagger.run_tag ..)]
      exact congrArg (Outcome.minting _) (Outcome.map_id _).symm

@[simp]
theorem headers_note (layer : Layer) (id : RequestId) (request : Request α) :
    (layer.note id request).headers = request.headers := by
  cases layer <;> rfl

/-- A layer that finds the id in the headers mints none and leaves them alone. -/
theorem admits_of_requestId {layer : Layer} {name : HeaderName} {request : Request α}
    {id : RequestId} (looksUnder : layer.header = name)
    (held : request.headers.requestId? name = some id) (around : Surroundings) :
    layer.Admits id 0 request (layer.note id request) around := by
  have settled := layer.admits_settled request around
  rw [looksUnder, Headers.settledId_of_requestId? held, Headers.settled_of_requestId? held,
    Headers.minted_of_requestId? held] at settled
  exact settled

/-- So does a whole stack, and what was noted in the extensions is the same id. -/
theorem descends_of_requestId {name : HeaderName} {id : RequestId} {layers : List Layer}
    (lookUnder : ∀ layer ∈ layers, layer.header = name) {request : Request α}
    (held : request.headers.requestId? name = some id) (around : Surroundings) :
    ∃ seen, Descends id layers (List.replicate layers.length 0) request seen around ∧
      seen.headers = request.headers ∧
      ((∃ tagger, Layer.idTagger tagger ∈ layers) ∨ request.extensions.requestId? = some id →
        seen.extensions.requestId? = some id) := by
  -- What is carried along is that the headers hold the id, not which layer brought it.
  induction layers generalizing request around with
  | nil =>
      refine ⟨request, .nil, rfl, ?_⟩
      rintro (⟨tagger, member⟩ | noted)
      · cases member
      · exact noted
  | cons layer rest ih =>
      have step := admits_of_requestId (lookUnder layer List.mem_cons_self) held around
      have heldOn : (layer.note id request).headers.requestId? name = some id := by
        rw [headers_note, held]
      obtain ⟨seen, descends, sameHeaders, noted⟩ :=
        ih (fun other member => lookUnder other (List.mem_cons_of_mem layer member)) heldOn
          (around.after 0)
      refine ⟨seen, .cons step descends, by rw [sameHeaders, headers_note], ?_⟩
      rintro (⟨tagger, member⟩ | before)
      · rcases List.mem_cons.1 member with rfl | later
        · exact noted (.inr rfl)
        · exact noted (.inl ⟨tagger, later⟩)
      · apply noted
        right
        cases layer with
        | callLog log => exact before
        | idTagger tagger => rfl

/-- The run of a stack from the way of a request through it: whatever service stands
behind the stack is called with the request in its last form, and what it leaves
pending runs within all the layers. -/
theorem Descends.run_stack {id : RequestId} {layers : List Layer} {counts : List Nat}
    {request seen : Request α} {around : Surroundings}
    (descends : Descends id layers counts request seen around) (service : Service ε α β) :
    ((stack layers service).call request).run around =
      (((service.call seen).run (around.after counts.sum)).map
        (encloseAll layers id request.target around.spans)).minting counts.sum := by
  induction descends with
  | nil =>
      rw [List.sum_nil, Surroundings.after_zero, Outcome.minting_zero]
      exact (Outcome.map_id _).symm
  | @cons layer layers minted counts request handed seen around step rest ih =>
      show ((layer.around (stack layers service)).call request).run around = _
      rw [step.run, ih, step.target, Surroundings.after_after, List.sum_cons]
      simp only [Outcome.map, Outcome.minting, Option.map_map, Nat.add_assoc,
        Surroundings.spans_after]
      rfl

/-- Within a stack of layers, work that is pending runs as it would without them, but in
spans that tell the id, and so does all that the layers add. -/
theorem exists_encloseAll_surrounds (layers : List Layer) {id : RequestId} (target : String)
    {outside own : List Span} (pending : Activity (Answered ε β)) {around : Surroundings}
    (spans : around.spans = outside ++ own) (tell : ∀ span ∈ own, span.Tells id) :
    ∃ inner, (∀ span ∈ inner, span.Tells id) ∧
      ((encloseAll layers id target outside pending).run around).Surrounds
        (pending.run (around.within (outside ++ inner))) (·.IsWithin outside id) := by
  induction layers generalizing around own with
  | nil =>
      refine ⟨own, tell, ?_⟩
      rw [← spans]
      exact .refl _ _
  | cons layer rest ih =>
      cases layer with
      | idTagger tagger => exact ih spans tell
      | callLog log =>
          -- The layers further in saw the spans outside of the log, and put theirs beside its own.
          have tellHere : ∀ span ∈ [log.span id target], span.Tells id := by
            simpa using log.span_tells id target
          obtain ⟨inner, tellInner, within⟩ :=
            ih (Surroundings.spans_within around (outside ++ [log.span id target])) tellHere
          refine ⟨inner, tellInner, .trans ?_ within⟩
          apply (log.observe_surrounds id _ _).mono
          intro event same
          exact ⟨_, List.cons_ne_nil _ _, same, tellHere⟩

/-- So it is with a call behind the stack, and with its body. -/
theorem exists_encloseAll_serve_surrounds {α β : Type} [Loggable α] [Loggable β]
    (layers : List Layer) (id : RequestId) (target : String) (handler : CallHandler)
    (body : CallBody α β) (seen : Request α) (around : Surroundings) :
    ∃ own, (∀ span ∈ own ++ [CallHandler.span id], span.Tells id) ∧
      ((encloseAll layers id target around.spans
        (Activity.inSpan (CallHandler.span id) (handler.serve body seen) >>= fun result =>
          pure (Service.answerOf result : Answered ε (Option β)))).run around).Surrounds
        ((body.run seen).run (around.within (around.spans ++ (own ++ [CallHandler.span id]))))
        (·.IsWithin around.spans id) := by
  have outermost : around.spans = around.spans ++ [] := (List.append_nil _).symm
  obtain ⟨own, tell, within⟩ := exists_encloseAll_surrounds layers target
    (Activity.inSpan (CallHandler.span id) (handler.serve body seen) >>= fun result =>
      pure (Service.answerOf result : Answered ε (Option β))) outermost (by simp)
  have tellAll : ∀ span ∈ own ++ [CallHandler.span id], span.Tells id := by
    intro span member
    rcases List.mem_append.1 member with log | call
    · exact tell span log
    · rw [List.mem_singleton.1 call]
      exact CallHandler.span_tells id
  refine ⟨own, tellAll, within.trans ?_⟩
  rw [Activity.run_bind_pure, Activity.run_inSpan]
  apply Outcome.Surrounds.map
  rw [← List.append_assoc]
  apply (handler.serve_surrounds body seen _).mono
  intro event same
  refine ⟨own ++ [CallHandler.span id], by simp, ?_, tellAll⟩
  rw [same, ← List.append_assoc]
  rfl

/-- The first layer of a stack settles the id, and all the others find it. -/
theorem descends_settled {name : HeaderName} {layers : List Layer}
    (lookUnder : ∀ layer ∈ layers, layer.header = name)
    (tagged : ∃ tagger, Layer.idTagger tagger ∈ layers) (request : Request α)
    (around : Surroundings) :
    ∃ seen, Descends (request.headers.settledId name around.fresh) layers
        (request.headers.minted name :: List.replicate (layers.length - 1) 0)
        request seen around ∧
      seen.headers = request.headers.settled name around.fresh ∧
      seen.extensions.requestId? = some (request.headers.settledId name around.fresh) := by
  cases layers with
  | nil =>
      obtain ⟨tagger, member⟩ := tagged
      cases member
  | cons first rest =>
      have step := first.admits_settled request around
      rw [lookUnder first List.mem_cons_self] at step
      have held : (first.note (request.headers.settledId name around.fresh)
          (request.withHeaders (request.headers.settled name around.fresh))).headers.requestId?
            name = some (request.headers.settledId name around.fresh) := by
        rw [headers_note]
        exact Headers.requestId?_settled request.headers name (around.random 0)
      obtain ⟨seen, descends, sameHeaders, noted⟩ := descends_of_requestId
        (fun other member => lookUnder other (List.mem_cons_of_mem first member)) held
        (around.after (request.headers.minted name))
      refine ⟨seen, .cons step descends, by rw [sameHeaders, headers_note]; rfl, noted ?_⟩
      obtain ⟨tagger, member⟩ := tagged
      rcases List.mem_cons.1 member with rfl | later
      · exact .inr rfl
      · exact .inl ⟨tagger, later⟩

/-- A call behind a stack: its body runs on the request in its last form, within the span
of the call and within all the layers. -/
theorem Descends.run_complete_unary {id : RequestId} {layers : List Layer} {counts : List Nat}
    {request seen : Request α} {around : Surroundings} [Loggable α] [Loggable β]
    (descends : Descends id layers counts request seen around)
    (noted : seen.extensions.requestId? = some id) (handler : CallHandler) (body : CallBody α β) :
    ((stack layers (.ofCall (handler.unary body)) : Service ε α (Option β)).complete
        request).run around =
      ((encloseAll layers id request.target around.spans
        (Activity.inSpan (CallHandler.span id) (handler.serve body seen) >>= fun result =>
          pure (Service.answerOf result))).run (around.after counts.sum)).minting counts.sum := by
  have called := descends.run_stack (.ofCall (handler.unary body) : Service ε α (Option β))
  rw [Service.call_ofCall, Activity.run_pure, handler.unary_of_requestId body noted] at called
  exact Activity.run_bind_of_silent called

end Layer

/-- A stack around a call shares one id: `seen` is the request as the body gets it, and
`run` the outcome of the whole. -/
structure SharesId {ε α β : Type} [Loggable ε] [Loggable α] [Loggable β] (layers : List Layer)
    (handler : CallHandler) (body : CallBody α β) (request : Request α) (around : Surroundings)
    (header : HeaderName) (id : RequestId) (minted : Nat) (seen : Request α)
    (run : Outcome (Answered ε (Option β))) : Prop where
  /-- Each layer lets the request go on under the id, and only the first may mint. -/
  descends : Layer.Descends id layers (minted :: List.replicate (layers.length - 1) 0)
    request seen around
  /-- The body finds the id in the extensions. -/
  extension : seen.extensions.requestId? = some id
  /-- The body finds the id as the first value of the header. -/
  firstValue : ∃ value, seen.headers.get? header = some value ∧ value.text? = some id.text
  /-- The run is that of the body on this request, within the span of the call and the
  spans of all logs, which are made with the id. -/
  run_eq : run = ((Layer.encloseAll layers id request.target around.spans
    (Activity.inSpan (CallHandler.span id) (handler.serve body seen) >>= fun result =>
      pure (Service.answerOf result))).run (around.after minted)).minting minted
  /-- The body runs in spans that tell the id, and so does all that is logged besides.
  No id is minted but the one and those that the body mints. -/
  told : ∃ own, (∀ span ∈ own ++ [CallHandler.span id], span.Tells id) ∧
    run.Surrounds (((body.run seen).run ((around.after minted).within
      (around.spans ++ (own ++ [CallHandler.span id])))).minting minted)
        (·.IsWithin around.spans id)

/-- In a stack of call logs and taggers around a call, set up for the same header in
whatever spelling and with a tagger among them, there is one id. It is the first value
of the header as it arrived, if that can be read and is not empty, and then nothing is
minted; otherwise the first layer mints it, and nothing else is minted outside of the
body. -/
theorem stack_unary_shares_id {ε α β : Type} [Loggable ε] [Loggable α] [Loggable β]
    {spelling : String} {layers : List Layer} (setUp : ∀ layer ∈ layers, layer.IsSetUp spelling)
    (tagged : ∃ tagger, Layer.idTagger tagger ∈ layers) (handler : CallHandler)
    (body : CallBody α β) (request : Request α) (around : Surroundings) :
    ∃ id minted seen,
      (minted = 0 ∧ (∃ first, request.headers.get? (.ofSpelling spelling) = some first ∧
          first.text? = some id.text ∧ id.text ≠ "") ∨
        minted = 1 ∧ id = .ofRandom (around.random 0) ∧ ∀ first text,
          request.headers.get? (.ofSpelling spelling) = some first → first.text? = some text →
            text = "") ∧
      SharesId layers handler body request around (.ofSpelling spelling) id minted seen
        (((Layer.stack layers (.ofCall (handler.unary body)) :
          Service ε α (Option β)).complete request).run around) := by
  have lookUnder (layer : Layer) (member : layer ∈ layers) : layer.header = .ofSpelling spelling :=
    (setUp layer member).header_eq
  obtain ⟨seen, descends, sameHeaders, noted⟩ :=
    Layer.descends_settled lookUnder tagged request around
  have held := Headers.requestId?_settled request.headers (.ofSpelling spelling) (around.random 0)
  rw [← Surroundings.fresh, ← sameHeaders] at held
  obtain ⟨first, isFirst, readable, -⟩ := Headers.requestId?_eq_some_iff.1 held
  have ran : ((Layer.stack layers (.ofCall (handler.unary body)) :
      Service ε α (Option β)).complete request).run around = _ :=
    descends.run_complete_unary noted handler body
  rw [List.sum_cons, List.sum_replicate_nat, Nat.mul_zero, Nat.add_zero] at ran
  refine ⟨_, _, seen, request.headers.settledId_cases (.ofSpelling spelling) around.fresh,
    descends, noted, ⟨first, isFirst, readable⟩, ran, ?_⟩
  rw [ran]
  obtain ⟨own, tell, within⟩ := Layer.exists_encloseAll_serve_surrounds (ε := ε) layers _
    request.target handler body seen (around.after _)
  exact ⟨own, tell, within.minting _⟩

/-- The id that a caller sent is that of the whole stack, whatever id the request had in
its extensions. -/
theorem stack_unary_shares_id_of_sent :
    let layers : List Layer :=
      [.callLog (.usual .client), .idTagger .usual, .callLog (.usual .server)]
    let body : CallBody Payload Payload :=
      ⟨"anyhow::Error", fun request => pure (.ok ⟨200, .empty, request.body⟩)⟩
    let request : Request Payload :=
      ⟨"/seats.Seats/Reserve",
        ⟨[(⟨"x-request-id"⟩, .ofChars ['t', '7']), (⟨"x-request-id"⟩, .ofChars ['t', '8'])]⟩,
        ⟨some ⟨"stale"⟩, []⟩, .nothing⟩
    (∀ layer ∈ layers, layer.IsSetUp Settings.usual.requestIdHeader) ∧
      (∃ tagger, Layer.idTagger tagger ∈ layers) ∧
      ∃ seen, SharesId layers .usual body request ⟨[], fun _ => 0⟩ ⟨"x-request-id"⟩ ⟨"t7"⟩ 0 seen
        (((Layer.stack layers (.ofCall (CallHandler.usual.unary body)) :
          Service TransportError Payload (Option Payload)).complete request).run
            ⟨[], fun _ => 0⟩) := by
  intro layers body request
  have setUp : ∀ layer ∈ layers, layer.IsSetUp Settings.usual.requestIdHeader := by
    intro layer member
    simp only [layers, List.mem_cons, List.not_mem_nil, or_false] at member
    rcases member with rfl | rfl | rfl
    · exact Layer.isSetUp_callLog_usual .client
    · exact Layer.isSetUp_idTagger_usual
    · exact Layer.isSetUp_callLog_usual .server
  have tagged : ∃ tagger, Layer.idTagger tagger ∈ layers :=
    ⟨.usual, List.mem_cons_of_mem _ List.mem_cons_self⟩
  have spelled : HeaderName.ofSpelling Settings.usual.requestIdHeader = ⟨"x-request-id"⟩ := rfl
  have sent : request.headers.get? ⟨"x-request-id"⟩ = some (.ofChars ['t', '7']) := by decide
  have readable : (HeaderValue.ofChars ['t', '7']).text? = some "t7" := by decide
  obtain ⟨⟨text⟩, minted, seen, origin, shares⟩ :=
    stack_unary_shares_id (ε := TransportError) setUp tagged .usual body request ⟨[], fun _ => 0⟩
  rw [spelled] at origin shares
  refine ⟨setUp, tagged, seen, ?_⟩
  rcases origin with ⟨rfl, first, isFirst, read, -⟩ | ⟨-, -, unreadable⟩
  · rw [sent] at isFirst
    cases isFirst
    rw [readable] at read
    cases read
    exact shares
  · exact absurd (unreadable _ _ sent readable) (by decide)

end RpcBoundary
