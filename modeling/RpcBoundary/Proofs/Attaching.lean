/-
# Attaching the id again

The log of calls and the tagger attach ids each in its own way: the one to headers, the other to
a request whose extensions get the id too. `attach` brings both to one form, so that they can be
applied one after another in any order. What one of them writes, the other reads back as an id
(`Headers.requestId?_settled`). Therefore only the first of a sequence decides, and every further
one, be it in the same sequence or later, finds the id and leaves the headers alone.

A second time nothing at all is changed if the same layers are applied. Other layers may still
note the id in the extensions, where a log alone leaves none.
-/

import RpcBoundary.Proofs.Stack

namespace RpcBoundary

variable {α : Type}

namespace Layer

/-- What the layer does to a request before it hands it on, with the id under which the request
then goes: for a tagger, the one in the extensions. -/
def attach (layer : Layer) (request : Request α) : Activity (Option RequestId × Request α) :=
  match layer with
  | callLog log => do
    let (id, headers) ← CallLog.settleId log.header request.headers
    pure (some id, request.withHeaders headers)
  | idTagger tagger => do
    let tagged ← tagger.tag request
    pure (tagged.extensions.requestId?, tagged)

/-- What layers do to a request one after another, with the id of each. -/
def attachAll : List Layer → Request α → Activity (List (Option RequestId) × Request α)
  | [], request => pure ([], request)
  | layer :: layers, request => do
    let (id, attached) ← layer.attach request
    let (ids, done) ← attachAll layers attached
    pure (id :: ids, done)

/-- The request with all that the layers note in its extensions. -/
def noteAll (layers : List Layer) (id : RequestId) (request : Request α) : Request α :=
  layers.foldl (fun request layer => layer.note id request) request

@[simp]
theorem headers_noteAll (layers : List Layer) (id : RequestId) (request : Request α) :
    (noteAll layers id request).headers = request.headers := by
  induction layers generalizing request with
  | nil => rfl
  | cons layer layers ih =>
      rw [noteAll, List.foldl_cons, ← noteAll, ih, headers_note]

/-- Layers note the id or nothing, and this does not depend on the request. -/
theorem noteAll_cases (layers : List Layer) (id : RequestId) :
    (∀ request : Request α, noteAll layers id request = request) ∨
      ∀ request : Request α, noteAll layers id request = request.withId id := by
  induction layers with
  | nil => exact .inl fun _ => rfl
  | cons layer layers ih =>
      cases layer with
      | callLog log => exact ih
      | idTagger tagger =>
          right
          intro request
          rcases ih with nothing | withId
          · exact nothing (request.withId id)
          · exact withId (request.withId id)

/-- To note the id again changes nothing. -/
theorem noteAll_noteAll (layers : List Layer) (id : RequestId) (request : Request α) :
    noteAll layers id (noteAll layers id request) = noteAll layers id request := by
  rcases noteAll_cases (α := α) layers id with nothing | withId
  · rw [nothing, nothing]
  · rw [withId, withId]
    rfl

/-- Every layer settles the id of the headers. -/
theorem run_attach (layer : Layer) (request : Request α) (around : Surroundings) :
    (layer.attach request).run around =
      ⟨some (some (request.headers.settledId layer.header around.fresh),
          layer.note (request.headers.settledId layer.header around.fresh)
            (request.withHeaders (request.headers.settled layer.header around.fresh))), [],
        request.headers.minted layer.header⟩ := by
  cases layer with
  | callLog log =>
      rw [attach, Activity.run_bind_of_silent (CallLog.run_settleId ..)]
      rfl
  | idTagger tagger =>
      rw [attach, Activity.run_bind_of_silent (IdTagger.run_tag ..)]
      rfl

/-- A layer that finds an id keeps it and leaves the headers alone. -/
theorem run_attach_of_requestId {layer : Layer} {name : HeaderName}
    (looksUnder : layer.header = name) {id : RequestId} {request : Request α}
    (held : request.headers.requestId? name = some id)
    (around : Surroundings) :
    (layer.attach request).run around = ⟨some (some id, layer.note id request), [], 0⟩ := by
  rw [run_attach, looksUnder, Headers.settledId_of_requestId? held,
    Headers.settled_of_requestId? held, Headers.minted_of_requestId? held]
  rfl

/-- So do layers one after another. -/
theorem run_attachAll_of_requestId {layers : List Layer} {name : HeaderName}
    (lookUnder : ∀ layer ∈ layers, layer.header = name) {id : RequestId} {request : Request α}
    (held : request.headers.requestId? name = some id) (around : Surroundings) :
    (attachAll layers request).run around =
      ⟨some (List.replicate layers.length (some id), noteAll layers id request), [], 0⟩ := by
  -- What each step keeps is that the headers hold the id.
  induction layers generalizing request around with
  | nil => rfl
  | cons layer layers ih =>
      have step := run_attach_of_requestId (lookUnder layer List.mem_cons_self) held around
      have heldOn : (layer.note id request).headers.requestId? name = some id := by
        rw [headers_note, held]
      have rest := ih (fun other member => lookUnder other (List.mem_cons_of_mem layer member))
        heldOn (around.after 0)
      rw [attachAll, Activity.run_bind_of_silent step]
      dsimp only
      rw [Activity.run_bind_of_silent rest]
      rfl

/-- The first of several layers settles the id, and the others find it. -/
theorem run_attachAll {layers : List Layer} (nonempty : layers ≠ []) {name : HeaderName}
    (lookUnder : ∀ layer ∈ layers, layer.header = name) (request : Request α)
    (around : Surroundings) :
    let id := request.headers.settledId name around.fresh
    (attachAll layers request).run around =
      ⟨some (List.replicate layers.length (some id),
          noteAll layers id (request.withHeaders (request.headers.settled name around.fresh))), [],
        request.headers.minted name⟩ := by
  intro id
  cases layers with
  | nil => exact absurd rfl nonempty
  | cons first rest =>
      have step := first.run_attach request around
      rw [lookUnder first List.mem_cons_self] at step
      have held : (first.note id (request.withHeaders
          (request.headers.settled name around.fresh))).headers.requestId? name = some id := by
        rw [headers_note]
        exact Headers.requestId?_settled request.headers name (around.random 0)
      have others := run_attachAll_of_requestId
        (fun other member => lookUnder other (List.mem_cons_of_mem first member)) held
        (around.after (request.headers.minted name))
      rw [attachAll, Activity.run_bind_of_silent step]
      dsimp only
      rw [Activity.run_bind_of_silent others]
      rfl

end Layer

/-- A log and a tagger that were set up for the same header settle on the same id and leave the
same headers, and both mint at most the same one id. The tagger always gives the request on, and
with this id in its extensions. If layers like these have been applied to a request, in any number
and order, then to apply them a second time gives the same request and the same id, and to apply
others gives the same headers and the same id; no id is minted for it. -/
theorem attaching_settles_once {α : Type} {spelling : String} {log : CallLog} {tagger : IdTagger}
    (logSetUp : (Layer.callLog log).IsSetUp spelling)
    (taggerSetUp : (Layer.idTagger tagger).IsSetUp spelling) (request : Request α)
    (around : Surroundings) :
    ∃ id headers minted,
      request.headers.Settles (.ofSpelling spelling) around.fresh id headers minted ∧
      (CallLog.settleId log.header request.headers).run around =
        ⟨some (id, headers), [], minted⟩ ∧
      (tagger.tag request).run around =
        ⟨some ((request.withHeaders headers).withId id), [], minted⟩ ∧
      ∀ layers ≠ [], (∀ layer ∈ layers, layer.IsSetUp spelling) →
        ∃ done, done.headers = headers ∧
          (Layer.attachAll layers request).run around =
            ⟨some (List.replicate layers.length (some id), done), [], minted⟩ ∧
          ∀ later,
            (Layer.attachAll layers done).run later =
              ⟨some (List.replicate layers.length (some id), done), [], 0⟩ ∧
            ∀ others, (∀ layer ∈ others, layer.IsSetUp spelling) →
              ∃ again, again.headers = headers ∧
                (Layer.attachAll others done).run later =
                  ⟨some (List.replicate others.length (some id), again), [], 0⟩ := by
  have ofLog : log.header = .ofSpelling spelling := logSetUp.header_eq
  have ofTagger : tagger.key = .ofSpelling spelling := taggerSetUp.header_eq
  refine ⟨_, _, _, request.headers.settles_settled (.ofSpelling spelling) (around.random 0), ?_,
    ?_, ?_⟩
  · rw [CallLog.run_settleId, ofLog]
    rfl
  · rw [IdTagger.run_tag, ofTagger]
    rfl
  intro layers nonempty setUp
  have lookUnder (layer : Layer) (member : layer ∈ layers) : layer.header = .ofSpelling spelling :=
    (setUp layer member).header_eq
  refine ⟨_, Layer.headers_noteAll layers _ _,
    Layer.run_attachAll nonempty lookUnder request around, ?_⟩
  intro later
  have held : (Layer.noteAll layers (request.headers.settledId (.ofSpelling spelling) around.fresh)
      (request.withHeaders (request.headers.settled (.ofSpelling spelling)
        around.fresh))).headers.requestId? (.ofSpelling spelling) =
          some (request.headers.settledId (.ofSpelling spelling) around.fresh) := by
    rw [Layer.headers_noteAll]
    exact Headers.requestId?_settled request.headers _ (around.random 0)
  constructor
  · have again := Layer.run_attachAll_of_requestId lookUnder held later
    rw [Layer.noteAll_noteAll] at again
    exact again
  · intro others othersSetUp
    refine ⟨_, ?_, Layer.run_attachAll_of_requestId
      (fun layer member => (othersSetUp layer member).header_eq) held later⟩
    rw [Layer.headers_noteAll, Layer.headers_noteAll]
    rfl

/-- A request comes with an empty id in front of another one, and with an old one in its
extensions. All of them give way to the one that is minted. -/
theorem attaching_settles_once_of_empty_id :
    let layers : List Layer := [.callLog (.usual .server), .idTagger .usual]
    let request : Request Payload :=
      ⟨"/seats.Seats/Reserve",
        ⟨[(⟨"x-request-id"⟩, .ofChars []), (⟨"x-row"⟩, .ofChars ['9']),
          (⟨"x-request-id"⟩, .ofChars ['t', '7'])]⟩, ⟨some ⟨"stale"⟩, []⟩, .nothing⟩
    let around : Surroundings := ⟨[], fun _ => 0⟩
    (∀ layer ∈ layers, layer.IsSetUp Settings.usual.requestIdHeader) ∧
      ∃ value done, value.text? = some around.fresh.text ∧
        done.headers.values ⟨"x-request-id"⟩ = [value] ∧
        done.headers.values ⟨"x-row"⟩ = [.ofChars ['9']] ∧
        (Layer.attachAll layers request).run around =
          ⟨some ([some around.fresh, some around.fresh], done), [], 1⟩ ∧
        (Layer.attachAll layers done).run around =
          ⟨some ([some around.fresh, some around.fresh], done), [], 0⟩ := by
  intro layers request around
  have ofLog := Layer.isSetUp_callLog_usual .server
  have setUp : ∀ layer ∈ layers, layer.IsSetUp Settings.usual.requestIdHeader := by
    intro layer member
    simp only [layers, List.mem_cons, List.not_mem_nil, or_false] at member
    rcases member with rfl | rfl
    · exact ofLog
    · exact Layer.isSetUp_idTagger_usual
  have spelled : HeaderName.ofSpelling Settings.usual.requestIdHeader = ⟨"x-request-id"⟩ := rfl
  have empty : request.headers.get? ⟨"x-request-id"⟩ = some (.ofChars []) := by decide
  have blank : (HeaderValue.ofChars []).text? = some "" := by decide
  refine ⟨setUp, ?_⟩
  obtain ⟨id, headers, minted, settles, -, -, all⟩ :=
    attaching_settles_once ofLog Layer.isSetUp_idTagger_usual request around
  rw [spelled] at settles
  obtain ⟨done, sameHeaders, ran, again⟩ := all layers (List.cons_ne_nil _ _) setUp
  cases settles with
  | kept isFirst readable nonempty =>
      rw [empty, Option.some.injEq] at isFirst
      rw [← isFirst, blank, Option.some.injEq] at readable
      exact absurd readable.symm nonempty
  | @replaced _ value useless readable only others =>
      refine ⟨value, done, readable, by rw [sameHeaders, only], ?_, ran, (again around).1⟩
      rw [sameHeaders, Headers.values_eq_of_erase_eq (by decide) others]
      decide

end RpcBoundary
