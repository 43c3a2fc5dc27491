/-
# Tagging requests with ids

The tagger sees to it that every request carries an id, in its metadata and in its
extensions. An id that the caller sent is kept; otherwise one is minted and written
into the metadata.
-/

import RpcBoundary.Call.Service
import RpcBoundary.Settings.Basic
import RpcBoundary.SetupError

namespace RpcBoundary

/-- Puts request ids under a metadata key. -/
structure IdTagger where
  key : HeaderName
  deriving DecidableEq

namespace IdTagger

/-- The tagger for the usual key. -/
def usual : IdTagger := ⟨⟨Choices.defaultRequestIdHeader⟩⟩

/-- The tagger for the key that the settings name. -/
def ofSettings (settings : Settings) : Except SetupError IdTagger :=
  match HeaderName.ofMetadataKey? settings.requestIdHeader with
  | some key => .ok ⟨key⟩
  | none => .error .invalidMetadataKey

variable {ε α β : Type}

/-- The id that the metadata of a request holds: the first value under the key, if it
is a text and not empty. -/
def sentId? (tagger : IdTagger) (request : Request α) : Option RequestId := do
  let value ← request.headers.get? tagger.key
  let text ← value.text?
  RequestId.ofText? text

/-- The request with its id in both places. -/
def tag (tagger : IdTagger) (request : Request α) : Activity (Request α) :=
  match tagger.sentId? request with
  | some id => pure (request.withId id)
  | none => do
    let id ← Activity.mint
    let headers :=
      match HeaderValue.ofText? id.text with
      | some value => request.headers.insert tagger.key value
      | none => request.headers
    pure ((request.withHeaders headers).withId id)

/-- The service that tags requests before the other one gets them. -/
def before (tagger : IdTagger) (service : Service ε α β) : Service ε α β where
  ready := service.ready
  call request := do
    let request ← tagger.tag request
    service.call request

end IdTagger

end RpcBoundary
