/-
# Messages

A call is a request and its response. Both carry headers and a body; a request also
carries values that never leave the process, of which the request id is the one
this library knows. What a body looks like in the log is up to its type.
-/

import RpcBoundary.RequestId
import RpcBoundary.Status

namespace RpcBoundary

/-- Values that have a form in log records. -/
class Loggable (α : Type) where
  logged : α → String

/-- What travels with a request inside the process: the id of the call, and other
values by name. -/
structure Extensions where
  /-- The id of the call, once it has been settled. -/
  requestId? : Option RequestId
  /-- What others have attached. -/
  others : List (String × String)
  deriving DecidableEq

/-- Nothing travels with the request. -/
def Extensions.empty : Extensions := ⟨none, []⟩

/-- What a caller asks for. -/
structure Request (α : Type) where
  /-- The address as the caller wrote it. -/
  target : String
  /-- The headers, which a call body knows as metadata. -/
  headers : Headers
  /-- What travels with the request inside the process. -/
  extensions : Extensions
  /-- The message of the request. -/
  body : α

namespace Request

variable {α : Type}

/-- The same request with an id in its extensions, in place of any that was there. -/
def withId (request : Request α) (id : RequestId) : Request α :=
  { request with extensions := { request.extensions with requestId? := some id } }

/-- The same request with other headers. -/
def withHeaders (request : Request α) (headers : Headers) : Request α :=
  { request with headers }

end Request

/-- What a caller gets back. -/
structure Response (β : Type) where
  /-- The status of the transport, which is not that of the call. -/
  httpStatus : Nat
  /-- The headers, which report how a call ended that has no message. -/
  headers : Headers
  /-- The message of the response. -/
  body : β

namespace Response

variable {β γ : Type}

/-- The same response with another body. -/
def mapBody (f : β → γ) (response : Response β) : Response γ :=
  ⟨response.httpStatus, response.headers, f response.body⟩

/-- A response that is over with its headers, which report a status. -/
def ofStatus (status : Status) : Response (Option β) := ⟨200, status.headers, none⟩

end Response

/-- Bodies of calls that are texts, whole numbers, nothing, or lists of bodies. -/
inductive Payload
  | text (value : String)
  | number (value : Int)
  | nothing
  | list (items : List Payload)

namespace Payload

mutual

/-- The payload in log records: texts are quoted, and lists stand in brackets. -/
def shown : Payload → String
  | text value => Text.quoted value
  | number value => toString value
  | nothing => "()"
  | list items => "[" ++ ", ".intercalate (shownItems items) ++ "]"

/-- The items of a list in log records. -/
def shownItems : List Payload → List String
  | [] => []
  | item :: rest => shown item :: shownItems rest

end

instance : Loggable Payload := ⟨shown⟩

end Payload

end RpcBoundary
