/-
# Call statuses

A status is what the caller of a failed call gets to see: a code, a message, and
optionally details and further metadata. It can be described in words, and it can
be sent as the headers of a response that has nothing else.
-/

import RpcBoundary.Code
import RpcBoundary.Header.Fields
import RpcBoundary.Text.Encoding
import RpcBoundary.Text.Quoted

namespace RpcBoundary

/-- The outcome of a failed call as the caller sees it. -/
structure Status where
  /-- How the call ended. -/
  code : Code
  /-- What there is to say about it, which may be nothing. -/
  message : String
  /-- Bytes that the application adds; this library passes them on. -/
  details : List UInt8
  /-- Headers that the application adds. -/
  metadata : Headers
  deriving DecidableEq

namespace Status

/-- A status of a code and a message only. -/
def plain (code : Code) (message : String) : Status :=
  ⟨code, message, [], Headers.empty⟩

/-- The status in words: what its code means, then its message as a quoted
literal if there is one. -/
def text (status : Status) : String :=
  let means := "code: '" ++ status.code.description ++ "'"
  if status.message.isEmpty then means
  else means ++ ", message: " ++ Text.quoted status.message

/-- The header that carries the code. -/
def codeHeader : HeaderName := ⟨"grpc-status"⟩

/-- The header that carries the message. -/
def messageHeader : HeaderName := ⟨"grpc-message"⟩

/-- The header that carries the details. -/
def detailsHeader : HeaderName := ⟨"grpc-status-details-bin"⟩

/-- The header that says what kind of content a message has. -/
def contentTypeHeader : HeaderName := ⟨"content-type"⟩

/-- The content type of every response. -/
def contentType : HeaderValue := .ofChars "application/grpc".toList

/-- The names that metadata cannot set, because the protocol gives them a meaning
of its own. -/
def reservedHeaders : List HeaderName :=
  [⟨"te"⟩, contentTypeHeader, messageHeader, ⟨"grpc-message-type"⟩, codeHeader]

/-- The headers of a response that reports this status and has no body. -/
def headers (status : Status) : Headers :=
  let sent := (status.metadata.without reservedHeaders).insert contentTypeHeader contentType
  let sent := sent.insert codeHeader ⟨status.code.wire⟩
  let sent :=
    if status.message.isEmpty then sent
    else sent.insert messageHeader (.ofChars (Text.percentEncode status.message))
  if status.details.isEmpty then sent
  else sent.insert detailsHeader (.ofChars (Text.base64 status.details))

end Status

end RpcBoundary
