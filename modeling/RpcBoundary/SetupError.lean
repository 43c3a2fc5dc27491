/-
# Setup errors

What can go wrong while the parts of this library are set up: a header name that
is none, a metadata key that is none, a log filter that is none, a log that is
installed already, and anything else that an application ran into.
-/

import RpcBoundary.Failure
import RpcBoundary.Log.Filter

namespace RpcBoundary

/-- Why a part of the library could not be set up. -/
inductive SetupError
  | invalidHeaderName
  | invalidMetadataKey
  | invalidLogFilter (error : FilterError)
  | subscriber (reason : String)
  | unexpected (cause : Failure)

namespace SetupError

/-- The error that a log is installed already. -/
def alreadyInstalled : SetupError :=
  subscriber "a global default trace dispatcher has already been set"

/-- The error in words. -/
def text : SetupError → String
  | invalidHeaderName => "invalid header name: invalid HTTP header name"
  | invalidMetadataKey => "invalid metadata key: invalid gRPC metadata key name"
  | invalidLogFilter error => "invalid log filter: " ++ error.text
  | subscriber reason => "failed to install subscriber: " ++ reason
  | unexpected cause => "unexpected error: " ++ cause.text

/-- What caused the error. -/
def causes : SetupError → Chain
  | invalidHeaderName => .finite [.plain "invalid HTTP header name"]
  | invalidMetadataKey => .finite [.plain "invalid gRPC metadata key name"]
  | invalidLogFilter error => .finite ((error.text :: error.causes).map .plain)
  | subscriber _ => .empty
  | unexpected cause => cause.chain

/-- The setup error as an error with its causes. -/
def failure (error : SetupError) : Failure := ⟨.plain error.text, error.causes⟩

end SetupError

end RpcBoundary
