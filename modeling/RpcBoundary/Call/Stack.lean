/-
# Stacks of services

Call logs and taggers stand around a service in layers. A stack is a list of them,
the outermost first.
-/

import RpcBoundary.Call.IdTagger
import RpcBoundary.Call.Log

namespace RpcBoundary

/-- A layer of a stack. -/
inductive Layer
  | callLog (log : CallLog)
  | idTagger (tagger : IdTagger)
  deriving DecidableEq

namespace Layer

variable {ε α β : Type} [Loggable ε]

/-- The service with the layer around it. -/
def around (layer : Layer) (service : Service ε α β) : Service ε α β :=
  match layer with
  | callLog log => log.around service
  | idTagger tagger => tagger.before service

/-- The service with a stack of layers around it. -/
def stack (layers : List Layer) (service : Service ε α β) : Service ε α β :=
  layers.foldr around service

end Layer

end RpcBoundary
