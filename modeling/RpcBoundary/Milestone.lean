/-
# Milestones of a call

Four moments of a call can be logged: that it started, that its payload arrived,
that its answer left, and that it finished. Which of them are logged is a set, kept
as the bits of a byte.
-/

namespace RpcBoundary

/-- A moment of a call. -/
inductive Milestone
  | startCall
  | payloadReceived
  | payloadSent
  | finishCall
  deriving DecidableEq

namespace Milestone

/-- The milestones in the order in which a call reaches them. -/
def all : List Milestone := [startCall, payloadReceived, payloadSent, finishCall]

/-- The bare name of the milestone. -/
def name : Milestone → String
  | startCall => "StartCall"
  | payloadReceived => "PayloadReceived"
  | payloadSent => "PayloadSent"
  | finishCall => "FinishCall"

/-- The name of the milestone in configuration texts. -/
def key : Milestone → String
  | startCall => "start_call"
  | payloadReceived => "payload_received"
  | payloadSent => "payload_sent"
  | finishCall => "finish_call"

/-- The place of the milestone in the order. -/
def index : Milestone → UInt8
  | startCall => 0
  | payloadReceived => 1
  | payloadSent => 2
  | finishCall => 3

/-- The bit that stands for the milestone. -/
def bit (milestone : Milestone) : UInt8 := 1 <<< milestone.index

end Milestone

/-- A set of milestones. -/
structure Milestones where
  bits : UInt8
  deriving DecidableEq

namespace Milestones

/-- No milestone. -/
def none : Milestones := ⟨0⟩

/-- Every milestone. -/
def all : Milestones := ⟨0b1111⟩

/-- Whether the milestone is in the set. -/
def contains (set : Milestones) (milestone : Milestone) : Bool :=
  set.bits &&& milestone.bit != 0

/-- The set and the milestone. -/
def insert (set : Milestones) (milestone : Milestone) : Milestones :=
  ⟨set.bits ||| milestone.bit⟩

/-- The set of the milestones of a list. -/
def ofList (milestones : List Milestone) : Milestones :=
  milestones.foldl insert none

/-- The milestones of the set in their order. -/
def toList (set : Milestones) : List Milestone :=
  Milestone.all.filter set.contains

end Milestones

end RpcBoundary
