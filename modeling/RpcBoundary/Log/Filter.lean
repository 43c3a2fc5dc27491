/-
# Log filters

A filter says which events and spans are recorded. It is a list of directives
between commas. Of the directives that hold everywhere, that with the longest target
decides, and what none of them covers is off. Directives that are bound to spans add
to this: the spans themselves are recorded, and within them everything that reaches
the threshold.
-/

import RpcBoundary.Log.Directive

namespace RpcBoundary

/-- Which events and spans are recorded. -/
structure Filter where
  directives : List Directive
  deriving DecidableEq

namespace Filter

/-- The pieces of a text between commas. -/
def pieces : List Char → List (List Char)
  | [] => [[]]
  | c :: rest =>
    match pieces rest with
    | [] => [[c]]
    | piece :: others => if c = ',' then [] :: piece :: others else (c :: piece) :: others

/-- The filter that a text spells. Empty pieces say nothing. -/
def ofText (text : String) : Except FilterError Filter := do
  let directives ← ((pieces text.toList).filter fun piece => !piece.isEmpty).mapM Directive.ofText
  return ⟨directives⟩

/-- The directives that hold everywhere. Those that are bound to spans as well come
last. -/
def general (filter : Filter) : List Directive :=
  let directives := filter.directives.filter Directive.isGeneral
  (directives.filter fun directive => !directive.isBound) ++ directives.filter Directive.isBound

/-- The directives that are bound to spans, without those that a later one replaces. -/
def bound (filter : Filter) : List Directive :=
  let rec remaining : List Directive → List Directive
    | [] => []
    | directive :: later =>
      if later.any directive.isAbout then remaining later else directive :: remaining later
  remaining (filter.directives.filter Directive.isBound)

/-- The threshold of the directive that decides, among those given. -/
def decided : List Directive → Threshold
  | [] => none
  | first :: others => (others.foldl Directive.stronger first).threshold

/-- What no directive lets through is never recorded. Where the value of a field is
asked for, this is not known beforehand. -/
def outermost (filter : Filter) : Threshold :=
  if filter.directives.any Directive.asksForValue then some .trace
  else .widest (filter.directives.map Directive.threshold)

/-- The threshold that holds everywhere for the events with these fields. The message
of an event counts as a field. -/
def thresholdFor (filter : Filter) (target : String) (fieldNames : List String) : Threshold :=
  decided (filter.general.filter fun directive =>
    directive.coversTarget target &&
      directive.fieldNames.all fun name => ("message" :: fieldNames).any (·.toList == name))

/-- The threshold that holds everywhere for the spans of a target. -/
def spanThresholdFor (filter : Filter) (target : String) : Threshold :=
  decided (filter.general.filter fun directive => directive.coversTarget target)

/-- The threshold that holds within a span on account of it. -/
def thresholdWithin (filter : Filter) (span : Span) : Threshold :=
  .widest ((filter.bound.filter fun directive =>
    directive.coversSpan span && directive.field.all fun field => field.passes span.fields).map
      Directive.threshold)

/-- Whether one of the spans lets through what has this severity. -/
def admitsWithin (filter : Filter) (spans : List Span) (severity : Severity) : Bool :=
  spans.any fun span => (filter.thresholdWithin span).admits severity

/-- Whether a span is recorded that is opened within others. -/
def admitsSpan (filter : Filter) (outer : List Span) (span : Span) : Bool :=
  filter.outermost.admits Span.severity &&
    (filter.bound.any (·.coversSpan span) ||
      (filter.spanThresholdFor span.target).admits Span.severity ||
      filter.admitsWithin outer Span.severity)

/-- Those of the spans that are recorded, the outermost first, given the recorded ones
around them. -/
def recordedSpans (filter : Filter) (outer : List Span) : List Span → List Span
  | [] => outer
  | span :: inner =>
    if filter.admitsSpan outer span then recordedSpans filter (outer ++ [span]) inner
    else recordedSpans filter outer inner

/-- Whether an event is recorded. -/
def admits (filter : Filter) (event : Event) : Bool :=
  filter.outermost.admits event.severity &&
    ((filter.thresholdFor event.target (event.fields.map Field.name)).admits event.severity ||
      filter.admitsWithin (filter.recordedSpans [] event.spans) event.severity)

end Filter

end RpcBoundary
