import BucketGuard.Failure
import BucketGuard.Policy

namespace BucketGuard

/-! What an operation leaves behind besides its result: log lines, counts, requests to the service
and spans of tracing, each in the order in which they arose. A failed operation leaves its trail
too. -/

inductive Severity where
  | info
  | warning
  | error
  deriving DecidableEq, Repr

namespace Severity

def name : Severity → String
  | .info => "INFO"
  | .warning => "WARNING"
  | .error => "ERROR"

end Severity

structure LogLine where
  severity : Severity
  text : String
  deriving DecidableEq, Repr

/-- Something that is counted, by one each time. -/
inductive Count where
  | compiled (success : Bool)
  | timed
  | flawed (field : String)
  | emitted (kind : StatementKind)
  | applied (operation : Operation) (success : Bool)
  deriving DecidableEq, Repr

namespace Count

def metric : Count → String
  | .compiled _ => "compile_total"
  | .timed => "compile_duration_seconds_count"
  | .flawed _ => "validation_errors_total"
  | .emitted _ => "statements_emitted_total"
  | .applied .. => "apply_operations_total"

def labels : Count → List (String × String)
  | .compiled success => [("result", if success then "success" else "invalid")]
  | .timed => []
  | .flawed field => [("field", field)]
  | .emitted kind => [("kind", kind.label)]
  | .applied operation success =>
      [("operation", operation.name), ("result", if success then "success" else "failed")]

end Count

inductive SpanStatus where
  | unset
  | error (description : String)
  deriving DecidableEq, Repr

/-- A stretch of work that tracing tells of. -/
structure Span where
  name : String
  attributes : List (String × Json)
  status : SpanStatus
  /-- The failures that were met in it, each an event of the span. -/
  exceptions : List Failure
  deriving DecidableEq, Repr

namespace Span

def opened (name : String) (attributes : List (String × Json)) : Span :=
  { name, attributes, status := .unset, exceptions := [] }

def note (span : Span) (attributes : List (String × Json)) : Span :=
  { span with attributes := Members.putAll span.attributes attributes }

/-- A failure that passes through is recorded, and leaves the span in error. -/
def record (span : Span) (failure : Failure) : Span :=
  { span with
    status := .error failure.message
    exceptions := span.exceptions ++ [failure] }

/-- The failure that ended the work, if one did. -/
def failure (span : Span) : Option Failure := span.exceptions.getLast?

end Span

structure Trail where
  lines : List LogLine
  counts : List Count
  requests : List Request
  spans : List Span
  /-- Attributes for the span that is open, if there is one. -/
  notes : List (String × Json)
  deriving DecidableEq, Repr

namespace Trail

def empty : Trail := { lines := [], counts := [], requests := [], spans := [], notes := [] }

def append (first second : Trail) : Trail :=
  { lines := first.lines ++ second.lines
    counts := first.counts ++ second.counts
    requests := first.requests ++ second.requests
    spans := first.spans ++ second.spans
    notes := first.notes ++ second.notes }

instance : Append Trail := { append }

def ofLine (severity : Severity) (text : String) : Trail :=
  { empty with lines := [{ severity, text }] }

def ofCounts (counts : List Count) : Trail := { empty with counts }

def ofRequest (request : Request) : Trail := { empty with requests := [request] }

def ofNote (name : String) (value : Json) : Trail := { empty with notes := [(name, value)] }

end Trail

/-- A result, or a failure, and the trail that was left on the way to it. -/
structure Outcome (α : Type) where
  result : Except Failure α
  trail : Trail
  deriving Repr

namespace Outcome

def done (value : α) : Outcome α := { result := .ok value, trail := .empty }

def failed (failure : Failure) : Outcome α := { result := .error failure, trail := .empty }

def leave (trail : Trail) : Outcome Unit := { result := .ok (), trail }

def ofExcept (result : Except Failure α) : Outcome α := { result, trail := .empty }

instance : Monad Outcome where
  pure := done
  bind first next :=
    match first.result with
    | .error failure => { result := .error failure, trail := first.trail }
    | .ok value =>
        let second := next value
        { result := second.result, trail := first.trail ++ second.trail }

def failure? (outcome : Outcome α) : Option Failure :=
  match outcome.result with
  | .error failure => some failure
  | .ok _ => none

/-- The operation as a span, where tracing is on. Its notes go to the span, and nowhere if there is
none; its result is passed on as it is. -/
def asSpan (traced : Bool) (name : String) (attributes : List (String × Json))
    (outcome : Outcome α) : Outcome α :=
  let noted := (Span.opened name attributes).note outcome.trail.notes
  let finished :=
    match outcome.result with
    | .ok _ => noted
    | .error failure => noted.record failure
  { outcome with
    trail := { outcome.trail with
      spans := outcome.trail.spans ++ (if traced then [finished] else [])
      notes := [] } }

end Outcome

end BucketGuard
