import BucketGuard.Tracing.Attributes
import BucketGuard.Tracing.Batching
import BucketGuard.Tracing.Sampling
import BucketGuard.Trail

namespace BucketGuard

/-! Setting up tracing. Spans are exported for a service under a name and a version, unless the
environment leaves tracing off or holds something with which it cannot be set up. -/

/-- Where spans are exported to, for whom, and in which form. -/
structure Tracer where
  service : String
  version : String
  endpoint : String
  exports : Bool
  limits : AttributeLimits
  deriving DecidableEq, Repr

inductive TracingFault where
  | limit (fault : LimitFault)
  | exporter (reason : String)
  | batching (fault : BatchingFault)
  deriving DecidableEq, Repr

def TracingFault.message : TracingFault → String
  | .limit fault => fault.message
  | .exporter reason => reason
  | .batching fault => fault.message

/-- How the set-up of tracing ends. -/
inductive TracingStart where
  | off
  /-- The set-up failed, with an exporter for the endpoint if it came that far. -/
  | failed (endpoint : Option String) (fault : TracingFault)
  | started (tracer : Tracer)
  deriving DecidableEq, Repr

namespace TracingStart

def tracer? : TracingStart → Option Tracer
  | .started tracer => some tracer
  | _ => none

/-- The endpoint that an exporter was built for, or was to be built for. -/
def endpoint? : TracingStart → Option String
  | .off => none
  | .failed endpoint _ => endpoint
  | .started tracer => some tracer.endpoint

/-- A failed set-up is told and changes nothing else. -/
def lines : TracingStart → List LogLine
  | .failed _ fault =>
      [{ severity := .warning, text := s!"Failed to initialize tracing: {fault.message}" }]
  | _ => []

end TracingStart

namespace Tracing

def defaultService : String := "bucket-policy-compiler"

/-- Tracing is switched on by one word alone, in any case. -/
def isEnabled (environment : Environment) : Bool :=
  Text.lower (environment.valueOr Settings.tracingVariable "false") = "true"

/-- Tracing that is set up may still be kept from having any effect. -/
def isDisabled (environment : Environment) : Bool :=
  let word := Text.lower (environment.valueOr "OTEL_SDK_DISABLED" "")
  Text.trim word.toList = "true".toList

def serviceName (environment : Environment) (service : String) : String :=
  environment.valueOr "OTEL_SERVICE_NAME" service

/-- The tracer for an endpoint. A service without a name is told apart by a word of its own. -/
def tracerFor (environment : Environment) (service endpoint : String) (limits : AttributeLimits) :
    Tracer :=
  let name := serviceName environment service
  { service := if name = "" then "unknown_service" else name
    version := environment.valueOr "OTEL_SERVICE_VERSION" "unknown"
    endpoint
    exports := Sampling.keeps environment && !isDisabled environment
    limits }

/-- The limits are read before the exporter is built, and the batches behind it. -/
def setUp (environment : Environment) (service : String) (exporterFault : Option String) :
    TracingStart :=
  let endpoint := environment.valueOr "OTEL_EXPORTER_OTLP_ENDPOINT" "http://localhost:4317"
  match AttributeLimits.ofEnvironment environment with
  | .error fault => .failed none (.limit fault)
  | .ok limits =>
      match exporterFault, (Batching.ofEnvironment environment).fault? with
      | some reason, _ => .failed (some endpoint) (.exporter reason)
      | none, some fault => .failed (some endpoint) (.batching fault)
      | none, none => .started (tracerFor environment service endpoint limits)

def start (environment : Environment) (service : String) (exporterFault : Option String) :
    TracingStart :=
  if isEnabled environment then setUp environment service exporterFault else .off

/-- A finished span with one attribute added while it was open, if spans are exported. -/
def probe (tracer : Tracer) (attributes : List (String × Json)) (added : String × Json) :
    List Span :=
  if tracer.exports then
    [.opened "probe" (tracer.limits.addAll [] (attributes ++ [added]))]
  else []

/-! ## Notices -/

/-- What is told of the environment besides a failure, before it. -/
def notices (environment : Environment) (service : String) : List LogLine :=
  let onSampling := (Sampling.notices environment).map fun text =>
    { severity := .warning, text }
  match start environment service none with
  | .off => []
  | .failed .. => onSampling
  | .started _ =>
      if serviceName environment service = "" && !isDisabled environment then
        onSampling ++
          [{ severity := .error, text := "get_tracer called with missing module name." }]
      else onSampling

end Tracing

end BucketGuard
