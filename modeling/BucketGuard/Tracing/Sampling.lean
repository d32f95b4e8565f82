import BucketGuard.Settings
import BucketGuard.Text.Numeral

namespace BucketGuard

/-! Sampling: which traces are exported. The environment names a sampler, and for the one that keeps
a share of the traces also the share. -/

inductive Sampler where
  | all
  | nothing
  | share
  deriving DecidableEq, Repr

namespace Sampler

def names : List (String × Sampler) :=
  [("always_on", .all), ("always_off", .nothing), ("parentbased_always_on", .all),
    ("parentbased_always_off", .nothing), ("traceidratio", .share),
    ("parentbased_traceidratio", .share)]

def nameIn (environment : Environment) : String :=
  Text.lower (environment.valueOr "OTEL_TRACES_SAMPLER" "parentbased_always_on")

/-- The named sampler. An unknown name means that all traces are kept. -/
def ofEnvironment (environment : Environment) : Sampler :=
  (Members.get? names (nameIn environment)).getD .all

end Sampler

namespace Sampling

/-- A probability lies between 0 and 1. -/
def isProbability (share : Magnitude) : Bool :=
  !share.less (.ofInt 0) && !(Magnitude.ofInt 1).less share

/-- The share that the environment gives, if it is a probability. -/
def share? (environment : Environment) : Option Magnitude :=
  let given := Text.float? (environment.valueOr "OTEL_TRACES_SAMPLER_ARG" "")
  (given.bind Binary64.magnitude?).filter isProbability

/-- A trace is kept with the share as its probability. What chance decides has no single answer, and
the likelier one is given. -/
def keepsShare (share : Magnitude) : Bool :=
  !share.less (.exact 1 2)

/-- Whether a trace is kept. Without a usable share the whole is kept. -/
def keeps (environment : Environment) : Bool :=
  match Sampler.ofEnvironment environment with
  | .all => true
  | .nothing => false
  | .share => ((share? environment).map keepsShare).getD true

/-- What is told of variables that cannot be understood. -/
def notices (environment : Environment) : List String :=
  let name := Sampler.nameIn environment
  match Members.get? Sampler.names name with
  | none => [s!"Couldn't recognize sampler {name}."]
  | some .share =>
      if (share? environment).isNone then ["Could not convert TRACES_SAMPLER_ARG to float."] else []
  | some _ => []

end Sampling

end BucketGuard
