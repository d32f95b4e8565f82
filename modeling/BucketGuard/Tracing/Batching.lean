import BucketGuard.Settings
import BucketGuard.Text.Numeral

namespace BucketGuard

/-! Batching: finished spans wait in a queue and are exported in batches. The environment may set
the sizes and the delay; what is no number there is passed over. -/

inductive BatchingFault where
  | queueNotPositive
  | delayNotPositive
  | batchNotPositive
  | batchBeyondQueue
  | delayTooLong
  deriving DecidableEq, Repr

namespace BatchingFault

def message : BatchingFault → String
  | .queueNotPositive => "max_queue_size must be a positive integer."
  | .delayNotPositive => "schedule_delay_millis must be positive."
  | .batchNotPositive => "max_export_batch_size must be a positive integer."
  | .batchBeyondQueue =>
      "max_export_batch_size must be less than or equal to max_queue_size."
  | .delayTooLong => "int too large to convert to float"

end BatchingFault

structure Batching where
  queue : Int
  delay : Int
  batch : Int
  deriving DecidableEq, Repr

namespace Batching

def number (environment : Environment) (name : String) (usual : Int) : Int :=
  ((Members.get? environment name).bind Text.integer?).getD usual

def ofEnvironment (environment : Environment) : Batching :=
  { queue := number environment "OTEL_BSP_MAX_QUEUE_SIZE" 2048
    delay := number environment "OTEL_BSP_SCHEDULE_DELAY" 5000
    batch := number environment "OTEL_BSP_MAX_EXPORT_BATCH_SIZE" 512 }

def fault? (batching : Batching) : Option BatchingFault :=
  if batching.queue ≤ 0 then some .queueNotPositive
  else if batching.delay ≤ 0 then some .delayNotPositive
  else if batching.batch ≤ 0 then some .batchNotPositive
  else if batching.queue < batching.batch then some .batchBeyondQueue
  else if Binary64.ofFraction false batching.delay.toNat 1 = .infinite false then
    some .delayTooLong
  else none

end Batching

end BucketGuard
