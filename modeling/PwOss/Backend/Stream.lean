/-
  The backend-neutral stream types of `backend/mod.rs`: the negotiated stream
  configuration and the semantic outcome of a stream write.
-/

namespace PwOss.Backend

/-- `StreamConfig`: a negotiated PCM format. -/
structure StreamConfig where
  format : UInt32
  rate : UInt32
  channels : UInt32
  positions : List UInt32
  flags : UInt32
  stride : UInt32
  deriving DecidableEq, Repr

/-- `IoStatus`: what a stream operation reports besides its byte count. -/
inductive IoStatus where
  | progress
  | wouldBlock
  | recoveredXrun
  | reconfigure
  | disconnected
  | fatal (nativeCode : Int)
  deriving DecidableEq, Repr

/-- `IoStatus::requires_rebuild`: the outcomes that mark the stream for
replacement. -/
def IoStatus.requiresRebuild : IoStatus → Bool
  | .reconfigure | .disconnected | .fatal _ => true
  | _ => false

/-- `WriteOutcome`: the bytes a write accepted and its status. -/
structure WriteOutcome where
  bytes : Nat
  status : IoStatus
  deriving DecidableEq, Repr

end PwOss.Backend
