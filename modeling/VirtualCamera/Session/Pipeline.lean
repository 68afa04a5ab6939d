import VirtualCamera.Session.Request

namespace VirtualCamera.Session.Pipeline

open Capture Streams Request

/-- A conclusion, with the request as it was when the conclusion was reached. -/
structure Ending where
  conclusion : Conclusion
  request : HalRequest
  deriving DecidableEq, Repr

def Ending.effects (e : Ending) : List Effect := Request.effects e.request e.conclusion

inductive FormatThread
  | waiting
  | converting (req : HalRequest)
  | looping
  | exited
  deriving DecidableEq, Repr

/-- `performing` goes through the calls that the conclusion makes. -/
inductive OutputThread
  | waiting
  | processing (req : HalRequest)
  | performing (ending : Ending) (todo : List Effect)
  | looping
  | exited
  deriving DecidableEq, Repr

/-- `OutputThread::flush`: before the list of requests is taken, in the wait for the
request that is being processed (`signalled` when its end was signalled in the wait), and
while the requests that were taken are returned. -/
inductive FlushPhase
  | entered
  | waiting (reqs : List HalRequest) (signalled : Bool)
  | returning (reqs : List HalRequest)
  | performing (ending : Ending) (todo : List Effect) (reqs : List HalRequest)
  deriving DecidableEq, Repr

structure Flush where
  closing : Bool
  phase : FlushPhase
  deriving DecidableEq, Repr

/-- The call that holds the interface lock. -/
inductive Call
  | idle
  | submitting (req : HalRequest)
  | flushing (f : Flush)
  | joiningOutput
  | joiningFormat
  deriving DecidableEq, Repr

/-- `accepted`, `log` and `ended` record what has happened: the accepted requests in
order (by `id`), every effect with the request it was performed for, and the requests that
are done with. -/
structure State where
  device : DeviceSession
  call : Call
  formatQueue : List HalRequest
  format : FormatThread
  formatExit : Bool
  outputQueue : List HalRequest
  output : OutputThread
  outputExit : Bool
  processingRequest : Bool
  processingFrameNumber : ℕ
  accepted : List HalRequest
  log : List (ℕ × Effect)
  ended : List (ℕ × Ending)

def State.create (device : DeviceSession) : State where
  device := { device with inflightFrames := ∅ }
  call := .idle
  formatQueue := []
  format := .waiting
  formatExit := false
  outputQueue := []
  output := .waiting
  outputExit := false
  processingRequest := false
  processingFrameNumber := 0
  accepted := []
  log := []
  ended := []

/-- A planned effect and what becomes of it: a callback may be given up. -/
def Effect.turnOut (e : Effect) (lockObtained : Bool) : Effect :=
  match e with
  | .processCaptureResult result =>
    if lockObtained then .processCaptureResult result else .resultNotDelivered result
  | e => e

def eraseInflight (inflight : Finset ℕ) : Effect → Finset ℕ
  | .eraseInflight frameNumber => inflight.erase frameNumber
  | _ => inflight

def State.perform (s : State) (id : ℕ) (e : Effect) (lockObtained : Bool) : State :=
  { s with
    device := { s.device with inflightFrames := eraseInflight s.device.inflightFrames e }
    log := s.log ++ [(id, Effect.turnOut e lockObtained)] }

def State.finish (s : State) (ending : Ending) : State :=
  { s with ended := s.ended ++ [(ending.request.id, ending)] }

def Call.signal : Call → Call
  | .flushing f =>
    match f.phase with
    | .waiting reqs _ => .flushing { f with phase := .waiting reqs true }
    | _ => .flushing f
  | c => c

def State.signalRequestDone (s : State) : State :=
  { s with processingRequest := false, processingFrameNumber := 0, call := s.call.signal }

/-- The list is taken under its lock, and there the mark of a request being processed
is looked at. -/
def State.flushTake (s : State) (f : Flush) : State :=
  { s with
    call := .flushing { f with
      phase :=
        if s.processingRequest then .waiting s.outputQueue false else .returning s.outputQueue }
    outputQueue := [] }

inductive Label (F : Type)
  | configureStreams (ar : AspectArith F) (config : StreamConfiguration) (blobBufferSize : ℕ)
      (o : ConfigureOutcome)
  | processOneCaptureRequest (request : CaptureRequest) (o : RequestOutcome)
  | submitRequest
  | flush
  | close
  | flushTake
  | flushSignalled
  | flushTimeout
  | flushNext
  | flushPerform (lockObtained : Bool)
  | flushDone
  | flushReturn
  | joinOutput
  | joinFormat
  | formatTake
  | formatConvert (decoded : Bool) (shareFd : ℕ)
  | formatIdle
  | formatLoop
  | outputTake
  | outputProcess (o : RoundOutcome)
  | outputPerform (lockObtained : Bool)
  | outputDone
  | outputIdle
  | outputLoop

variable {F : Type}

/-- The steps of a flush. The wait ends with the signal, or without it: when it has
taken three seconds, or spuriously. -/
def State.stepFlush (s : State) (f : Flush) : Label F → Option State
  | .flushTake => if f.phase = .entered then some (s.flushTake f) else none
  | .flushSignalled =>
    match f.phase with
    | .waiting reqs true =>
      some { s with call := .flushing { f with phase := .returning reqs } }
    | _ => none
  | .flushTimeout =>
    match f.phase with
    | .waiting reqs _ =>
      some { s with call := .flushing { f with phase := .returning reqs } }
    | _ => none
  | .flushNext =>
    match f.phase with
    | .returning (req :: reqs) =>
      let ending : Ending := ⟨.requestError, req⟩
      some { s with call := .flushing { f with phase := .performing ending ending.effects reqs } }
    | _ => none
  | .flushPerform lockObtained =>
    match f.phase with
    | .performing ending (e :: todo) reqs =>
      some { s.perform ending.request.id e lockObtained with
        call := .flushing { f with phase := .performing ending todo reqs } }
    | _ => none
  | .flushDone =>
    match f.phase with
    | .performing ending [] reqs =>
      some { s.finish ending with call := .flushing { f with phase := .returning reqs } }
    | _ => none
  | .flushReturn =>
    match f.phase with
    | .returning [] =>
      if f.closing then some { s with call := .joiningOutput, outputExit := true }
      else some { s with call := .idle }
    | _ => none
  | _ => none

/-- The steps of the calls; each holds the interface lock to its end. A close flushes the
output thread, has it exit and joins it, and then the conversion thread; that one is not
flushed. -/
def State.stepCall (s : State) (l : Label F) : Option State :=
  match s.call with
  | .idle =>
    match l with
    | .configureStreams ar config blobBufferSize o =>
      (s.device.configureStreams ar config blobBufferSize o).map fun r ↦
        { s with device := r.2.2 }
    | .processOneCaptureRequest request o =>
      match Request.processOneCaptureRequest s.device s.accepted.length request o with
      | (_, some req, device) =>
        some { s with device, call := .submitting req, accepted := s.accepted ++ [req] }
      | (_, none, device) => some { s with device }
    | .flush =>
      if s.device.initStatus ≠ .ok then some s
      else some { s with call := .flushing ⟨false, .entered⟩ }
    | .close =>
      if s.device.closed then some s else some { s with call := .flushing ⟨true, .entered⟩ }
    | _ => none
  | .submitting req =>
    match l with
    | .submitRequest =>
      some { s with
        device := { s.device with firstRequest := false }
        call := .idle
        formatQueue := s.formatQueue ++ [req] }
    | _ => none
  | .flushing f => s.stepFlush f l
  | .joiningOutput =>
    match l with
    | .joinOutput =>
      if s.output = .exited then some { s with call := .joiningFormat, formatExit := true }
      else none
    | _ => none
  | .joiningFormat =>
    match l with
    | .joinFormat =>
      if s.format = .exited then
        some { s with call := .idle, device := { s.device with closed := true } }
      else none
    | _ => none

/-- The steps of `FormatConvertThread`. The wait for a request ends without one when it
has taken long or the thread is to exit, and the thread exits between two rounds. -/
def State.stepFormat (s : State) : Label F → Option State
  | .formatTake =>
    match s.format, s.formatQueue with
    | .waiting, req :: reqs => some { s with format := .converting req, formatQueue := reqs }
    | _, _ => none
  | .formatConvert decoded shareFd =>
    match s.format with
    | .converting req =>
      match convertFormat req decoded shareFd with
      | some req => some { s with format := .looping, outputQueue := s.outputQueue ++ [req] }
      | none => some { s.finish ⟨.unknownFormat, req⟩ with format := .looping }
    | _ => none
  | .formatIdle =>
    if s.format = .waiting ∧ s.formatQueue = [] then some { s with format := .looping } else none
  | .formatLoop =>
    if s.format = .looping then
      some { s with format := if s.formatExit then .exited else .waiting }
    else none
  | _ => none

/-- The steps of `OutputThread`. The end of a request is signalled, except after
`return -EINVAL`; after a device error the thread exits. -/
def State.stepOutput (s : State) : Label F → Option State
  | .outputTake =>
    match s.output, s.outputQueue with
    | .waiting, req :: reqs =>
      some { s with
        output := .processing req
        outputQueue := reqs
        processingRequest := true
        processingFrameNumber := req.frameNumber }
    | _, _ => none
  | .outputProcess o =>
    match s.output with
    | .processing req =>
      let ending : Ending := ⟨(processRequest req o).1, (processRequest req o).2⟩
      some { s with output := .performing ending ending.effects }
    | _ => none
  | .outputPerform lockObtained =>
    match s.output with
    | .performing ending (e :: todo) =>
      some { s.perform ending.request.id e lockObtained with output := .performing ending todo }
    | _ => none
  | .outputDone =>
    match s.output with
    | .performing ending [] =>
      let s := s.finish ending
      match ending.conclusion with
      | .noShareFd => some { s with output := .looping }
      | .deviceError => some { s.signalRequestDone with output := .exited }
      | _ => some { s.signalRequestDone with output := .looping }
    | _ => none
  | .outputIdle =>
    if s.output = .waiting ∧ s.outputQueue = [] then some { s with output := .looping } else none
  | .outputLoop =>
    if s.output = .looping then
      some { s with output := if s.outputExit then .exited else .waiting }
    else none
  | _ => none

inductive Party
  | caller
  | format
  | output
  deriving DecidableEq, Repr

def Label.party : Label F → Party
  | .formatTake | .formatConvert _ _ | .formatIdle | .formatLoop => .format
  | .outputTake | .outputProcess _ | .outputPerform _ | .outputDone | .outputIdle
  | .outputLoop => .output
  | _ => .caller

/-- Any party that can take a step may take it. -/
def State.step (s : State) (l : Label F) : Option State :=
  match l.party with
  | .caller => s.stepCall l
  | .format => s.stepFormat l
  | .output => s.stepOutput l

end VirtualCamera.Session.Pipeline
