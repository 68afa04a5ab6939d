import Mathlib.Data.Finset.Card
import Mathlib.Data.Rat.Defs
import Mathlib.Algebra.Order.Field.Rat
import VirtualCamera.Library.Transition

namespace VirtualCamera.Session.Capture

/-! ### The capture driver -/

/-- The buffers in the driver's queue, and those taken out since the last
stream-on and not put back; `twice` records that one was put back while it was queued. -/
structure Driver where
  queued : Finset ℕ
  out : Finset ℕ
  twice : Bool
  deriving DecidableEq

def Driver.qbuf (d : Driver) (i : ℕ) : Driver :=
  { queued := insert i d.queued, out := d.out.erase i, twice := d.twice || decide (i ∈ d.queued) }

def Driver.dqbuf (d : Driver) (i : ℕ) : Driver :=
  { d with queued := d.queued.erase i, out := insert i d.out }

/-- Stopping the stream and reallocating both empty the queue. -/
def Driver.drop (d : Driver) : Driver := { d with queued := ∅ }

def Driver.streamOn (d : Driver) : Driver := { d with out := ∅ }

/-! ### The session's part -/

structure FrameRate where
  durationNumerator : ℕ
  durationDenominator : ℕ
  deriving DecidableEq, Repr

/-- A `double` of the source is an exact rational here. The two differ for the numerator 0,
which `getFrameRateList` lists for no format. -/
def FrameRate.getDouble (fr : FrameRate) : ℚ := fr.durationDenominator / fr.durationNumerator

structure SupportedV4L2Format where
  width : ℕ
  height : ℕ
  fourcc : UInt32
  frameRates : List FrameRate
  deriving DecidableEq, Repr

def kBadFramesAfterStreamOn : ℕ := 4

structure V4l2 where
  subDevice : Bool
  mainDevice : Bool
  numVideoBuffers : ℕ
  numStillBuffers : ℕ
  streaming : Bool
  streamingFps : ℚ
  streamingFmt : SupportedV4L2Format
  bufferCount : ℕ
  numDequeued : ℕ
  maxBufferSize : ℕ
  driver : Driver
  deriving DecidableEq

inductive V4l2Error
  | buffersInFlight
  | streamOff
  | reqbufs
  | noMemory
  | sFmt
  | querybuf
  | qbuf
  | streamOn
  | dqbuf
  deriving DecidableEq, Repr

structure StreamOffOutcome where
  streamOff : Bool
  reqbufs : Bool

def V4l2.v4l2StreamOffLocked (v : V4l2) (o : StreamOffOutcome) : Except V4l2Error Unit × V4l2 :=
  if ¬ v.streaming then (.ok (), v)
  else if v.numDequeued ≠ 0 then (.error .buffersInFlight, v)
  else
    let v := { v with bufferCount := 0 }
    if v.subDevice then (.ok (), { v with streaming := false })
    else if ¬ o.streamOff then (.error .streamOff, v)
    else
      let v := { v with driver := v.driver.drop }
      if ¬ o.reqbufs then (.error .reqbufs, v)
      else (.ok (), { v with driver := v.driver.drop, streaming := false })

/-- The fastest rate, and the slowest one of at least 30. -/
def selectRates (frameRates : List FrameRate) : ℚ × ℚ :=
  frameRates.foldl (fun acc fr ↦
    let f := fr.getDouble
    (if acc.1 < f then f else acc.1, if 30 ≤ f ∧ f < acc.2 then f else acc.2)) (-1, 1000)

def selectFps (frameRates : List FrameRate) (requestFps : ℚ) : ℚ :=
  if requestFps ≠ 0 then requestFps
  else
    let (maxFps, fps) := selectRates frameRates
    if fps = 1000 then maxFps else fps

/-- What the calls to the driver return while a stream is configured: the format
as set, the number of buffers granted, and the frames of the warm-up. -/
structure ConfigureOutcome where
  streamOff : StreamOffOutcome
  sFmt : Bool
  width : ℕ
  height : ℕ
  sizeimage : ℕ
  reqbufs : Option ℕ
  querybuf : ℕ → Bool
  qbuf : ℕ → Bool
  streamOn : Bool
  warmupDqbuf : ℕ → Option ℕ
  warmupQbuf : ℕ → Bool

def Driver.queueBuffers (o : ConfigureOutcome) (d : Driver) (i : ℕ) :
    (remaining : ℕ) → Except V4l2Error Unit × Driver
  | 0 => (.ok (), d)
  | remaining + 1 =>
    if ¬ o.querybuf i then (.error .querybuf, d)
    else if ¬ o.qbuf i then (.error .qbuf, d)
    else (d.qbuf i).queueBuffers o (i + 1) remaining

def Driver.warmup (o : ConfigureOutcome) (d : Driver) (i : ℕ) :
    (remaining : ℕ) → Except V4l2Error Unit × Driver
  | 0 => (.ok (), d)
  | remaining + 1 =>
    match o.warmupDqbuf i with
    | none => (.error .dqbuf, d)
    | some index =>
      if ¬ o.warmupQbuf i then (.error .qbuf, d.dqbuf index)
      else ((d.dqbuf index).qbuf index).warmup o (i + 1) remaining

def V4l2.v4lBufferCount (v : V4l2) (fps : ℚ) : ℕ :=
  if 30 ≤ fps then v.numVideoBuffers else v.numStillBuffers

def V4l2.requestBuffers (v : V4l2) (fmt : SupportedV4L2Format) (requestFps : ℚ)
    (o : ConfigureOutcome) : Except V4l2Error Unit × V4l2 :=
  let fps := selectFps fmt.frameRates requestFps
  let v := { v with maxBufferSize := o.sizeimage, streamingFps := fps }
  match o.reqbufs with
  | none => (.error .reqbufs, v)
  | some count =>
    let v := { v with driver := v.driver.drop }
    if count < v.v4lBufferCount fps then (.error .noMemory, v)
    else (.ok (), { v with bufferCount := count })

def V4l2.startStream (v : V4l2) (o : ConfigureOutcome) : Except V4l2Error Unit × V4l2 :=
  match v.driver.queueBuffers o 0 v.bufferCount with
  | (.error e, d) => (.error e, { v with driver := d })
  | (.ok (), d) =>
    if ¬ o.streamOn then (.error .streamOn, { v with driver := d })
    else
      let (r, d) := d.streamOn.warmup o 0 kBadFramesAfterStreamOn
      (r, { v with driver := d })

/-- The format is passed by reference and keeps the size the driver has set. -/
def V4l2.configureV4l2StreamLocked (v : V4l2) (fmt : SupportedV4L2Format) (requestFps : ℚ)
    (o : ConfigureOutcome) : Except V4l2Error Unit × SupportedV4L2Format × V4l2 :=
  match v.v4l2StreamOffLocked o.streamOff with
  | (.error e, v) => (.error e, fmt, v)
  | (.ok (), v) =>
    if v.subDevice then
      (.ok (), fmt, { v with
        streamingFps := 15, bufferCount := 1, streamingFmt := fmt, streaming := true })
    else if ¬ o.sFmt then (.error .sFmt, fmt, v)
    else
      let fmt := { fmt with width := o.width, height := o.height }
      match v.requestBuffers fmt requestFps o with
      | (.error e, v) => (.error e, fmt, v)
      | (.ok (), v) =>
        match v.startStream o with
        | (.error e, v) => (.error e, fmt, v)
        | (.ok (), v) => (.ok (), fmt, { v with streamingFmt := fmt, streaming := true })

/-! ### Dequeuing and enqueuing -/

structure V4l2Buffer where
  index : ℕ
  bytesused : ℕ

structure DequeueOutcome where
  first : Option V4l2Buffer
  requeue : Bool
  second : Option V4l2Buffer

/-- The calls to the driver when a frame is dequeued. The main device passes every
even buffer on to the sub-device, puts it back and takes the next one. -/
def V4l2.takeBuffer (v : V4l2) (o : DequeueOutcome) : Option V4l2Buffer × V4l2 :=
  match o.first with
  | none => (none, v)
  | some b =>
    let v := { v with driver := v.driver.dqbuf b.index }
    if v.mainDevice ∧ b.index % 2 = 0 then
      if ¬ o.requeue then (none, v)
      else
        let v := { v with driver := v.driver.qbuf b.index }
        match o.second with
        | none => (none, v)
        | some b => (some b, { v with driver := v.driver.dqbuf b.index })
    else (some b, v)

def V4l2.Accepts (v : V4l2) (b : V4l2Buffer) : Prop :=
  b.index < v.bufferCount ∧ b.bytesused ≤ v.maxBufferSize

instance (v : V4l2) (b : V4l2Buffer) : Decidable (v.Accepts b) := inferInstanceAs (Decidable (_ ∧ _))

/-- From the test of the counter to the checks. A sub-device does not call the
driver: it takes the main device's data as buffer 0. -/
def V4l2.dequeueBuffer (v : V4l2) (o : DequeueOutcome) : Option ℕ × V4l2 :=
  if v.subDevice then
    if v.Accepts ⟨0, 0⟩ then (some 0, { v with driver := v.driver.dqbuf 0 }) else (none, v)
  else
    match v.takeBuffer o with
    | (none, v) => (none, v)
    | (some b, v) => if v.Accepts b then (some b.index, v) else (none, v)

def decrement (n : ℕ) : ℕ := if n = 0 then 2 ^ 64 - 1 else n - 1

inductive Dequeue
  | idle
  | waiting
  | passed
  | taken (index : ℕ)
  deriving DecidableEq

/-- `frames` are the indices of the frames that were handed out and not yet passed
to `enqueueV4l2Frame`, `returning` counts the calls of it between the queuing and the
decrement. -/
structure State where
  v4l2 : V4l2
  dequeue : Dequeue
  frames : List ℕ
  returning : ℕ
  deriving DecidableEq

def State.create (subDevice mainDevice : Bool) (numVideoBuffers numStillBuffers : ℕ) : State where
  v4l2 := {
    subDevice, mainDevice, numVideoBuffers, numStillBuffers
    streaming := false
    streamingFps := 0
    streamingFmt := ⟨0, 0, 0, []⟩
    bufferCount := 0
    numDequeued := 0
    maxBufferSize := 0
    driver := ⟨∅, ∅, false⟩ }
  dequeue := .idle
  frames := []
  returning := 0

inductive Label
  | dequeueV4l2FrameLocked
  | timeout
  | woken
  | dqbuf (o : DequeueOutcome)
  | count
  | enqueueV4l2Frame (index : ℕ) (qbuf : Bool)
  | returned
  | configureV4l2StreamLocked (fmt : SupportedV4L2Format) (requestFps : ℚ) (o : ConfigureOutcome)
  | v4l2StreamOffLocked (o : StreamOffOutcome)

/-- Putting a frame back; a sub-device has no queue to put it in. -/
def State.enqueueV4l2Frame (s : State) (index : ℕ) (qbuf : Bool) : State :=
  let s := { s with frames := s.frames.erase index }
  if s.v4l2.subDevice then
    { s with
      v4l2 := { s.v4l2 with driver := { s.v4l2.driver with out := s.v4l2.driver.out.erase index } }
      returning := s.returning + 1 }
  else if ¬ qbuf then s
  else
    { s with
      v4l2 := { s.v4l2 with driver := s.v4l2.driver.qbuf index }
      returning := s.returning + 1 }

/-- One thread at a time dequeues, configures or stops the stream (they hold the
session's lock, and the interface lock while it is given up in the wait). Frames are put
back by the other threads, each frame once. -/
def State.step (s : State) : Label → Option State
  | .dequeueV4l2FrameLocked =>
    if s.dequeue = .idle then
      if s.v4l2.numDequeued = s.v4l2.bufferCount then some { s with dequeue := .waiting }
      else some { s with dequeue := .passed }
    else none
  | .timeout => if s.dequeue = .waiting then some { s with dequeue := .idle } else none
  | .woken => if s.dequeue = .waiting then some { s with dequeue := .passed } else none
  | .dqbuf o =>
    if s.dequeue = .passed then
      match s.v4l2.dequeueBuffer o with
      | (none, v) => some { s with v4l2 := v, dequeue := .idle }
      | (some index, v) => some { s with v4l2 := v, dequeue := .taken index }
    else none
  | .count =>
    match s.dequeue with
    | .taken index =>
      some { s with
        v4l2 := { s.v4l2 with numDequeued := s.v4l2.numDequeued + 1 }
        dequeue := .idle
        frames := index :: s.frames }
    | _ => none
  | .enqueueV4l2Frame index qbuf =>
    if index ∈ s.frames then some (s.enqueueV4l2Frame index qbuf) else none
  | .returned =>
    if 0 < s.returning then
      some { s with
        v4l2 := { s.v4l2 with numDequeued := decrement s.v4l2.numDequeued }
        returning := s.returning - 1 }
    else none
  | .configureV4l2StreamLocked fmt requestFps o =>
    if s.dequeue = .idle then
      some { s with v4l2 := (s.v4l2.configureV4l2StreamLocked fmt requestFps o).2.2 }
    else none
  | .v4l2StreamOffLocked o =>
    if s.dequeue = .idle then some { s with v4l2 := (s.v4l2.v4l2StreamOffLocked o).2 } else none

end VirtualCamera.Session.Capture
