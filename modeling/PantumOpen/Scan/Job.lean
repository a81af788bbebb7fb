import PantumOpen.Scan.Image

/-! Commands, frames and the life of one job on the device. -/

namespace PantumOpen.Scan
open Prog Bytes

/-- Step over frames that do not answer `cmd`; `n` frames are looked at. -/
def skipToAck (cmd n : Nat) : Prog Status Inp Frame :=
  loop (fun _ => do
      let f ← recvFrame
      if f.cmd = cmd then pure (.inr f)
      else do
        drainPayload f.plen
        pure (.inl ()))
    (fun _ => fail .ioError) n ()

/-- The payload of an acknowledgement: `reply` is the length the caller expects, if it wants one. -/
def ackPayload (f : Frame) (reply : Option Nat) : Prog Status Inp (List UInt8) :=
  match reply with
  | some len =>
    if f.plen = 0 then fail .ioError
    else if f.plen ≠ len then do
      ignore (drainPayload f.plen)
      fail .ioError
    else usbRead len
  | none => do
    drainPayload f.plen
    pure []

/-- `command` up to the point where `*ack` is filled: the acknowledgement and its payload. -/
def commandAck (cmd : Nat) (payload : List UInt8) (reply : Option Nat) :
    Prog Status Session (Frame × List UInt8) := do
  onOutp (sendFrame cmd payload)
  let f ← onInp (skipToAck cmd commandMaxSkip)
  let data ← onInp (ackPayload f reply)
  pure (f, data)

def command (cmd : Nat) (payload : List UInt8) (reply : Option Nat) :
    Prog Status Session (List UInt8) := do
  let a ← commandAck cmd payload reply
  ofStatus (if a.1.status ≠ 0 then mapStatus a.1.status else .good)
  pure a.2

/-- What `unlock_device` does on the wire, errors included. -/
def sendUnlock : Prog Status Session Unit := do
  onOutp (sendFrame cmdUnlock [])
  let f ← onInp recvFrame
  onInp (drainPayload f.plen)

def unlockDevice : Prog Status Session Unit := do
  setHandle fun h => { h with feeding := false }
  let h ← getHandle
  if h.locked then do
    setHandle fun h => { h with locked := false }
    ignore sendUnlock
  else pure ()

/-- `handle_data_block`. The checks come in the order of the source; each one that fails drains
what is left of the payload, whatever comes of it. -/
def handleDataBlock (env : Env) (plen : Nat) : Prog Status Session Unit := do
  if plen < pantumDataHeaderLen then do
    onInp (ignore (drainPayload plen))
    fail .ioError
  else do
    let head ← onInp (usbRead pantumDataHeaderLen)
    let first := getBe32 head 4
    let rows := getBe32 head 8
    let planes := getBe32 head 12
    let pixels := getBe32 head 16
    let body := plen - pantumDataHeaderLen
    let h ← getHandle
    if getBe32 head 0 = dataJpeg then do
      onInp (ignore (drainPayload body))
      fail .unsupported
    else if rows = 0 ∨ planes = 0 ∨ body / rows < planes then do
      onInp (ignore (drainPayload body))
      fail .ioError
    else if planes ≠ (if h.params.format = .rgb then 3 else 1) then do
      onInp (ignore (drainPayload body))
      fail .ioError
    else if ← onHost (rawReserve body) then do
      let raw ← onInp (usbRead body)
      let stride := body / rows
      onHost (placeBlock env
        { first := first, rows := rows, avail := min (stride / planes) pixels, stride := stride
          raw := raw })
    else do
      onInp (ignore (drainPayload body))
      fail .noMem

def logSettingsEcho (env : Env) (plen : Nat) : Prog Status Inp Unit :=
  if plen ≠ pantumSettingsLen ∨ env.dbgLevel < 2 then drainPayload plen
  else do
    let _ ← usbRead pantumSettingsLen
    pure ()

/-- What one call of `pump_frame` reports when it returns `SANE_STATUS_GOOD`. -/
inductive Pumped
  | idle
  | done
  | aborted (status : Nat)
  deriving DecidableEq, Repr

/-- `EVT_ABORTED` behind its payload; `report` tells whether the caller passed `aborted`. -/
def jobAborted (report : Bool) (status : Nat) : Prog Status Session Pumped := do
  setHandle fun h => { h with scanning := false }
  unlockDevice
  if report then pure (.aborted status)
  else do
    ofStatus (if status ≠ 0 then mapStatus status else .ioError)
    pure .done

def jobEnded (env : Env) : Prog Status Session Pumped := do
  let h ← getHandle
  let st ← attempt (onHost (emitWhiteRows env h.params.lines))
  setHandle fun h => { h with eof := true, scanning := false }
  unlockDevice
  match st with
  | .ok _ => pure .done
  | .error e => fail e

def pageEnded (env : Env) : Prog Status Session Pumped := do
  let h ← getHandle
  if h.val.sourceIsAdf then do
    let st ← attempt (onHost (emitWhiteRows env h.params.lines))
    setHandle fun h => { h with eof := true, feeding := true }
    match st with
    | .ok _ => pure .done
    | .error e => fail e
  else pure .done

def handleFrame (env : Env) (report : Bool) (f : Frame) : Prog Status Session Pumped :=
  if f.cmd = evtData then do
    handleDataBlock env f.plen
    pure .done
  else if f.cmd = evtAborted then do
    onInp (ignore (drainPayload f.plen))
    jobAborted report f.status
  else if f.cmd = evtJobEnd then do
    onInp (ignore (drainPayload f.plen))
    jobEnded env
  else if f.cmd = evtPageEnd then do
    onInp (ignore (drainPayload f.plen))
    pageEnded env
  else if f.cmd = evtSettings then do
    onInp (logSettingsEcho env f.plen)
    pure .done
  else do
    onInp (drainPayload f.plen)
    pure .done

def pumpFrame (env : Env) (probe report : Bool) : Prog Status Session Pumped := do
  let f ← onInp (if probe then recvFrameProbe else some <$> recvFrame)
  match f with
  | none => pure .idle
  | some f => handleFrame env report f

def giveUp {α : Type} (st : Status) : Prog Status Session α := do
  unlockDevice
  fail st

/-- What a failed `pump_frame` leads to in both of its callers. -/
def abandon {α : Type} (st : Status) : Prog Status Session α := do
  setHandle fun h => { h with scanning := false }
  giveUp st

/-- A call of `pump_frame` with the error path that both callers give it. -/
def takeFrame (env : Env) (probe report : Bool) : Prog Status Session Pumped := do
  let st ← attempt (pumpFrame env probe report)
  match st with
  | .error e => abandon e
  | .ok p => pure p

def lockDevice : Prog Status Session Unit :=
  loop (fun _ => do
      setHandle fun h => { h with locked := true }
      let a ← attempt (commandAck cmdLock [] none)
      match a with
      | .ok (f, _) =>
        if f.status = 0 then pure (.inr ())
        else if f.status ≠ 2 then giveUp (mapStatus f.status)
        else pure (.inl ())
      | .error st => giveUp st)
    (fun _ => giveUp .deviceBusy)
    5 ()

/-- Feeder present and feeder loaded. -/
def checkAdf : Prog Status Session (Bool × Bool) := do
  onOutp (sendFrame cmdAdfStatus [])
  let f ← onInp recvFrame
  onInp (ignore (drainPayload f.plen))
  if f.cmd ≠ cmdAdfStatus then fail .ioError
  else pure (f.status == 0, f.status == 0 && f.arg0 == 1)

def probeAdf : Prog Status Session Unit := do
  setHandle fun h => { h with hasAdf := false, locked := true }
  let st ← attempt (command cmdLock [] none)
  match st with
  | .error _ => unlockDevice
  | .ok _ => do
    let a ← attempt checkAdf
    match a with
    | .ok (present, _) => setHandle fun h => { h with hasAdf := present }
    | .error _ => pure ()
    unlockDevice

/-- The words `setup_job` overwrites in the settings block. -/
def OptionValues.jobWords (v : OptionValues) : List (Nat × Nat) :=
  let w := v.computeWindow
  [(setResolution, v.effectiveResolution.toNat), (setZero, 0), (setSource, v.sourceCode),
    (setTop, w.top.toNat), (setLeft, w.left.toNat), (setBottom, w.bottom.toNat),
    (setRight, w.right.toNat), (setColour, if v.modeIs .color then 1 else 0)]

def OptionValues.editSettings (v : OptionValues) (settings : List UInt8) : List UInt8 :=
  let words := (List.range pantumSettingsWords).map fun i => getBe32 settings (4 * i)
  (v.jobWords.foldl (fun ws p => ws.set p.1 p.2) words).flatMap putBe32

def setupJob : Prog Status Session Unit := do
  let _ ← command cmdSetDefaults [] none
  let settings ← command cmdGetSettings [] (some pantumSettingsLen)
  let h ← getHandle
  let _ ← command cmdSetSettings (h.val.editSettings settings) none
  let _ ← command cmdStart [] none
  pure ()

def awaitRound (env : Env) : Prog Status Session (Unit ⊕ Option Nat) := do
  let h ← getHandle
  if h.scanning ∧ h.out = [] ∧ ¬ h.eof then do
    let p ← takeFrame env false true
    match p with
    | .aborted status => pure (.inr (some status))
    | _ => pure (.inl ())
  else pure (.inr none)

/-- `await_first_rows`: the status of an abort, if the device aborted the job. Every round reads
a frame, so the transfers left bound the rounds. -/
def awaitFirstRows (env : Env) : Prog Status Session (Option Nat) := do
  let s ← read
  loop (fun _ => awaitRound env) (fun _ => abandon .ioError) (s.inp.inSched.length + 1) ()

def requireFeeder : Prog Status Session Unit := do
  let a ← attempt checkAdf
  match a with
  | .error st => giveUp st
  | .ok (present, loaded) =>
    if !present || !loaded then giveUp (if present then .noDocs else .unsupported) else pure ()

/-- `setup_job` and what `run_job` does with its result. -/
def submitJob : Prog Status Session Unit := do
  let st ← attempt setupJob
  match st with
  | .error st => giveUp st
  | .ok _ => setHandle fun h => { h with scanning := true }

/-- The reset at the start of `run_job` and the handshake up to `scanning = TRUE`. -/
def beginJob : Prog Status Session Unit := do
  setHandle fun h => { h with nextRow := 0, out := [], outPos := 0, eof := false }
  lockDevice
  let h ← getHandle
  if h.val.sourceIsAdf then requireFeeder else pure ()
  submitJob

def runJob (env : Env) : Prog Status Session (Option Nat) := do
  beginJob
  awaitFirstRows env

def resumeJob (env : Env) : Prog Status Session Unit := do
  setHandle fun h => { h with nextRow := 0, out := [], outPos := 0, eof := false, feeding := false }
  let aborted ← awaitFirstRows env
  match aborted with
  | some status => ofStatus (if status ≠ 0 then mapStatus status else .noDocs)
  | none => do
    let h ← getHandle
    if h.out = [] then fail .noDocs else pure ()

/-- The frames `end_scan` swallows after an abort. -/
def drainJob : Prog Status Inp Unit :=
  loop (fun _ => do
      let f ← recvFrame
      drainPayload f.plen
      if f.cmd = evtJobEnd ∨ f.cmd = evtAborted then pure (.inr ()) else pure (.inl ()))
    pure 4096 ()

def endScan : Prog Status Session Unit := do
  let h ← getHandle
  if h.scanning then do
    ignore (onOutp (sendFrame cmdAbort []))
    ignore (onInp drainJob)
    setHandle fun h => { h with scanning := false }
  else pure ()
  unlockDevice

end PantumOpen.Scan
