import PantumOpen.Scan.Control
import PantumOpen.Scan.Job

/-! The calls a frontend makes on one handle, and sequences of them. -/

namespace PantumOpen.Scan
open Prog

/-- The state before `sane_open` has a handle: everything about the device and the host is open. -/
def Session.fresh (inp : Inp) (outSched : List Xfer) (allocs : List Bool) (ditherReady : Bool) :
    Session where
  host := ⟨Handle.zero, false, allocs, ditherReady⟩
  inp := inp
  outp := ⟨outSched, [], []⟩

/-- `sane_pantum_open` from the `calloc` of the handle on, which claims the device before. -/
def saneOpen : Prog Status Session Unit := do
  if ← onHost alloc then do
    modify fun s => { s with host := { s.host with h := Handle.zero } }
    onInp flushInput
    probeAdf
    onHost initOptions
    setHandle fun h => { h with params := h.val.computeParameters }
    modify fun s => { s with host := { s.host with valid := true } }
  else fail .noMem

/-- `build_dither_mask`, as far as it can fail: four allocations, tested together. -/
def buildDitherMask : Prog Status Host Unit := do
  let s ← read
  if s.ditherReady then pure ()
  else do
    let pattern ← alloc
    let energy ← alloc
    let proto ← alloc
    let rank ← alloc
    if pattern && energy && proto && rank then modify fun s => { s with ditherReady := true }
    else fail .noMem

/-- The threshold of `sane_start`: percent of 255, truncated, kept inside a byte. -/
def OptionValues.lineartThreshold (v : OptionValues) : Nat :=
  (min 255 (max 0 ((v.threshold * 255).tdiv 6553600))).toNat

/-- The white margins of `sane_start`: 2 mm and 1.5 mm on the flatbed when the window touches the
edge, 2.5 mm and 1.5 mm all around in the feeder. -/
def setMargins (h : Handle) : Handle :=
  let dpi := h.val.effectiveResolution
  let w := h.val.computeWindow
  if h.val.sourceIsAdf then
    let edge := (dpi * 15 / 254).toNat
    { h with whiteTop := (dpi * 25 / 254).toNat, whiteBottom := edge, whiteLeft := edge
             whiteRight := edge }
  else
    { h with
      whiteTop := if w.top = 0 then (dpi * 20 / 254).toNat else 0
      whiteBottom := 0
      whiteLeft := if w.left = 0 then (dpi * 15 / 254).toNat else 0
      whiteRight := 0 }

/-- What `sane_start` derives from the options before it talks to the device. -/
def prepareJob (env : Env) : Prog Status Host Unit := do
  modify <| Host.onHandle fun h =>
    { h with
      cancelled := false
      eof := false
      params := h.val.computeParameters
      threshold := h.val.lineartThreshold
      halftone := h.val.modeIs .halftone }
  let h ← gets Host.h
  if h.halftone then buildDitherMask else pure ()
  modify <| Host.onHandle fun h =>
    setMargins { h with gamma := env.toneCurve (h.params.format == .rgb) }

/-- One attempt at a job; one the device aborts with status 0 or 2 is repeated. -/
def startRound (env : Env) : Prog Status Session (Unit ⊕ Unit) := do
  let aborted ← runJob env
  match aborted with
  | none => pure (.inr ())
  | some status =>
    if status ≠ 0 ∧ status ≠ 2 then fail (mapStatus status) else pure (.inl ())

def startJob (env : Env) : Prog Status Session Unit :=
  loop (fun _ => startRound env) (fun _ => fail .deviceBusy) 4 ()

def saneStart (env : Env) : Prog Status Session Unit := do
  let s ← read
  if !s.host.valid then fail .inval
  else do
    let h ← getHandle
    if h.cancelled then endScan else pure ()
    let h ← getHandle
    if h.feeding then resumeJob env
    else if h.scanning then fail .deviceBusy
    else do
      onHost (prepareJob env)
      startJob env

def fillRound (env : Env) : Prog Status Session (Unit ⊕ Bool) := do
  let h ← getHandle
  if h.outPos = h.out.length ∧ ¬ h.eof then
    if !h.scanning then do
      setHandle fun h => { h with eof := true }
      pure (.inr false)
    else do
      let p ← takeFrame env h.nonBlocking false
      match p with
      | .idle => pure (.inr true)
      | _ => pure (.inl ())
  else pure (.inr false)

/-- The pump loop of `sane_read`; `true` when it gave up on an idle endpoint. Every round reads a
frame, so the transfers left bound the rounds. -/
def fillQueue (env : Env) : Prog Status Session Bool := do
  let s ← read
  loop (fun _ => fillRound env) (fun _ => abandon .ioError) (s.inp.inSched.length + 1) ()

/-- `sane_pantum_read` on an open handle; the result is what `*length` bytes of `data` hold. -/
def saneRead (env : Env) (maxLength : Int) : Prog Status Session (List UInt8) := do
  let s ← read
  if !s.host.valid || maxLength ≤ 0 then fail .inval
  else do
    let h ← getHandle
    if h.cancelled then do
      endScan
      setHandle fun h => { h with out := [], outPos := 0, eof := true }
      fail .cancelled
    else do
      let idle ← fillQueue env
      if idle then pure []
      else do
        let h ← getHandle
        let avail := h.out.length - h.outPos
        if avail = 0 then fail .eof
        else do
          let n := min avail maxLength.toNat
          setHandle fun h => { h with outPos := h.outPos + n }
          pure ((h.out.drop h.outPos).take n)

def saneCancel : Prog Status Session Unit := do
  let s ← read
  if s.host.valid then setHandle fun h => { h with cancelled := true } else pure ()

def saneSetIoMode (nonBlocking : Bool) : Prog Status Session Unit := do
  let s ← read
  if s.host.valid then setHandle fun h => { h with nonBlocking := nonBlocking } else fail .inval

def saneGetParameters : Prog Status Session Parameters := do
  let s ← read
  if !s.host.valid then fail .inval
  else do
    setHandle fun h =>
      if ¬ h.scanning ∧ h.outPos = h.out.length then { h with params := h.val.computeParameters }
      else h
    let h ← getHandle
    pure h.params

/-- `sane_pantum_close`, and what `sane_pantum_exit` does to the handle. -/
def saneClose : Prog Status Session Unit := do
  let s ← read
  if s.host.valid then do
    endScan
    modify fun s => { s with host := { s.host with valid := false } }
  else pure ()

inductive Call
  | start
  | read (maxLength : Int)
  | cancel
  | controlOption (option : Int) (action : Action) (value : Option Value)
  | getParameters
  | setIoMode (nonBlocking : Bool)
  | close
  | exit
  deriving DecidableEq, Repr

inductive Answer
  | none
  | data (bytes : List UInt8)
  | parameters (p : Parameters)
  | reply (r : Reply)
  deriving DecidableEq, Repr

def Call.run (env : Env) : Call → Prog Status Session Answer
  | .start => do saneStart env; pure .none
  | .read n => do let d ← saneRead env n; pure (.data d)
  | .cancel => do saneCancel; pure .none
  | .controlOption o a v => do let r ← onHost (saneControlOption o a v); pure (.reply r)
  | .getParameters => do let p ← saneGetParameters; pure (.parameters p)
  | .setIoMode b => do saneSetIoMode b; pure .none
  | .close => do saneClose; pure .none
  | .exit => do saneClose; pure .none

def runCalls (env : Env) : List Call → Session → List (Except Status Answer) × Session
  | [], s => ([], s)
  | c :: cs, s =>
    let r := c.run env s
    let rs := runCalls env cs r.2
    (r.1 :: rs.1, rs.2)

/-- The states between two calls of a session that `sane_open` began. -/
inductive Reachable (env : Env) : Session → Prop
  | opened {s s' : Session} {r : Except Status Unit} (h : saneOpen s = (r, s'))
      (hs : ∃ inp outSched allocs ditherReady,
        s = Session.fresh inp outSched allocs ditherReady) : Reachable env s'
  | call {s : Session} (hs : Reachable env s) (c : Call) : Reachable env (c.run env s).2

end PantumOpen.Scan
