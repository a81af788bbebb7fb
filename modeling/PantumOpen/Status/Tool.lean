import PantumOpen.Status.Report

/-! The commands of the status tool that subscribe to the printer's reports: what they write, what they
hear, and how they end. -/

namespace PantumOpen.Status
open Prog

/-- What one `os.write` comes to. The device refuses it (`again`) or still refuses it when the time of
the caller is up (`late`); `cut` is a signal that arrives while the device takes what it takes. -/
inductive WriteOutcome
  | accept (n : Nat)
  | again
  | late
  | error
  | cut (n : Nat)
  deriving DecidableEq, Repr

structure Listening where
  reads : List (List UInt8) := []
  stopped : Bool := false

/-- The tool with the device it has opened: what becomes of the calls to come (when they are used up
every write is taken whole and nothing is heard), and what has happened. `dropped` is what the tool says
of the subscription at the end. -/
structure Tool where
  writes : List WriteOutcome := []
  listens : List Listening := []
  reached : List UInt8 := []
  subscribed : Bool := false
  unsubscribed : Bool := false
  dropped : Option Bool := none
  notes : Notes := {}

def toolNotes : Lens Tool Notes where
  get t := t.notes
  set n t := { t with notes := n }
  get_set _ _ := rfl
  set_get _ := rfl
  set_set _ _ _ := rfl

/-- How a write of many bytes ends: what the device took, what is left of the outcomes, and what is
raised. -/
structure Written where
  taken : List UInt8
  left : List WriteOutcome
  raised : Option Raised

def Written.after (w : Written) (bytes : List UInt8) : Written := ⟨bytes ++ w.taken, w.left, w.raised⟩

def writeTo : List WriteOutcome → List UInt8 → Written
  | [], buf => ⟨buf, [], none⟩
  | o :: w, buf =>
    if buf.isEmpty then ⟨[], o :: w, none⟩
    else match o with
      | .accept n => (writeTo w (buf.drop n)).after (buf.take n)
      | .again => writeTo w buf
      | .late => ⟨[], w, some .blockingIOError⟩
      | .error => ⟨[], w, some .osError⟩
      | .cut n => ⟨buf.take n, w, some .stopped⟩

def sent (w : List WriteOutcome) (bytes : List UInt8) : Prog Raised Tool Unit :=
  modify fun t => { t with writes := w, reached := t.reached ++ bytes }

def writeAll (buf : List UInt8) : Prog Raised Tool Unit := do
  let t ← read
  let w := writeTo t.writes buf
  sent w.left w.taken
  match w.raised with
  | none => pure ()
  | some e => fail e

def listen : Prog Raised Tool (List UInt8) := do
  let t ← read
  modify fun t => { t with listens := t.listens.tail }
  if (t.listens.headD {}).stopped then fail .stopped
  else pure (t.listens.headD {}).reads.flatten

def listenNoting : Prog Raised Tool Unit := do
  let t ← read
  modify fun t => { t with listens := t.listens.tail }
  zoom toolNotes (forList (note false) (t.listens.headD {}).reads)
  if (t.listens.headD {}).stopped then fail .stopped else pure ()

def uel : List UInt8 := 0x1b :: latin1 "%-12345X"

def ustatusOff : List UInt8 := uel ++ latin1 "@PJL USTATUSOFF\r\n" ++ uel

/-- `unsubscribe`, whose deadline is over when the device is `late`. -/
def unsubscribeTo : List WriteOutcome → Prog Raised Tool Bool
  | [] => do
    sent [] ustatusOff
    let _ ← listen
    pure true
  | .accept n :: w => do
    sent w (ustatusOff.take n)
    let _ ← listen
    pure true
  | .again :: w => do
    sent w []
    let _ ← listen
    unsubscribeTo w
  | .late :: w => do
    sent w []
    let _ ← listen
    pure false
  | .error :: w => do
    sent w []
    pure false
  | .cut n :: w => do
    sent w (ustatusOff.take n)
    fail .stopped

def unsubscribe : Prog Raised Tool Bool := do
  modify fun t => { t with unsubscribed := true }
  let t ← read
  unsubscribeTo t.writes

/-- The `finally` blocks. -/
def dropSubscription : Prog Raised Tool Unit := do
  let t ← read
  if t.subscribed then do
    let dropped ← unsubscribe
    modify fun t => { t with dropped := some dropped }
  else pure ()

def finallyDrop (m : Prog Raised Tool Unit) : Prog Raised Tool Unit := do
  let r ← attempt m
  dropSubscription
  match r with
  | .ok _ => pure ()
  | .error e => fail e

inductive Ustatus
  | device | job | page
  deriving DecidableEq, Repr

def Ustatus.name : Ustatus → List UInt8
  | .device => latin1 "DEVICE"
  | .job => latin1 "JOB"
  | .page => latin1 "PAGE"

def ustatusOn (c : Ustatus) : List UInt8 := latin1 "@PJL USTATUS " ++ c.name ++ latin1 "=ON\r\n"

def ustatusRequest (subs : List Ustatus) : List UInt8 := uel ++ subs.flatMap ustatusOn ++ uel

def subscribe (subs : List Ustatus) : Prog Raised Tool Unit := do
  writeAll (ustatusRequest subs)
  modify fun t => { t with subscribed := true }

def say (text : String) : Prog Raised Tool Unit := zoom toolNotes (emit ⟨latin1 text, none⟩)

/-- `rounds` is how often the loop goes round before its time is up. -/
structure WatchArgs where
  noSubscribe : Bool
  all : Bool
  rounds : Nat

def infoStatus : List UInt8 := uel ++ latin1 "@PJL INFO STATUS\r\n" ++ uel

def poll (all : Bool) : Prog Raised Tool Unit := do
  let r ← attempt (writeAll infoStatus)
  match r with
  | .ok _ => pure ()
  | .error .blockingIOError =>
    zoom toolNotes (note all (latin1 "(device is not accepting writes -- listening only)"))
  | .error e => fail e

def watchRounds (all : Bool) : Nat → Prog Raised Tool Unit
  | 0 => pure ()
  | n + 1 => do
    poll all
    let text ← listen
    zoom toolNotes (note all text)
    watchRounds all n

def watchStart (a : WatchArgs) : Prog Raised Tool Unit :=
  if !a.noSubscribe then do
    subscribe [.device]
    say "-- subscribed to USTATUS DEVICE, provoke states now --"
  else say "-- polling only, no subscription --"

def watchBody (a : WatchArgs) : Prog Raised Tool Unit := do
  let r ← attempt (do
    watchStart a
    watchRounds a.all a.rounds)
  match r with
  | .ok _ => pure ()
  | .error .stopped => pure ()
  | .error e => fail e

def cmdWatch (a : WatchArgs) : Prog Raised Tool Unit := finallyDrop (watchBody a)

/-- The print stream, and the classes of reports that are asked for. -/
structure ProbeArgs where
  data : List UInt8
  subs : List Ustatus

def probeStart (a : ProbeArgs) : Prog Raised Tool Unit :=
  if !a.subs.isEmpty then do
    subscribe a.subs
    let text ← listen
    zoom toolNotes (note false text)
  else pure ()

/-- `data[i:i + 4096]` for the block number `k`. -/
def block (data : List UInt8) (k : Nat) : List UInt8 := (data.drop (4096 * k)).take 4096

def sendData (data : List UInt8) : Prog Raised Tool Unit :=
  forIndex 0 (fun k _ => writeAll (block data k)) ((data.length + 4095) / 4096) ()

def probeBody (a : ProbeArgs) : Prog Raised Tool Unit := do
  let r ← attempt (do
    probeStart a
    sendData a.data
    say s!"sent {a.data.length} bytes"
    listenNoting)
  match r with
  | .ok _ => pure ()
  | .error .blockingIOError => do
    say "device stopped accepting writes mid-stream -- listening instead"
    listenNoting
  | .error .stopped => pure ()
  | .error e => fail e

def cmdProbeJob (a : ProbeArgs) : Prog Raised Tool Unit := finallyDrop (probeBody a)

end PantumOpen.Status
