import PantumOpen.Lib.Signal
import PantumOpen.Scan.JobIsolation

/-! `sane_pantum_cancel` as a signal handler in the middle of `sane_pantum_start`. -/

namespace PantumOpen.Scan
open Prog

def Handle.raised (h : Handle) : Handle := { h with cancelled := true }

theorem saneCancel_raise (s : Session) :
    (saneCancel s).2 = if s.host.valid then s.onHandle Handle.raised else s := by
  unfold saneCancel
  rw [bind_ok (a := s) (by rfl)]
  split <;> rfl

def hostFlag : Flag Host where
  armed s := s.valid
  raised s := s.h.cancelled
  raise s := if s.valid then s.onHandle Handle.raised else s
  armed_raise s := by split <;> rfl
  raised_raise s h := by rw [if_pos h]; rfl

/-- The flag of an open handle. The handler is `sane_pantum_cancel`. -/
def cancelFlag : Flag Session where
  armed s := s.host.valid
  raised s := s.host.h.cancelled
  raise s := (saneCancel s).2
  armed_raise s := by
    rw [saneCancel_raise]
    split <;> rfl
  raised_raise s h := by
    rw [saneCancel_raise, if_pos h]
    rfl

theorem cancelFlag_host : cancelFlag.Part hostLens hostFlag := by
  refine ⟨fun t s => (saneCancel_raise _).trans ?_, fun _ _ => rfl⟩
  change (if t.valid then _ else _) = hostLens.set (if t.valid then _ else _) s
  split <;> rfl

namespace Script
variable {α : Type}

abbrev Of (m : Prog Status Session α) : Type 1 := Prog.Script Status cancelFlag m

abbrev OfHost (m : Prog Status Host α) : Type 1 := Prog.Script Status hostFlag m

def onHost {m : Prog Status Host α} (p : OfHost m) : Of (onHost m) := .zoom cancelFlag_host p

def onInp (m : Prog Status Inp α) : Of (onInp m) := .step fun _ => rfl

def onOutp (m : Prog Status Outp α) : Of (onOutp m) := .step fun _ => rfl

def setHandle {f : Handle → Handle} (hf : ∀ h, (f h).cancelled = h.cancelled) : Of (setHandle f) :=
  .step fun s => congrArg (Prod.mk s.host.valid) (hf s.host.h)

def setHost {f : Handle → Handle} (hf : ∀ h, (f h).cancelled = h.cancelled) :
    OfHost (modify (Host.onHandle f)) := .step fun s => congrArg (Prod.mk s.valid) (hf s.h)

def getHandle : Of getHandle := .step fun _ => rfl

def pure (a : α) : Of (Pure.pure a) := .step fun _ => rfl

def fail (st : Status) : Of (Prog.fail st : Prog Status Session α) := .step fun _ => rfl

def ofStatus (st : Status) : Of (ofStatus st) := .ite (pure ()) (fail st)

def alloc : OfHost alloc := .step fun s => by
  rcases s with ⟨h, v, _ | ⟨b, bs⟩, d⟩ <;> rfl

def outReserve (extra : Nat) : OfHost (outReserve extra) :=
  .bind (setHost fun h => by split <;> rfl) fun _ => .bind (.step fun _ => rfl) fun _ =>
    .ite (.step fun _ => rfl) (.bind (setHost fun _ => rfl) fun _ => .bind (.step fun _ => rfl) fun _ =>
      .ite (.step fun _ => rfl) (.bind (setHost fun _ => rfl) fun _ => .bind alloc fun _ =>
        .ite (setHost fun _ => rfl) (.step fun _ => rfl)))

def appendRow (env : Env) (row : Handle → Buffer → Buffer) (next : Nat) :
    OfHost (appendRow env row next) :=
  .bind (.step fun _ => rfl) fun _ => .bind (outReserve _) fun _ => setHost fun _ => rfl

def emitWhiteRowsN (env : Env) : (n : Nat) → OfHost (emitWhiteRowsN env n)
  | 0 => .step fun _ => rfl
  | n + 1 => .bind (.step fun _ => rfl) fun _ => .bind (appendRow env _ _) fun _ => emitWhiteRowsN env n

def emitWhiteRows (env : Env) (upto : Nat) : OfHost (emitWhiteRows env upto) :=
  .bind (.step fun _ => rfl) fun _ => emitWhiteRowsN env _

def placeRows (env : Env) (b : Block) : (n i : Nat) → OfHost (placeRows env b n i)
  | 0, _ => .step fun _ => rfl
  | n + 1, i => .bind (.step fun _ => rfl) fun _ =>
      .ite (placeRows env b n (i + 1)) (.bind (appendRow env _ _) fun _ => placeRows env b n (i + 1))

def placeBlock (env : Env) (b : Block) : OfHost (placeBlock env b) :=
  .bind (.step fun _ => rfl) fun _ => .bind (emitWhiteRows env _) fun _ => placeRows env b _ _

def rawReserve (body : Nat) : OfHost (rawReserve body) :=
  .bind (.step fun _ => rfl) fun _ => .ite
    (.bind alloc fun _ => .ite (.bind (setHost fun _ => rfl) fun _ => .step fun _ => rfl)
      (.step fun _ => rfl)) (.step fun _ => rfl)

def buildDitherMask : OfHost buildDitherMask :=
  .bind (.step fun _ => rfl) fun _ => .ite (.step fun _ => rfl) (.bind alloc fun _ =>
    .bind alloc fun _ => .bind alloc fun _ => .bind alloc fun _ =>
      .ite (.step fun _ => rfl) (.step fun _ => rfl))

def commandAck (cmd : Nat) (payload : List UInt8) (reply : Option Nat) :
    Of (commandAck cmd payload reply) :=
  .bind (onOutp _) fun _ => .bind (onInp _) fun _ => .bind (onInp _) fun _ => pure _

def command (cmd : Nat) (payload : List UInt8) (reply : Option Nat) :
    Of (command cmd payload reply) :=
  .bind (commandAck _ _ _) fun _ => .bind (ofStatus _) fun _ => pure _

def unlockDevice : Of unlockDevice :=
  .bind (setHandle fun _ => rfl) fun _ => .bind getHandle fun _ =>
    .ite (.bind (setHandle fun _ => rfl) fun _ =>
      .ignore (.bind (onOutp _) fun _ => .bind (onInp _) fun _ => onInp _)) (pure ())

def giveUp (st : Status) : Of (giveUp st : Prog Status Session α) :=
  .bind unlockDevice fun _ => fail st

def abandon (st : Status) : Of (abandon st : Prog Status Session α) :=
  .bind (setHandle fun _ => rfl) fun _ => giveUp st

def reject (n : Nat) (st : Status) :
    Of (do Scan.onInp (ignore (drainPayload n)); Prog.fail st : Prog Status Session Unit) :=
  .bind (onInp _) fun _ => fail st

def handleDataBlock (env : Env) (plen : Nat) : Of (handleDataBlock env plen) :=
  .ite (reject _ _) (.bind (onInp _) fun _ => .bind getHandle fun _ =>
    .ite (reject _ _) (.ite (reject _ _) (.ite (reject _ _)
      (.bind (onHost (rawReserve _)) fun _ =>
        .ite (.bind (onInp _) fun _ => onHost (placeBlock env _)) (reject _ _)))))

def jobAborted (report : Bool) (status : Nat) : Of (jobAborted report status) :=
  .bind (setHandle fun _ => rfl) fun _ => .bind unlockDevice fun _ =>
    .ite (pure _) (.bind (ofStatus _) fun _ => pure _)

def jobEnded (env : Env) : Of (jobEnded env) :=
  .bind getHandle fun _ => .bind (.attempt (onHost (emitWhiteRows env _))) fun st =>
    .bind (setHandle fun _ => rfl) fun _ => .bind unlockDevice fun _ =>
      match st with
      | .ok _ => pure _
      | .error _ => fail _

def pageEnded (env : Env) : Of (pageEnded env) :=
  .bind getHandle fun _ => .ite (.bind (.attempt (onHost (emitWhiteRows env _))) fun st =>
    .bind (setHandle fun _ => rfl) fun _ =>
      match st with
      | .ok _ => pure _
      | .error _ => fail _) (pure _)

def handleFrame (env : Env) (report : Bool) (f : Frame) : Of (handleFrame env report f) :=
  .ite (.bind (handleDataBlock env _) fun _ => pure _)
    (.ite (.bind (onInp _) fun _ => jobAborted _ _)
      (.ite (.bind (onInp _) fun _ => jobEnded env)
        (.ite (.bind (onInp _) fun _ => pageEnded env)
          (.ite (.bind (onInp _) fun _ => pure _) (.bind (onInp _) fun _ => pure _)))))

def pumpFrame (env : Env) (probe report : Bool) : Of (pumpFrame env probe report) :=
  .bind (onInp _) fun f =>
    match f with
    | none => pure _
    | some f => handleFrame env report f

def takeFrame (env : Env) (probe report : Bool) : Of (takeFrame env probe report) :=
  .bind (.attempt (pumpFrame env probe report)) fun st =>
    match st with
    | .error e => abandon e
    | .ok _ => pure _

def lockDevice : Of lockDevice := by
  refine .loop (fun _ => ?_) (fun _ => giveUp _) _ _
  exact .bind (setHandle fun _ => rfl) fun _ => .bind (.attempt (commandAck _ _ _)) fun a =>
    match a with
    | .ok (_, _) => .ite (pure _) (.ite (giveUp _) (pure _))
    | .error st => giveUp st

def checkAdf : Of checkAdf :=
  .bind (onOutp _) fun _ => .bind (onInp _) fun _ => .bind (onInp _) fun _ => .ite (fail _) (pure _)

def requireFeeder : Of requireFeeder :=
  .bind (.attempt checkAdf) fun a =>
    match a with
    | .error st => giveUp st
    | .ok _ => .ite (giveUp _) (pure _)

def setupJob : Of setupJob :=
  .bind (command _ _ _) fun _ => .bind (command _ _ _) fun _ => .bind getHandle fun _ =>
    .bind (command _ _ _) fun _ => .bind (command _ _ _) fun _ => pure _

def submitJob : Of submitJob :=
  .bind (.attempt setupJob) fun st =>
    match st with
    | .error st => giveUp st
    | .ok _ => setHandle fun _ => rfl

def beginJob : Of beginJob :=
  .bind (setHandle fun _ => rfl) fun _ => .bind lockDevice fun _ => .bind getHandle fun _ =>
    .ite (.bind requireFeeder fun _ => submitJob) submitJob

def awaitFirstRows (env : Env) : Of (awaitFirstRows env) :=
  .bind (.step fun _ => rfl) fun _ => .loop (fun _ => .bind getHandle fun _ =>
    .ite (.bind (takeFrame env _ _) fun p =>
      match p with
      | .aborted _ => pure _
      | .idle => pure _
      | .done => pure _) (pure _)) (fun _ => abandon _) _ _

def startJob (env : Env) : Of (startJob env) :=
  .loop (fun _ => .bind (.bind beginJob fun _ => awaitFirstRows env) fun aborted =>
    match aborted with
    | none => pure _
    | some _ => .ite (fail _) (pure _)) (fun _ => fail _) _ _

def resumeJob (env : Env) : Of (resumeJob env) :=
  .bind (setHandle fun _ => rfl) fun _ => .bind (awaitFirstRows env) fun aborted =>
    match aborted with
    | some _ => ofStatus _
    | none => .bind getHandle fun _ => .ite (fail _) (pure _)

def endScan : Of endScan :=
  .bind getHandle fun _ => .ite (.bind (.ignore (onOutp _)) fun _ => .bind (.ignore (onInp _)) fun _ =>
    .bind (setHandle fun _ => rfl) fun _ => unlockDevice) unlockDevice

end Script

/-! ### A start under a signal -/

/-- The tests of `sane_start` behind the check of the handle. The result tells whether it goes on
with the next page of a feeder job. -/
def chooseStart : Prog Status Session Bool := do
  let h ← getHandle
  if h.cancelled then endScan else pure ()
  let h ← getHandle
  if h.feeding then pure true
  else if h.scanning then fail .deviceBusy
  else pure false

def clearCancelled : Prog Status Session Unit := setHandle fun h => { h with cancelled := false }

def deriveJob (env : Env) : Prog Status Host Unit := do
  modify <| Host.onHandle fun h =>
    { h with
      eof := false
      params := h.val.computeParameters
      threshold := h.val.lineartThreshold
      halftone := h.val.modeIs .halftone }
  let h ← gets Host.h
  if h.halftone then buildDitherMask else pure ()
  modify <| Host.onHandle fun h =>
    setMargins { h with gamma := env.toneCurve (h.params.format == .rgb) }

def newJob (env : Env) : Prog Status Session Unit := do
  onHost (deriveJob env)
  startJob env

theorem setMargins_cancelled (h : Handle) : (setMargins h).cancelled = h.cancelled := by
  unfold setMargins
  dsimp only
  split <;> rfl

namespace Script

def chooseStart : Of chooseStart :=
  .bind getHandle fun _ => .ite (.bind endScan fun _ => .bind getHandle fun _ =>
    .ite (pure _) (.ite (fail _) (pure _))) (.bind getHandle fun _ =>
      .ite (pure _) (.ite (fail _) (pure _)))

def deriveJob (env : Env) : OfHost (deriveJob env) :=
  .bind (setHost fun _ => rfl) fun _ => .bind (.step fun _ => rfl) fun _ =>
    .ite (.bind buildDitherMask fun _ => setHost fun _ => setMargins_cancelled _)
      (setHost fun _ => setMargins_cancelled _)

def newJob (env : Env) : Of (newJob env) :=
  .bind (onHost (deriveJob env)) fun _ => startJob env

end Script

/-- `sane_start` up to the point where it goes on with a feeder job or clears the flag. -/
def enterStart : Prog Status (Timed Session) Bool := do
  let s ← strike cancelFlag.raise read
  if !s.host.valid then fail .inval else Script.chooseStart.exec

/-- `sane_start` with the signal among its statements. -/
def signalledStart (env : Env) : Prog Status (Timed Session) Unit := do
  let resume ← enterStart
  if resume then (Script.resumeJob env).exec
  else do
    strike cancelFlag.raise clearCancelled
    (Script.newJob env).exec

theorem chooseStart_settled (s : Session) : chooseStart s =
    if s.settled.host.h.feeding then (.ok true, s.settled)
    else if s.settled.host.h.scanning then (.error .deviceBusy, s.settled)
    else (.ok false, s.settled) := by
  have htests (t : Session) : (do
      let h ← getHandle
      if h.feeding then pure true
      else if h.scanning then fail .deviceBusy
      else pure false : Prog Status Session Bool) t =
        if t.host.h.feeding then (.ok true, t)
        else if t.host.h.scanning then (.error .deviceBusy, t)
        else (.ok false, t) := by
    rw [bind_ok (a := t.host.h) (by rfl)]
    split
    · rfl
    · split <;> rfl
  have hend : endScan s = (.ok (), (endScan s).2) := by
    have h := endScan_spec s
    unfold wp at h
    exact Prod.ext h.1 rfl
  unfold chooseStart Session.settled
  rw [bind_ok (a := s.host.h) (by rfl)]
  split
  · rw [bind_ok hend]
    exact htests _
  · exact htests s

theorem beginNewJob (env : Env) (s : Session) :
    (do onHost (prepareJob env); startJob env) s = (do clearCancelled; newJob env) s := rfl

theorem enterStart_open {s : Session} (hv : s.host.valid = true) :
    enterStart (s, none) = ((chooseStart s).1, ((chooseStart s).2, none)) := by
  unfold enterStart
  rw [bind_ok (a := s) (t := (s, none)) (by rfl), if_neg (by simp [hv]), Script.exec_none]

/-- Without a signal these are the statements of `sane_start`. -/
theorem signalledStart_none (env : Env) (s : Session) :
    signalledStart env (s, none) = ((saneStart env s).1, ((saneStart env s).2, none)) := by
  by_cases hv : s.host.valid = true
  swap
  · have henter : enterStart (s, none) = (.error .inval, (s, none)) := by
      unfold enterStart
      rw [bind_ok (a := s) (t := (s, none)) (by rfl), if_pos (by simpa using hv)]
      rfl
    rw [signalledStart, bind_error henter, saneStart_invalid env hv]
  have henter := enterStart_open hv
  rw [chooseStart_settled] at henter
  rw [saneStart_settled env hv]
  unfold startSettled
  rw [bind_ok (a := s.settled.host.h) (by rfl)]
  split at henter <;> rename_i hf
  · rw [signalledStart, bind_ok henter, if_pos rfl, Script.exec_none, if_pos hf]
  rw [if_neg hf]
  split at henter <;> rename_i hscan
  · rw [signalledStart, bind_error henter, if_pos hscan]
    rfl
  · rw [signalledStart, bind_ok henter, if_neg (by decide), if_neg hscan, beginNewJob,
      bind_ok (a := ()) (t := ((clearCancelled s.settled).2, none)) (by rfl), Script.exec_none,
      bind_ok (a := ()) (by rfl)]
    rfl

theorem enterStart_closed {s : Session} (hv : ¬ s.host.valid = true) (k : Nat) :
    (enterStart (s, some k)).1 = .error .inval := by
  have hclosed (t : Session) (c : Option Nat) (ht : t.host.valid = s.host.valid)
      (hr : (strike cancelFlag.raise read : Prog Status (Timed Session) Session) (s, some k) =
        (.ok t, (t, c))) :
      (enterStart (s, some k)).1 = .error .inval := by
    unfold enterStart
    rw [bind_ok hr, if_pos (by simpa [ht] using hv)]
    rfl
  match k with
  | 0 => exact hclosed (cancelFlag.raise s) none (cancelFlag.armed_raise s) rfl
  | k + 1 => exact hclosed s (some k) rfl rfl

theorem enterStart_state {s : Session} (hv : s.host.valid = true) (k : Nat) :
    cancelFlag.state (enterStart (s, some k)).2.1 =
      (true, s.host.h.cancelled || (enterStart (s, some k)).2.2.isNone) := by
  match k with
  | 0 =>
    have hraise : (cancelFlag.raise s).host.valid = true := (cancelFlag.armed_raise s).trans hv
    have hread : enterStart (s, some 0) = Script.chooseStart.exec (cancelFlag.raise s, none) := by
      unfold enterStart
      rw [bind_ok (a := cancelFlag.raise s) (t := (cancelFlag.raise s, none)) (by rfl),
        if_neg (by simp [hraise])]
    have hraised : cancelFlag.raised (cancelFlag.raise s) = true := cancelFlag.raised_raise s hv
    rw [hread, Script.chooseStart.exec_state hraise, Script.exec_none, hraised]
    simp
  | k + 1 =>
    have hread : enterStart (s, some (k + 1)) = Script.chooseStart.exec (s, some k) := by
      unfold enterStart
      rw [bind_ok (a := s) (t := (s, some k)) (by rfl), if_neg (by simp [hv])]
    rw [hread, Script.chooseStart.exec_state hv]
    simp [cancelFlag]

/-- The cancellation stands when the start returns, and the next read acts on it. -/
structure CancelHeld (env : Env) (t : Session) : Prop where
  cancelled : t.host.h.cancelled = true
  read : ∀ n, 0 < n → wp (saneRead env n) (fun r u => r = .error .cancelled ∧
    u.host.h.scanning = false ∧ u.host.h.locked = false) t

/-- The signal comes after the statement that clears the flag, or the start has none because it goes
on with the next page of a feeder job. -/
def SignalKept (s : Session) (k : Nat) : Prop :=
  (enterStart (s, some k)).1 = .ok true ∨ ∃ j, (enterStart (s, some k)).2.2 = some (j + 1)

theorem saneRead_cancelled (env : Env) {s : Session} (hv : s.host.valid = true)
    (hc : s.host.h.cancelled = true) {n : Int} (hn : 0 < n) :
    wp (saneRead env n) (fun r u => r = .error .cancelled ∧ u.host.h.scanning = false ∧
      u.host.h.locked = false) s := by
  unfold saneRead
  rw [wp_bind, wp_read, after_ok, wp_ite]
  refine ⟨fun hbad => absurd hbad (by simp [hv, hn]), fun _ => ?_⟩
  rw [wp_bind, wp_getHandle, after_ok, wp_ite]
  refine ⟨fun _ => ?_, fun h => absurd hc h⟩
  rw [wp_bind]
  apply wp_mono (endScan_spec s)
  rintro _ t ⟨rfl, hh, -⟩
  rw [after_ok, wp_bind, wp_setHandle, after_ok, wp_fail, Session.onHandle_h, hh]
  exact ⟨rfl, rfl, rfl⟩

theorem cancelHeld_of_state (env : Env) {t : Session} (h : cancelFlag.state t = (true, true)) :
    CancelHeld env t where
  cancelled := congrArg Prod.snd h
  read _ hn := saneRead_cancelled env (congrArg Prod.fst h) (congrArg Prod.snd h) hn

/-- A cancellation during a start that succeeds is held exactly when the start no longer clears the
flag. -/
theorem cancel_held_iff (env : Env) {s t : Session} {k : Nat}
    (h : signalledStart env (s, some k) = (.ok (), (t, none))) :
    CancelHeld env t ↔ SignalKept s k := by
  unfold signalledStart at h
  have hv : s.host.valid = true := by
    by_contra hv
    rw [bind_error (Prod.ext (enterStart_closed hv k) rfl)] at h
    cases h
  have hstate := enterStart_state hv k
  unfold SignalKept
  rcases hx : enterStart (s, some k) with ⟨_ | resume, u, c⟩ <;> rw [hx] at hstate
  · rw [bind_error hx] at h
    cases h
  have hu : u.host.valid = true := congrArg Prod.fst hstate
  rw [bind_ok hx] at h
  cases resume with
  | true =>
    -- Nothing in this branch clears the flag.
    rw [if_pos rfl] at h
    have ht := (Script.resumeJob env).exec_state hu c
    rw [h] at ht
    refine ⟨fun _ => .inl rfl, fun _ => cancelHeld_of_state env (ht.trans (Prod.ext rfl ?_))⟩
    have hr : cancelFlag.raised u = (s.host.h.cancelled || c.isNone) := congrArg Prod.snd hstate
    rw [hr]
    cases c <;> simp
  | false =>
    rw [if_neg (by decide)] at h
    have hclear (v : Session) (hv : v.host.valid = true) (d : Option Nat)
        (hs : strike cancelFlag.raise clearCancelled (u, c) = (.ok (), (clearCancelled v).2, d)) :
        cancelFlag.state t = (true, d.isSome) := by
      rw [bind_ok hs] at h
      have ht := (Script.newJob env).exec_state (s := (clearCancelled v).2) hv d
      rw [h] at ht
      exact ht.trans (Prod.ext rfl (by simp [cancelFlag, clearCancelled, setHandle, Prog.modify]))
    have hlost (ht : cancelFlag.state t = (true, false)) (hc : ∀ j, c ≠ some (j + 1)) :
        CancelHeld env t ↔ (.ok false : Except Status Bool) = .ok true ∨ ∃ j, c = some (j + 1) := by
      refine ⟨fun held => ?_, fun hk => ?_⟩
      · exact absurd (held.cancelled.symm.trans (congrArg Prod.snd ht)) (by decide)
      · obtain hk | ⟨j, hk⟩ := hk
        · cases hk
        · exact absurd hk (hc j)
    obtain _ | (_ | j) := c
    · exact hlost (hclear u hu none rfl) fun _ hj => by cases hj
    · have hraise := (cancelFlag.armed_raise u).trans hu
      exact hlost (hclear (cancelFlag.raise u) hraise none rfl) fun _ hj => by cases hj
    · exact ⟨fun _ => .inr ⟨j, rfl⟩, fun _ => cancelHeld_of_state env (hclear u hu (some j) rfl)⟩

theorem signalledStart_eq {env : Env} {s : Session} {k : Nat}
    (hr : (signalledStart env (s, some k)).1.isOk = true)
    (hk : (signalledStart env (s, some k)).2.2 = none) :
    signalledStart env (s, some k) = (.ok (), ((signalledStart env (s, some k)).2.1, none)) := by
  rcases hx : signalledStart env (s, some k) with ⟨_ | _, t, c⟩ <;> rw [hx] at hr hk
  · cases hr
  · exact congrArg (fun c => (_, (t, c))) hk

/-- A signal in the middle of the handshake. -/
theorem cancel_held_handshake :
    CancelHeld plainEnv (signalledStart plainEnv (newHandle, some 40)).2.1 := by
  have hr : (signalledStart plainEnv (newHandle, some 40)).1.isOk = true := by decide +kernel
  have hk : (signalledStart plainEnv (newHandle, some 40)).2.2 = none := by decide +kernel
  have hlate : (enterStart (newHandle, some 40)).2.2 = some (35 + 1) := by decide +kernel
  exact (cancel_held_iff plainEnv (signalledStart_eq hr hk)).mpr (.inr ⟨35, hlate⟩)

/-- A signal right at the entry: the start ends the job it finds cancelled and begins another. -/
theorem cancel_lost : ¬ ∀ env s t k, Reachable env s →
    signalledStart env (s, some k) = (.ok (), (t, none)) → t.host.h.cancelled = true := by
  intro h
  have hs : Reachable plainEnv newHandle := reachable_opened _ _ 12 8 []
  have hr : (signalledStart plainEnv (newHandle, some 0)).1.isOk = true := by decide +kernel
  have hk : (signalledStart plainEnv (newHandle, some 0)).2.2 = none := by decide +kernel
  have hc := h plainEnv newHandle _ 0 hs (signalledStart_eq hr hk)
  revert hc
  decide +kernel

end PantumOpen.Scan
