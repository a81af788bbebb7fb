import PantumOpen.Scan.JobSettings

/-! How a device that refuses a step of the handshake is reported to the frontend. -/

namespace PantumOpen.Scan
open Prog Bytes

/-- A command of the handshake; a request for the lock comes behind `busy` tries at which the
device was busy. -/
inductive Step
  | lock (busy : Fin 5)
  | setDefaults | getSettings | setSettings | start
  deriving DecidableEq

def Step.cmd : Step → Nat
  | .lock _ => cmdLock
  | .setDefaults => cmdSetDefaults
  | .getSettings => cmdGetSettings
  | .setSettings => cmdSetSettings
  | .start => cmdStart

def Step.reply : Step → Option Nat
  | .getSettings => some pantumSettingsLen
  | _ => none

def busyTry : Prog Status Session Unit := do
  setHandle fun h => { h with locked := true }
  let a ← commandAck cmdLock [] none
  if a.1.status = 2 then pure () else fail .ioError

def busyTries : Nat → Prog Status Session Unit
  | 0 => pure ()
  | n + 1 => do
    busyTry
    busyTries n

/-- What `run_job` does before it sends the command of a step; the result is the payload that goes
with the command. -/
def Step.before : Step → Prog Status Session (List UInt8)
  | .lock busy => do
    setHandle fun h => { h with nextRow := 0, out := [], outPos := 0, eof := false }
    busyTries busy
    setHandle fun h => { h with locked := true }
    pure []
  | .setDefaults => do
    claimDevice
    pure []
  | .getSettings => do
    claimDevice
    let _ ← command cmdSetDefaults [] none
    pure []
  | .setSettings => do
    claimDevice
    let settings ← readSettings
    let h ← getHandle
    pure (h.val.editSettings settings)
  | .start => do
    claimDevice
    let settings ← readSettings
    let h ← getHandle
    let _ ← command cmdSetSettings (h.val.editSettings settings) none
    pure []

def acknowledge (cmd : Nat) (payload : List UInt8) : Prog Status Session Frame := do
  onOutp (sendFrame cmd payload)
  onInp (skipToAck cmd commandMaxSkip)

def Delivered (f : Frame) (reply : Option Nat) (t : Session) : Prop :=
  f.plen = 0 ∨ ∃ data w, onInp (ackPayload f reply) t = (.ok data, w)

/-- The refusal of `step` in the answer `f` is what `run_job` returns, after it has given the lock
back and sent nothing else. -/
structure RefusalReported (env : Env) (s u : Session) (step : Step) (payload : List UInt8)
    (f : Frame) : Prop where
  result : (runJob env s).1 = .error (mapStatus f.status)
  sent : (runJob env s).2.outp.sent = u.outp.sent ++ [⟨step.cmd, payload⟩, ⟨cmdUnlock, []⟩]
  idle : (runJob env s).2.host.h.scanning = false

variable {env : Env} {s t u w : Session} {payload : List UInt8} {reply : Option Nat} {f : Frame}

def refusalStatus (f : Frame) (reply : Option Nat) : Status :=
  if f.plen = 0 ∧ reply.isSome then .ioError else mapStatus f.status

theorem commandAck_eq (cmd : Nat) (payload : List UInt8) (reply : Option Nat) :
    commandAck cmd payload reply = acknowledge cmd payload >>= fun f =>
      onInp (ackPayload f reply) >>= fun data => pure (f, data) := by
  unfold commandAck acknowledge
  rw [bind_assoc]

theorem ackPayload_empty (hplen : f.plen = 0) (t : Session) :
    onInp (ackPayload f none) t = (.ok [], t) := by
  have hdrain : ackPayload f none t.inp = (.ok [], t.inp) := by
    unfold ackPayload drainPayload
    rw [hplen]
    rfl
  unfold onInp zoom
  change ((ackPayload f none t.inp).1, { t with inp := (ackPayload f none t.inp).2 }) = _
  rw [hdrain]

theorem commandAck_delivered {cmd : Nat} (hack : acknowledge cmd payload u = (.ok f, t))
    (hdelivered : Delivered f reply t) (hreply : ¬ (f.plen = 0 ∧ reply.isSome = true)) :
    ∃ data w, commandAck cmd payload reply u = (.ok (f, data), w) ∧ Sent u w [⟨cmd, payload⟩] := by
  have hsent : Sent u (commandAck cmd payload reply u).2 [⟨cmd, payload⟩] :=
    commandAck_sent cmd payload reply u
  have hread : ∃ data w, onInp (ackPayload f reply) t = (.ok data, w) := by
    rcases hdelivered with hplen | hread
    · cases reply with
      | none => exact ⟨[], t, ackPayload_empty hplen t⟩
      | some len => exact absurd ⟨hplen, rfl⟩ hreply
    · exact hread
  obtain ⟨data, w, hread⟩ := hread
  have hrun : commandAck cmd payload reply u = (.ok (f, data), w) := by
    rw [commandAck_eq, bind_ok hack, bind_ok hread]
    rfl
  rw [hrun] at hsent
  exact ⟨data, w, hrun, hsent⟩

theorem command_refused {cmd : Nat} (hack : acknowledge cmd payload u = (.ok f, t))
    (hstatus : f.status ≠ 0) (hdelivered : Delivered f reply t) :
    ∃ w, command cmd payload reply u = (.error (refusalStatus f reply), w) ∧
      Sent u w [⟨cmd, payload⟩] := by
  have hsent : Sent u (command cmd payload reply u).2 [⟨cmd, payload⟩] := command_sent cmd payload reply u
  unfold refusalStatus
  by_cases hreply : f.plen = 0 ∧ reply.isSome = true
  · -- The payload is missed before the status is looked at.
    obtain ⟨hplen, hsome⟩ := hreply
    obtain ⟨len, rfl⟩ := Option.isSome_iff_exists.mp hsome
    have hread : onInp (ackPayload f (some len)) t = (.error .ioError, t) := by
      unfold ackPayload
      dsimp only
      rw [if_pos hplen]
      rfl
    have hcommand : command cmd payload (some len) u = (.error .ioError, t) := by
      have hcommandAck : commandAck cmd payload (some len) u = (.error .ioError, t) := by
        rw [commandAck_eq, bind_ok hack, bind_error hread]
      unfold command
      rw [bind_error hcommandAck]
    rw [hcommand] at hsent ⊢
    rw [if_pos ⟨hplen, rfl⟩]
    exact ⟨t, rfl, hsent⟩
  · obtain ⟨data, w, hrun, hw⟩ := commandAck_delivered hack hdelivered hreply
    have hfail : ofStatus (mapStatus f.status) w = (.error (mapStatus f.status), w) := by
      unfold ofStatus
      rw [if_neg (mapStatus_ne_good hstatus)]
      rfl
    rw [if_neg hreply]
    refine ⟨w, ?_, hw⟩
    unfold command
    rw [bind_ok hrun, if_pos hstatus, bind_error hfail]

def lockRound : Prog Status Session (Unit ⊕ Unit) := do
  setHandle fun h => { h with locked := true }
  let a ← attempt (commandAck cmdLock [] none)
  match a with
  | .ok (f, _) =>
    if f.status = 0 then pure (.inr ())
    else if f.status ≠ 2 then giveUp (mapStatus f.status)
    else pure (.inl ())
  | .error st => giveUp st

theorem lockDevice_eq :
    lockDevice = loop (fun _ => lockRound) (fun _ => giveUp .deviceBusy) 5 () := rfl

theorem lockRound_busy (h : busyTry s = (.ok (), t)) : lockRound s = (.ok (.inl ()), t) := by
  unfold busyTry at h
  obtain ⟨_, u, hset, h⟩ := of_bind_ok h
  obtain ⟨a, w, hack, h⟩ := of_bind_ok h
  have hattempt : attempt (commandAck cmdLock [] none) u = (.ok (.ok a), w) := by
    unfold attempt
    rw [hack]
  unfold lockRound
  rw [bind_ok hset, bind_ok hattempt]
  dsimp only
  by_cases hbusy : a.1.status = 2
  · rw [if_pos hbusy] at h
    rw [hbusy]
    cases h
    rfl
  · rw [if_neg hbusy] at h
    cases h

theorem lockLoop_busy {n : Nat} (h : busyTries n s = (.ok (), t)) (m : Nat) :
    loop (fun _ => lockRound) (fun _ => giveUp .deviceBusy) (n + m) () s =
      loop (fun _ => lockRound) (fun _ => giveUp .deviceBusy) m () t := by
  induction n generalizing s with
  | zero =>
    cases h
    rw [Nat.zero_add]
  | succ n ih =>
    obtain ⟨_, u, htry, h⟩ := of_bind_ok h
    rw [Nat.succ_add, loop, bind_ok (lockRound_busy htry)]
    exact ih h

theorem giveUp_locked {α : Type} (st : Status) (hl : w.host.h.locked = true) :
    ∃ v, (giveUp st : Prog Status Session α) w = (.error st, v) ∧
      v.host.h.scanning = w.host.h.scanning ∧ v.outp.sent = w.outp.sent ++ [⟨cmdUnlock, []⟩] := by
  have h : wp (giveUp st : Prog Status Session α) (fun r v => r = .error st ∧
      v.host = w.host.onHandle Handle.unlocked ∧
      v.outp.sent = w.outp.sent ++ w.host.h.unlockFrames) w := giveUp_spec st w
  obtain ⟨hr, hh, ho⟩ := h
  unfold Handle.unlockFrames at ho
  rw [if_pos hl] at ho
  refine ⟨_, Prod.ext hr rfl, ?_, ho⟩
  rw [hh]
  rfl

theorem lockLoop_refused {n : Nat} (hack : acknowledge cmdLock [] (u.onHandle Handle.withLock) = (.ok f, t))
    (hstatus : f.status ≠ 0) (hdelivered : Delivered f none t) (hbusy : f.status = 2 → n = 0) :
    ∃ v, loop (fun _ => lockRound) (fun _ => giveUp .deviceBusy) (n + 1) () u =
        (.error (mapStatus f.status), v) ∧
      v.host.h.scanning = u.host.h.scanning ∧
      v.outp.sent = u.outp.sent ++ [⟨cmdLock, []⟩, ⟨cmdUnlock, []⟩] := by
  obtain ⟨data, w, hrun, hw⟩ := commandAck_delivered hack hdelivered fun h => absurd h.2 (by decide)
  have hl : w.host.h.locked = true := by
    rw [hw.host]
    rfl
  have hkept : w.host.h.scanning = u.host.h.scanning := by
    rw [hw.host]
    rfl
  have hsent : w.outp.sent = u.outp.sent ++ [⟨cmdLock, []⟩] := hw.sent
  have hround : lockRound u = (if f.status ≠ 2 then giveUp (mapStatus f.status) else pure (.inl ())) w := by
    have hset : setHandle (fun h => { h with locked := true }) u =
        (.ok (), u.onHandle Handle.withLock) := rfl
    have hattempt : attempt (commandAck cmdLock [] none) (u.onHandle Handle.withLock) =
        (.ok (.ok (f, data)), w) := by
      unfold attempt
      rw [hrun]
    unfold lockRound
    rw [bind_ok hset, bind_ok hattempt]
    dsimp only
    rw [if_neg hstatus]
  rw [loop]
  -- A busy device is asked again, unless this was the last try.
  by_cases h2 : f.status = 2
  · obtain rfl := hbusy h2
    rw [h2] at hround ⊢
    obtain ⟨v, hv, hscan, hunlock⟩ := giveUp_locked (α := Unit) (mapStatus 2) hl
    refine ⟨v, ?_, hscan.trans hkept, ?_⟩
    · rw [bind_ok hround]
      exact hv
    · rw [hunlock, hsent, List.append_assoc]
      rfl
  · rw [if_pos h2] at hround
    obtain ⟨v, hv, hscan, hunlock⟩ := giveUp_locked (α := Unit ⊕ Unit) (mapStatus f.status) hl
    refine ⟨v, ?_, hscan.trans hkept, ?_⟩
    · rw [bind_error (hround.trans hv)]
    · rw [hunlock, hsent, List.append_assoc]
      rfl

structure Withdrawn (env : Env) (s u : Session) (st : Status) (f : HostFrame) : Prop where
  result : (runJob env s).1 = .error st
  sent : (runJob env s).2.outp.sent = u.outp.sent ++ [f, ⟨cmdUnlock, []⟩]
  kept : (runJob env s).2.host.h.scanning = s.host.h.scanning

theorem withdrawn_of_begin {st : Status} {v : Session} {frame : HostFrame}
    (hbegin : beginJob s = (.error st, v)) (hscan : v.host.h.scanning = s.host.h.scanning)
    (hsent : v.outp.sent = u.outp.sent ++ [frame, ⟨cmdUnlock, []⟩]) : Withdrawn env s u st frame := by
  have hrun : runJob env s = (.error st, v) := by
    unfold runJob
    rw [bind_error hbegin]
  constructor <;> rw [hrun]
  · exact hsent
  · exact hscan

theorem claimDevice_ok (h : claimDevice s = (.ok (), t)) :
    t.host.h.locked = true ∧ t.host.h.scanning = s.host.h.scanning := by
  have hclaim : wp claimDevice (fun r t => r = .ok () → t.host = s.host.onHandle
      fun h => h.emptyPage.withLock) s := by
    unfold claimDevice
    rw [wp_bind, wp_setHandle, after_ok, wp_bind]
    apply wp_mono (lockDevice_spec _)
    intro r t ht
    match r, ht with
    | .error _, _ => exact fun hr => by cases hr
    | .ok _, ⟨hh, _⟩ =>
      rw [after_ok, wp_bind, wp_getHandle, after_ok, wp_ite]
      refine ⟨fun _ => ?_, fun _ _ => hh⟩
      apply wp_mono (requireFeeder_spec t)
      intro r u hu
      match r, hu with
      | .error _, _ => exact fun hr => by cases hr
      | .ok _, ⟨hu, _⟩ => exact fun _ => hu.trans hh
  unfold wp at hclaim
  rw [h] at hclaim
  rw [hclaim rfl]
  exact ⟨rfl, rfl⟩

theorem setupJob_refused {c : Session} {st : Status} {frame : HostFrame}
    (hclaim : claimDevice s = (.ok (), c)) (hsetup : setupJob c = (.error st, w))
    (hhost : u.host = c.host) (hw : Sent u w [frame]) : Withdrawn env s u st frame := by
  obtain ⟨hl, hscan⟩ := claimDevice_ok hclaim
  have hc : w.host.h = c.host.h := by rw [hw.host, hhost]
  obtain ⟨v, hv, hkept, hsent⟩ := giveUp_locked (α := Unit) st (by rw [hc, hl] : w.host.h.locked = true)
  refine withdrawn_of_begin (v := v) ?_ ?_ ?_
  · have hattempt : attempt setupJob c = (.ok (.error st), w) := by
      unfold attempt
      rw [hsetup]
    rw [beginJob_eq, bind_ok hclaim]
    unfold submitJob
    rw [bind_ok hattempt]
    exact hv
  · rw [hkept, hc, hscan]
  · rw [hsent, hw.sent, List.append_assoc]
    rfl

theorem refusalStatus_none (f : Frame) : refusalStatus f none = mapStatus f.status :=
  if_neg fun h => absurd h.2 (by decide)

theorem keeps_busyTries (n : Nat) : Keeps (fun s : Session => s.host.h.scanning) (busyTries n) := by
  have hack : Keeps (fun s : Session => s.host.h.scanning) (commandAck cmdLock [] none) := by
    intro s
    have hsent : Sent s (commandAck cmdLock [] none s).2 [⟨cmdLock, []⟩] := commandAck_sent _ _ _ s
    exact congrArg (fun x : Host => x.h.scanning) hsent.host
  induction n with
  | zero => exact keeps_pure ()
  | succ n ih =>
    exact keeps_bind (keeps_bind (fun _ => rfl) fun _ => keeps_bind hack fun _ =>
      keeps_ite (keeps_pure ()) (keeps_fail _)) fun _ => ih

theorem lock_refused {busy : Fin 5} (hbefore : (Step.lock busy).before s = (.ok payload, u))
    (hack : acknowledge cmdLock payload u = (.ok f, t)) (hstatus : f.status ≠ 0)
    (hdelivered : Delivered f none t) (hbusy : f.status = 2 → busy = 4) :
    Withdrawn env s u (mapStatus f.status) ⟨cmdLock, payload⟩ := by
  obtain ⟨_, s₁, hreset, hrun⟩ := of_bind_ok hbefore
  obtain rfl : s.onHandle Handle.emptyPage = s₁ := congrArg Prod.snd hreset
  obtain ⟨_, s₂, htries, hlocked⟩ := of_bind_ok hrun
  have hset : ((.ok [], s₂.onHandle Handle.withLock) : Except Status (List UInt8) × Session) =
      (.ok payload, u) := hlocked
  obtain ⟨hpayload, hu⟩ := Prod.mk.inj hset
  obtain rfl : [] = payload := Except.ok.inj hpayload
  subst hu
  have hscan : s₂.host.h.scanning = s.host.h.scanning := by
    have hkeeps := keeps_busyTries busy (s.onHandle Handle.emptyPage)
    rw [htries] at hkeeps
    exact hkeeps
  have hlast : f.status = 2 → 4 - busy.val = 0 := fun h => by rw [hbusy h]; rfl
  obtain ⟨v, hv, hkept, hsent⟩ := lockLoop_refused hack hstatus hdelivered hlast
  have hlock : lockDevice (s.onHandle Handle.emptyPage) = (.error (mapStatus f.status), v) := by
    rw [lockDevice_eq, show 5 = busy.val + (4 - busy.val + 1) by omega, lockLoop_busy htries]
    exact hv
  refine withdrawn_of_begin (v := v) ?_ (hkept.trans hscan) hsent
  rw [beginJob_eq]
  apply bind_error
  unfold claimDevice
  rw [bind_ok hreset, bind_error hlock]

theorem step_refused {step : Step} (hbefore : step.before s = (.ok payload, u))
    (hack : acknowledge step.cmd payload u = (.ok f, t)) (hstatus : f.status ≠ 0)
    (hdelivered : Delivered f step.reply t)
    (hbusy : ∀ busy, step = .lock busy → f.status = 2 → busy = 4) :
    Withdrawn env s u (refusalStatus f step.reply) ⟨step.cmd, payload⟩ := by
  -- All that came before the refused command was answered; the command itself is left.
  cases step with
  | lock busy =>
    unfold Step.reply
    rw [refusalStatus_none]
    exact lock_refused hbefore hack hstatus hdelivered (hbusy busy rfl)
  | setDefaults =>
    obtain ⟨w, hw, hsent⟩ := command_refused hack hstatus hdelivered
    obtain ⟨_, c, hclaim, hrest⟩ := of_bind_ok hbefore
    cases hrest
    refine setupJob_refused hclaim ?_ rfl hsent
    rw [setupJob_eq]
    unfold readSettings
    exact bind_error (bind_error hw)
  | getSettings =>
    obtain ⟨w, hw, hsent⟩ := command_refused hack hstatus hdelivered
    obtain ⟨_, c, hclaim, hrest⟩ := of_bind_ok hbefore
    obtain ⟨d, c₁, hdefaults, hrest⟩ := of_bind_ok hrest
    cases hrest
    have hhost : u.host = c.host := by
      have h : Sent c (command cmdSetDefaults [] none c).2 [⟨cmdSetDefaults, []⟩] := command_sent _ _ _ c
      rw [hdefaults] at h
      exact h.host
    refine setupJob_refused hclaim ?_ hhost hsent
    rw [setupJob_eq]
    unfold readSettings
    exact bind_error ((bind_ok hdefaults).trans hw)
  | setSettings =>
    obtain ⟨w, hw, hsent⟩ := command_refused hack hstatus hdelivered
    obtain ⟨_, c, hclaim, hrest⟩ := of_bind_ok hbefore
    obtain ⟨settings, c₁, hread, hrest⟩ := of_bind_ok hrest
    have hget : (getHandle : Prog Status Session Handle) c₁ = (.ok c₁.host.h, c₁) := rfl
    rw [bind_ok hget] at hrest
    cases hrest
    have hhost : wp readSettings (fun _ t => t.host = c.host ∧ t.settingsSent = c.settingsSent) c :=
      readSettings_kept c
    unfold wp at hhost
    rw [hread] at hhost
    refine setupJob_refused hclaim ?_ hhost.1 hsent
    rw [setupJob_eq, bind_ok hread]
    unfold sendSettings
    rw [bind_ok hget]
    exact bind_error hw
  | start =>
    obtain ⟨w, hw, hsent⟩ := command_refused hack hstatus hdelivered
    obtain ⟨_, c, hclaim, hrest⟩ := of_bind_ok hbefore
    obtain ⟨settings, c₁, hread, hrest⟩ := of_bind_ok hrest
    have hget : (getHandle : Prog Status Session Handle) c₁ = (.ok c₁.host.h, c₁) := rfl
    rw [bind_ok hget] at hrest
    obtain ⟨d, c₂, hset, hrest⟩ := of_bind_ok hrest
    cases hrest
    have hhost : wp readSettings (fun _ t => t.host = c.host ∧ t.settingsSent = c.settingsSent) c :=
      readSettings_kept c
    unfold wp at hhost
    rw [hread] at hhost
    have hhost₂ : u.host = c₁.host := by
      have h := command_sent cmdSetSettings (c₁.host.h.val.editSettings settings) none c₁
      unfold wp at h
      rw [hset] at h
      exact h.host
    refine setupJob_refused hclaim ?_ (hhost₂.trans hhost.1) hsent
    rw [setupJob_eq, bind_ok hread]
    unfold sendSettings
    rw [bind_ok hget, bind_ok hset]
    exact bind_error hw

/-- A refusal is reported as what it is, except that a request for the settings which is refused
without the settings comes out as an I/O error. -/
theorem refusal_reported_iff (env : Env) {step : Step} (hidle : s.host.h.scanning = false)
    (hbefore : step.before s = (.ok payload, u))
    (hack : acknowledge step.cmd payload u = (.ok f, t)) (hstatus : f.status ≠ 0)
    (hdelivered : Delivered f step.reply t)
    (hbusy : ∀ busy, step = .lock busy → f.status = 2 → busy = 4) :
    RefusalReported env s u step payload f ↔
      ¬ (step = .getSettings ∧ f.plen = 0 ∧ mapStatus f.status ≠ .ioError) := by
  have hend : Withdrawn env s u (refusalStatus f step.reply) ⟨step.cmd, payload⟩ :=
    step_refused hbefore hack hstatus hdelivered hbusy
  have hstep : step.reply.isSome = true ↔ step = .getSettings := by
    cases step <;> simp [Step.reply]
  constructor
  · rintro hreported ⟨rfl, hplen, hmap⟩
    have hresult := hend.result.symm.trans hreported.result
    unfold refusalStatus at hresult
    rw [if_pos ⟨hplen, rfl⟩] at hresult
    exact hmap (Except.error.inj hresult).symm
  · intro hcond
    refine ⟨?_, hend.sent, hend.kept.trans hidle⟩
    rw [hend.result]
    unfold refusalStatus
    split_ifs with h
    · rw [hstep] at h
      by_contra hne
      exact hcond ⟨h.2, h.1, fun he => hne (by rw [he])⟩
    · rfl

def answer (cmd status : Nat) (payload : List UInt8) : List UInt8 :=
  [pantumMagic, cmd, 0, 0, status, payload.length, 0, 0].flatMap putBe32 ++ payload

def openedOn (bytes : List UInt8) : Session :=
  (saneOpen (.fresh ⟨openFrames.flatMap HostFrame.encode ++ bytes,
    ⟨.timeout, 0⟩ :: List.replicate 12 ⟨.success, 132⟩⟩ (List.replicate 10 ⟨.success, 200⟩) [] true)).2

/-- The cover is opened before the job starts. -/
def coverOpen : Session :=
  openedOn (answer cmdLock 0 [] ++ answer cmdSetDefaults 0 [] ++
    answer cmdGetSettings 0 (List.replicate pantumSettingsLen 0) ++ answer cmdSetSettings 0 [] ++
    answer cmdStart 8 [] ++ answer cmdUnlock 0 [])

theorem refusal_reported_coverOpen :
    mapStatus 8 = .coverOpen ∧
      (RefusalReported plainEnv coverOpen (Step.start.before coverOpen).2 .start [] ⟨cmdStart, 0, 8, 0⟩ ↔
        ¬ (Step.start = .getSettings ∧ 0 = 0 ∧ mapStatus 8 ≠ .ioError)) := by
  have hbefore : (Step.start.before coverOpen).1 = .ok [] := by decide +kernel
  have hack : (acknowledge cmdStart [] (Step.start.before coverOpen).2).1 = .ok ⟨cmdStart, 0, 8, 0⟩ := by
    decide +kernel
  exact ⟨rfl, refusal_reported_iff plainEnv (by decide +kernel) (eq_ok hbefore) (eq_ok hack) (by decide)
    (.inl rfl) fun _ h => by cases h⟩

/-- Paper is jammed when the settings are asked for, and the answer carries no settings. -/
def jammedAtSettings : Session :=
  openedOn (answer cmdLock 0 [] ++ answer cmdSetDefaults 0 [] ++ answer cmdGetSettings 7 [] ++
    answer cmdUnlock 0 [])

theorem jammedAtSettings_unreported : ¬ ∀ (env : Env) (step : Step) (s u t : Session)
    (payload : List UInt8) (f : Frame), s.host.h.scanning = false →
    step.before s = (.ok payload, u) → acknowledge step.cmd payload u = (.ok f, t) → f.status ≠ 0 →
    Delivered f step.reply t → (∀ busy, step = .lock busy → f.status = 2 → busy = 4) →
    RefusalReported env s u step payload f := by
  intro h
  have hbefore : (Step.getSettings.before jammedAtSettings).1 = .ok [] := by decide +kernel
  have hack : (acknowledge cmdGetSettings [] (Step.getSettings.before jammedAtSettings).2).1 =
      .ok ⟨cmdGetSettings, 0, 7, 0⟩ := by decide +kernel
  have hresult := (h plainEnv .getSettings jammedAtSettings _ _ [] ⟨cmdGetSettings, 0, 7, 0⟩
    (by decide +kernel) (eq_ok hbefore) (eq_ok hack) (by decide) (.inl rfl) fun _ hl => by cases hl).result
  revert hresult
  decide +kernel

end PantumOpen.Scan
