import PantumOpen.Scan.OptionEffects

/-! The settings block of a job: what a start sends back to the device, and the frame the device
works out from it. -/

namespace PantumOpen.Scan
open Prog Bytes

variable {env : Env} {s t : Session} {v : OptionValues} {block : List UInt8}

def OptionValues.editedWords (v : OptionValues) (block : List UInt8) : List Nat :=
  v.jobWords.foldl (fun ws p => ws.set p.1 p.2)
    ((List.range pantumSettingsWords).map fun i => getBe32 block (4 * i))

theorem editSettings_eq (v : OptionValues) (block : List UInt8) :
    v.editSettings block = (v.editedWords block).flatMap putBe32 := rfl

theorem foldl_set_length (ps : List (Nat × Nat)) (ws : List Nat) :
    (ps.foldl (fun ws p => ws.set p.1 p.2) ws).length = ws.length := by
  induction ps generalizing ws with
  | nil => rfl
  | cons p ps ih =>
    rw [List.foldl_cons, ih, List.length_set]

theorem foldl_set_getD {ps : List (Nat × Nat)} {i : Nat} (hi : ∀ p ∈ ps, p.1 ≠ i) (ws : List Nat) :
    (ps.foldl (fun ws p => ws.set p.1 p.2) ws).getD i 0 = ws.getD i 0 := by
  induction ps generalizing ws with
  | nil => rfl
  | cons p ps ih =>
    have hp : p.1 ≠ i := hi p List.mem_cons_self
    rw [List.foldl_cons, ih fun q hq => hi q (List.mem_cons_of_mem _ hq)]
    simp only [List.getD_eq_getElem?_getD, List.getElem?_set_ne hp]

theorem foldl_set_forall {P : Nat → Prop} {ps : List (Nat × Nat)} (hps : ∀ p ∈ ps, P p.2)
    {ws : List Nat} (hws : ∀ w ∈ ws, P w) :
    ∀ w ∈ ps.foldl (fun ws p => ws.set p.1 p.2) ws, P w := by
  induction ps generalizing ws with
  | nil => exact hws
  | cons p ps ih =>
    apply ih (fun q hq => hps q (List.mem_cons_of_mem _ hq))
    intro w hw
    rcases List.mem_or_eq_of_mem_set hw with hw | rfl
    · exact hws w hw
    · exact hps p List.mem_cons_self

@[simp] theorem editedWords_length (v : OptionValues) (block : List UInt8) :
    (v.editedWords block).length = pantumSettingsWords := by
  unfold OptionValues.editedWords
  rw [foldl_set_length, List.length_map, List.length_range]

theorem sourceCode_lt (v : OptionValues) : v.sourceCode < 2 ^ 32 := by
  unfold OptionValues.sourceCode
  split <;> decide

theorem jobWords_lt (hv : v.resolution ∈ resolutionList) : ∀ p ∈ v.jobWords, p.2 < 2 ^ 32 := by
  have hw := computeWindow_inside v
  have hdpi := effectiveResolution_bounds hv
  have hsource := sourceCode_lt v
  have hmaxY := (maxY_bounds v).2
  obtain ⟨hl, ht, hlr, htb, hr, hb⟩ := hw
  unfold pantumMaxX at hr
  unfold pantumMaxYAdf at hmaxY
  unfold OptionValues.jobWords
  simp only [List.forall_mem_cons, List.not_mem_nil, false_implies, implies_true, and_true]
  refine ⟨by omega, by decide, hsource, by omega, by omega, by omega, by omega, ?_⟩
  split <;> decide

theorem editedWords_lt (hv : v.resolution ∈ resolutionList) (block : List UInt8) :
    ∀ w ∈ v.editedWords block, w < 2 ^ 32 := by
  refine foldl_set_forall (jobWords_lt hv) ?_
  intro w hw
  obtain ⟨i, -, rfl⟩ := List.mem_map.mp hw
  exact getBe32_lt _ _

theorem editSettings_word (hv : v.resolution ∈ resolutionList) (block : List UInt8) {i : Nat}
    (hi : i < pantumSettingsWords) :
    getBe32 (v.editSettings block) (4 * i) = (v.editedWords block).getD i 0 := by
  rw [editSettings_eq]
  exact getBe32_flatMap (editedWords_lt hv block) (by rwa [editedWords_length])

theorem editSettings_length (v : OptionValues) (block : List UInt8) :
    (v.editSettings block).length = pantumSettingsLen := by
  rw [editSettings_eq, putBe32_flatMap_length, editedWords_length]
  rfl

theorem foldl_set_mem {ps : List (Nat × Nat)} (hps : (ps.map Prod.fst).Nodup) {p : Nat × Nat}
    (hp : p ∈ ps) {ws : List Nat} (hi : p.1 < ws.length) :
    (ps.foldl (fun ws p => ws.set p.1 p.2) ws).getD p.1 0 = p.2 := by
  induction ps generalizing ws with
  | nil => cases hp
  | cons q ps ih =>
    obtain ⟨hq, hps⟩ := List.nodup_cons.mp hps
    rw [List.foldl_cons]
    rcases List.mem_cons.mp hp with rfl | hp
    · have hrest : ∀ r ∈ ps, r.1 ≠ p.1 := fun r hr he => hq (he.symm ▸ List.mem_map_of_mem hr)
      rw [foldl_set_getD hrest]
      simp [List.getD_eq_getElem?_getD, hi]
    · exact ih hps hp (by rwa [List.length_set])

theorem editedWords_job (block : List UInt8) {p : Nat × Nat} (hp : p ∈ v.jobWords)
    (hi : p.1 < pantumSettingsWords) : (v.editedWords block).getD p.1 0 = p.2 := by
  have hnodup : (v.jobWords.map Prod.fst).Nodup := by
    change [setResolution, setZero, setSource, setTop, setLeft, setBottom, setRight, setColour].Nodup
    decide
  exact foldl_set_mem hnodup hp (by rwa [List.length_map, List.length_range])

theorem editedWords_kept (v : OptionValues) (block : List UInt8) {i : Nat}
    (hi : i ∉ [setResolution, setZero, setSource, setTop, setLeft, setBottom, setRight, setColour])
    (hlt : i < pantumSettingsWords) : (v.editedWords block).getD i 0 = getBe32 block (4 * i) := by
  have hjob : ∀ p ∈ v.jobWords, p.1 ≠ i := fun p hp he => hi (he ▸ List.mem_map_of_mem hp)
  unfold OptionValues.editedWords
  rw [foldl_set_getD hjob]
  simp [List.getD_eq_getElem?_getD, hlt]

/-- What the device makes of a settings block: a dot for every hundredth of the extents, rounded
down, in colour when the colour word is 1. -/
structure DeviceFrame where
  pixels : Int
  lines : Int
  format : Option Format
  deriving DecidableEq, Repr

def deviceFrame (block : List UInt8) : DeviceFrame :=
  let word (i : Nat) : Int := getBe32 block (4 * i)
  { pixels := (word setRight - word setLeft) * word setResolution / 100
    lines := (word setBottom - word setTop) * word setResolution / 100
    format := if word setColour = 1 then some .rgb else if word setColour = 0 then some .gray
      else none }

def Parameters.frame (p : Parameters) : DeviceFrame := ⟨p.pixelsPerLine, p.lines, some p.format⟩

/-- The block `sent` is the `block` of the device but for the words of the job, and the device
makes of it the frame `p` unless the window is too small. -/
structure Promised (v : OptionValues) (p : Parameters) (block sent : List UInt8) : Prop where
  received : block.length = pantumSettingsLen
  length : sent.length = pantumSettingsLen
  kept : ∀ i < pantumSettingsWords, i ∉ [3, 13, 14, 16, 17, 18, 19, 24] →
    getBe32 sent (4 * i) = getBe32 block (4 * i)
  frame : pantumMinWindow ≤ v.computeWindow.right - v.computeWindow.left →
    pantumMinWindow ≤ v.computeWindow.bottom - v.computeWindow.top → deviceFrame sent = p.frame

theorem computeParameters_frame (v : OptionValues) : v.computeParameters.frame =
    { pixels := windowDots (v.computeWindow.right - v.computeWindow.left) v.effectiveResolution
      lines := windowDots (v.computeWindow.bottom - v.computeWindow.top) v.effectiveResolution
      format := some (if v.modeIs .color then .rgb else .gray) } := by
  unfold OptionValues.computeParameters
  dsimp only
  split_ifs <;> rfl

theorem windowDots_eq {extent dpi : Int} (he : pantumMinWindow ≤ extent) (hd : 75 ≤ dpi) :
    (windowDots extent dpi : Int) = extent * dpi / 100 := by
  unfold pantumMinWindow at he
  have hprod : 15 * 75 ≤ extent * dpi := Int.mul_le_mul he hd (by decide) (by omega)
  unfold windowDots
  rw [Int.tdiv_eq_ediv_of_nonneg (by omega)]
  dsimp only
  split <;> omega

theorem editSettings_frame (hv : v.resolution ∈ resolutionList) (block : List UInt8)
    (hx : pantumMinWindow ≤ v.computeWindow.right - v.computeWindow.left)
    (hy : pantumMinWindow ≤ v.computeWindow.bottom - v.computeWindow.top) :
    deviceFrame (v.editSettings block) = v.computeParameters.frame := by
  obtain ⟨hl, ht, hlr, htb, -, -⟩ := computeWindow_inside v
  have hdpi := effectiveResolution_bounds hv
  -- The words of the job are found where they were put.
  have hword (i w : Nat) (hi : i < pantumSettingsWords) (hp : (i, w) ∈ v.jobWords) :
      ((getBe32 (v.editSettings block) (4 * i) : Nat) : Int) = w := by
    rw [editSettings_word hv block hi, editedWords_job block hp hi]
  unfold OptionValues.jobWords at hword
  have hres := hword setResolution v.effectiveResolution.toNat (by decide) (by simp)
  have htop := hword setTop v.computeWindow.top.toNat (by decide) (by simp)
  have hleft := hword setLeft v.computeWindow.left.toNat (by decide) (by simp)
  have hbottom := hword setBottom v.computeWindow.bottom.toNat (by decide) (by simp)
  have hright := hword setRight v.computeWindow.right.toNat (by decide) (by simp)
  have hcolour := hword setColour (if v.modeIs .color then 1 else 0) (by decide) (by simp)
  rw [Int.toNat_of_nonneg (by omega)] at hres htop hleft hbottom hright
  rw [computeParameters_frame, windowDots_eq hx hdpi.1, windowDots_eq hy hdpi.1]
  unfold deviceFrame
  simp only [hres, htop, hleft, hbottom, hright, hcolour]
  cases v.modeIs .color <;> rfl

theorem promised (hv : v.resolution ∈ resolutionList) (hblock : block.length = pantumSettingsLen) :
    Promised v v.computeParameters block (v.editSettings block) where
  received := hblock
  length := editSettings_length v block
  kept _ hi hjob := by
    rw [editSettings_word hv block hi, editedWords_kept v block hjob hi]
  frame := editSettings_frame hv block

def readSettings : Prog Status Session (List UInt8) := do
  let _ ← command cmdSetDefaults [] none
  command cmdGetSettings [] (some pantumSettingsLen)

def sendSettings (settings : List UInt8) : Prog Status Session Unit := do
  let h ← getHandle
  let _ ← command cmdSetSettings (h.val.editSettings settings) none
  let _ ← command cmdStart [] none
  pure ()

theorem setupJob_eq : setupJob = readSettings >>= sendSettings := by
  unfold setupJob readSettings
  rw [bind_assoc]
  rfl

theorem command_reply_length (cmd : Nat) (payload : List UInt8) (len : Nat) (s : Session) :
    wp (command cmd payload (some len)) (fun r _ => ∀ bs, r = .ok bs → bs.length = len) s := by
  unfold command commandAck
  rw [wp_bind, wp_bind]
  apply wp_mono (sendFrame_sent cmd payload s)
  intro r t _
  cases r with
  | error _ => exact fun _ he => by cases he
  | ok _ =>
    rw [after_ok, wp_bind]
    apply wp_onInp
    intro r i
    cases r with
    | error _ => exact fun _ he => by cases he
    | ok f =>
      rw [after_ok, wp_bind, onInp, wp_zoom]
      have hack : wp (ackPayload f (some len)) (fun r _ => ∀ bs, r = .ok bs → bs.length = len) i := by
        unfold ackPayload
        dsimp only
        rw [wp_ite]
        refine ⟨fun _ _ he => (by cases he), fun _ => ?_⟩
        rw [wp_ite]
        exact ⟨fun _ _ he => (by cases he), fun _ => usbRead_length len i⟩
      apply wp_mono hack
      intro r j hr
      cases r with
      | error _ => exact fun _ he => by cases he
      | ok bs =>
        rw [after_ok, wp_pure, after_ok, wp_bind]
        exact wp_ofStatus _ (fun _ _ he => (by cases he; exact hr bs rfl)) fun _ _ he => (by cases he)

theorem readSettings_length {u : Session} (h : (readSettings u).1 = .ok block) :
    block.length = pantumSettingsLen := by
  have hread : wp readSettings (fun r _ => ∀ bs, r = .ok bs → bs.length = pantumSettingsLen) u := by
    unfold readSettings
    rw [wp_bind]
    apply wp_mono (command_sent _ _ _ u)
    intro r t _
    match r with
    | .error _ => exact fun _ he => by cases he
    | .ok _ => exact command_reply_length _ _ _ t
  exact hread block h

def Session.settingsSent (s : Session) : List (List UInt8) :=
  s.outp.sent.filterMap fun f => if f.cmd = cmdSetSettings then some f.payload else none

/-- The block `setup_job` sends from `u`, if the device lets it have its settings. -/
def Session.editedBlock (u : Session) : Option (List UInt8) :=
  (readSettings u).1.toOption.map u.host.h.val.editSettings

theorem Sent.settingsSent {cmd : Nat} {payload : List UInt8} (h : Sent s t [⟨cmd, payload⟩]) :
    t.settingsSent = s.settingsSent ++ if cmd = cmdSetSettings then [payload] else [] := by
  unfold Session.settingsSent
  rw [h.sent, List.filterMap_append]
  congr 1
  rw [List.filterMap_cons, List.filterMap_nil]
  split_ifs <;> rfl

section
variable {α : Type}

theorem keeps_settings {m : Prog Status Session α} {cmd : Nat} {payload : List UInt8}
    (hm : ∀ s, wp m (fun _ t => Sent s t [⟨cmd, payload⟩]) s) (hcmd : cmd ≠ cmdSetSettings) :
    Keeps Session.settingsSent m := by
  intro s
  have hsent : Sent s (m s).2 [⟨cmd, payload⟩] := hm s
  rw [hsent.settingsSent, if_neg hcmd, List.append_nil]

theorem keeps_command {cmd : Nat} (payload : List UInt8) (reply : Option Nat)
    (hcmd : cmd ≠ cmdSetSettings) : Keeps Session.settingsSent (command cmd payload reply) :=
  keeps_settings (command_sent cmd payload reply) hcmd

theorem keeps_setHandle (f : Handle → Handle) : Keeps Session.settingsSent (setHandle f) :=
  keeps_modify fun _ => rfl

theorem keeps_unlockDevice : Keeps Session.settingsSent unlockDevice :=
  keeps_bind (keeps_setHandle _) fun _ => keeps_bind (keeps_gets _) fun _ =>
    keeps_ite (keeps_bind (keeps_setHandle _) fun _ =>
      keeps_ignore (keeps_settings sendUnlock_sent (by decide))) (keeps_pure _)

theorem keeps_giveUp (st : Status) : Keeps Session.settingsSent (giveUp st : Prog Status Session α) :=
  keeps_bind keeps_unlockDevice fun _ => keeps_fail _

theorem keeps_lockDevice : Keeps Session.settingsSent lockDevice := by
  refine keeps_loop (fun _ => keeps_bind (keeps_setHandle _) fun _ =>
    keeps_bind (keeps_attempt (keeps_settings (commandAck_sent cmdLock [] none) (by decide)))
      fun r => ?_) (fun _ => keeps_giveUp _) 5 ()
  match r with
  | .error _ => exact keeps_giveUp _
  | .ok (_, _) => exact keeps_ite (keeps_pure _) (keeps_ite (keeps_giveUp _) (keeps_pure _))

theorem keeps_requireFeeder : Keeps Session.settingsSent requireFeeder := by
  apply keeps_bind (keeps_attempt (keeps_settings checkAdf_sent (by decide)))
  intro r
  match r with
  | .error _ => exact keeps_giveUp _
  | .ok (_, _) => exact keeps_ite (keeps_giveUp _) (keeps_pure _)

end

def claimDevice : Prog Status Session Unit := do
  setHandle fun h => { h with nextRow := 0, out := [], outPos := 0, eof := false }
  lockDevice
  let h ← getHandle
  if h.val.sourceIsAdf then requireFeeder else pure ()

theorem beginJob_eq : beginJob = claimDevice >>= fun _ => submitJob := by
  unfold beginJob claimDevice
  rw [bind_assoc]
  congr 1
  funext _
  rw [bind_assoc]
  congr 1
  funext _
  rw [bind_assoc]
  congr 1
  funext h
  split <;> rfl

theorem keeps_claimDevice : Keeps Session.settingsSent claimDevice :=
  keeps_bind (keeps_setHandle _) fun _ => keeps_bind keeps_lockDevice fun _ =>
    keeps_bind (keeps_gets _) fun _ => keeps_ite keeps_requireFeeder (keeps_pure _)

/-- The state in which the job that begins in `s` calls `setup_job`, if it gets there. -/
def Session.setupCall (s : Session) : Option Session :=
  match claimDevice s with
  | (.ok _, u) => some u
  | (.error _, _) => none

def Session.jobBlock (s : Session) : Option (List UInt8) := s.setupCall.bind Session.editedBlock

/-- The states in which `sane_start` calls `setup_job`, one for each job it begins. -/
def setupCalls (env : Env) (s : Session) : List Session :=
  if s.host.valid ∧ ¬ s.settled.host.h.feeding ∧ ¬ s.settled.host.h.scanning then
    match onHost (prepareJob env) s.settled with
    | (.ok _, t) => (rounds (fun _ => startRound env) 4 () t).filterMap fun x => x.2.setupCall
    | (.error _, _) => []
  else []

theorem readSettings_kept (u : Session) :
    wp readSettings (fun _ t => t.host = u.host ∧ t.settingsSent = u.settingsSent) u := by
  have hkeeps : Keeps Session.settingsSent readSettings :=
    keeps_bind (keeps_command [] none (by decide)) fun _ =>
      keeps_command [] (some pantumSettingsLen) (by decide)
  refine wp_and ?_ (hkeeps u)
  unfold readSettings
  rw [wp_bind]
  apply wp_mono (command_sent _ _ _ u)
  intro r t ht
  match r with
  | .error _ => exact ht.host
  | .ok _ => exact wp_mono (command_sent _ _ _ t) fun _ _ h => h.host.trans ht.host

theorem sendSettings_settings (block : List UInt8) (t : Session) :
    wp (sendSettings block) (fun _ u => u.settingsSent =
      t.settingsSent ++ [t.host.h.val.editSettings block]) t := by
  unfold sendSettings
  rw [wp_bind, wp_getHandle, after_ok, wp_bind]
  apply wp_mono (command_sent _ _ _ t)
  intro r u hu
  have hsent := hu.settingsSent
  rw [if_pos rfl] at hsent
  match r with
  | .error _ => exact hsent
  | .ok _ =>
    have hstart := keeps_command [] none (show cmdStart ≠ cmdSetSettings by decide) u
    rw [after_ok, wp_bind]
    rcases hr : command cmdStart [] none u with ⟨r, w⟩
    rw [hr] at hstart
    unfold wp
    rw [hr]
    match r with
    | .error _ => exact hstart.trans hsent
    | .ok _ => exact hstart.trans hsent

theorem setupJob_settings (u : Session) :
    (setupJob u).2.settingsSent = u.settingsSent ++ u.editedBlock.toList := by
  have hread : (readSettings u).2.host = u.host ∧
      (readSettings u).2.settingsSent = u.settingsSent := readSettings_kept u
  rw [setupJob_eq]
  unfold Session.editedBlock
  rcases hu : readSettings u with ⟨e | block, t⟩
  · rw [hu] at hread
    rw [bind_error hu, hread.2]
    exact (List.append_nil _).symm
  · rw [hu] at hread
    have hsend : (sendSettings block t).2.settingsSent = _ := sendSettings_settings block t
    rw [bind_ok hu, hsend, hread.1, hread.2]
    rfl

theorem submitJob_settings (u : Session) :
    (submitJob u).2.settingsSent = u.settingsSent ++ u.editedBlock.toList := by
  refine (keeps_bind_right (fun r => ?_) u).trans (setupJob_settings u)
  cases r with
  | error st => exact keeps_giveUp st
  | ok _ => exact keeps_setHandle _

theorem beginJob_settings (s : Session) :
    (beginJob s).2.settingsSent =
      s.settingsSent ++ s.jobBlock.toList := by
  have hclaim := keeps_claimDevice s
  rw [beginJob_eq]
  unfold Session.jobBlock Session.setupCall
  rcases hs : claimDevice s with ⟨e | _, u⟩
  · rw [hs] at hclaim
    rw [bind_error hs]
    simpa using hclaim
  · rw [hs] at hclaim
    rw [bind_ok hs, submitJob_settings, hclaim]
    rfl

theorem Handle.unlockFrames_settings (h : Handle) : (h.unlockFrames.filterMap fun f =>
    if f.cmd = cmdSetSettings then some f.payload else none) = [] := by
  unfold unlockFrames
  split <;> rfl

theorem settingsSent_of_unlock (h : t.outp.sent = s.outp.sent ++ s.host.h.unlockFrames) :
    t.settingsSent = s.settingsSent := by
  unfold Session.settingsSent
  rw [h, List.filterMap_append, Handle.unlockFrames_settings, List.append_nil]

theorem FrameEffect.settingsSent {report : Bool} {r : Except Status Pumped}
    (a : FrameEffect report s r t) : t.settingsSent = s.settingsSent := by
  cases a with
  | kept hq _ => exact congrArg (fun o : Outp => o.sent.filterMap _) hq.outp
  | aborted _ ho _ => exact settingsSent_of_unlock ho
  | jobEnd _ _ ho _ => exact settingsSent_of_unlock ho
  | pageEnd hq _ _ ho _ => exact congrArg (fun o : Outp => o.sent.filterMap _) (ho.trans hq.outp)

theorem keeps_awaitFirstRows (env : Env) : Keeps Session.settingsSent (awaitFirstRows env) := by
  intro s
  have hwait : wp (awaitFirstRows env) (fun _ t => t.settingsSent = s.settingsSent) s := by
    refine wp_awaitFirstRows (fun t => t.settingsSent = s.settingsSent) (fun t ht _ => ?_)
      (fun _ ht _ => ht) (fun _ _ ht hu => (settingsSent_of_unlock hu.sent).trans ht) rfl
    refine wp_takeFrame (wp_mono (pumpFrame_effect env false true t) fun r u hu => ?_)
    have hkept := hu.settingsSent.trans ht
    match r with
    | .error _ => exact fun _ hv => (settingsSent_of_unlock hv.sent).trans hkept
    | .ok .idle => exact hkept
    | .ok .done => exact hkept
    | .ok (.aborted _) => exact hkept
  exact hwait

theorem startRound_settings (env : Env) (s : Session) :
    (startRound env s).2.settingsSent =
      s.settingsSent ++ s.jobBlock.toList := by
  calc (startRound env s).2.settingsSent
      = (runJob env s).2.settingsSent := by
        apply keeps_bind_right
        intro aborted
        cases aborted with
        | none => exact keeps_pure _
        | some _ => exact keeps_ite (keeps_fail _) (keeps_pure _)
    _ = (beginJob s).2.settingsSent := keeps_bind_right (fun _ => keeps_awaitFirstRows env) s
    _ = _ := beginJob_settings s

theorem filterMap_cons_toList {α β : Type} (f : α → Option β) (a : α) (as : List α) :
    (a :: as).filterMap f = (f a).toList ++ as.filterMap f := by
  rw [List.filterMap_cons]
  cases f a <;> rfl

theorem startLoop_settings (env : Env) (n : Nat) (s : Session) :
    (loop (fun _ => startRound env) (fun _ => fail .deviceBusy) n () s).2.settingsSent =
      s.settingsSent ++ (rounds (fun _ => startRound env) n () s).filterMap fun x => x.2.jobBlock := by
  induction n generalizing s with
  | zero => exact (List.append_nil _).symm
  | succ n ih =>
    have hround := startRound_settings env s
    rw [loop, rounds, filterMap_cons_toList]
    rcases hs : startRound env s with ⟨r, t⟩
    rw [hs] at hround
    obtain _ | (_ | _) := r
    · rw [bind_error hs, hround]
      exact congrArg (s.settingsSent ++ ·) (List.append_nil _).symm
    · rw [bind_ok hs]
      exact (ih t).trans ((congrArg (· ++ _) hround).trans (List.append_assoc _ _ _))
    · rw [bind_ok hs]
      exact hround.trans (congrArg (s.settingsSent ++ ·) (List.append_nil _).symm)

theorem HandshakePost.jobStep {f : Handle → Handle} {r : Except Status Unit}
    (a : HandshakePost f s r t) (hf : ∀ h, JobOnly h (f h)) : JobStep s t := by
  match r, a with
  | .ok _, ⟨hh, _⟩ => exact .of_host hh hf
  | .error _, ⟨hh, _⟩ => exact .of_host hh fun _ => rfl

theorem claimDevice_jobStep (s : Session) : wp claimDevice (fun _ t => JobStep s t) s := by
  have hreset : JobStep s (s.onHandle Handle.emptyPage) := .of_host rfl fun _ => rfl
  unfold claimDevice
  rw [wp_bind, wp_setHandle, after_ok, wp_bind]
  apply wp_mono (lockDevice_spec _)
  intro r t ht
  have hlocked : JobStep s t := hreset.trans (ht.jobStep fun _ => rfl)
  match r with
  | .error _ => exact hlocked
  | .ok _ =>
    rw [after_ok, wp_bind, wp_getHandle, after_ok, wp_ite]
    refine ⟨fun _ => ?_, fun _ => hlocked⟩
    exact wp_mono (requireFeeder_spec t) fun _ _ hu => hlocked.trans (hu.jobStep fun _ => rfl)

theorem setupCall_jobStep {u : Session} (h : s.setupCall = some u) : JobStep s u := by
  have hclaim : JobStep s (claimDevice s).2 := claimDevice_jobStep s
  unfold Session.setupCall at h
  split at h
  · rename_i _ _ hrun
    rw [hrun] at hclaim
    cases h
    exact hclaim
  · cases h

theorem rounds_jobStep {n : Nat} {x : Unit × Session}
    (hx : x ∈ rounds (fun _ => startRound env) n () s) : JobStep s x.2 := by
  induction n generalizing s with
  | zero => cases hx
  | succ n ih =>
    have hround : JobStep s (startRound env s).2 := startRound_jobStep env s
    rw [rounds] at hx
    rcases List.mem_cons.mp hx with rfl | hx
    · exact .refl _
    · split at hx
      · rename_i _ t hs
        rw [hs] at hround
        exact hround.trans (ih hx)
      · cases hx

theorem keeps_settled (s : Session) : s.settled.settingsSent = s.settingsSent := by
  have hend : Keeps Session.settingsSent endScan :=
    keeps_bind (keeps_gets _) fun _ => keeps_ite
      (keeps_bind (keeps_ignore (keeps_settings (sendFrame_sent cmdAbort []) (by decide))) fun _ =>
        keeps_bind (keeps_ignore (keeps_zoom (fun _ _ => rfl) _)) fun _ =>
          keeps_bind (keeps_setHandle _) fun _ => keeps_unlockDevice) keeps_unlockDevice
  unfold Session.settled
  split
  · exact hend s
  · rfl

theorem keeps_resumeJob (env : Env) : Keeps Session.settingsSent (resumeJob env) := by
  refine keeps_bind (keeps_setHandle _) fun _ => keeps_bind (keeps_awaitFirstRows env) ?_
  intro r
  match r with
  | some _ => exact keeps_ite (keeps_pure _) (keeps_fail _)
  | none => exact keeps_bind (keeps_gets _) fun _ => keeps_ite (keeps_fail _) (keeps_pure _)

theorem startSettled_new (env : Env) (hf : ¬ s.host.h.feeding = true) (hs : ¬ s.host.h.scanning = true) :
    startSettled env s = (onHost (prepareJob env) >>= fun _ => startJob env) s := by
  have hget : (getHandle : Prog Status Session Handle) s = (.ok s.host.h, s) := rfl
  unfold startSettled
  rw [bind_ok hget, if_neg hf, if_neg hs]

theorem setupCalls_params {u : Session} (hu : u ∈ setupCalls env s) :
    s.host.valid = true ∧ u.host.h.val = s.host.h.val ∧
      (saneStart env s).2.host.h.params = s.host.h.val.computeParameters := by
  unfold setupCalls at hu
  split at hu
  swap
  · cases hu
  rename_i hnew
  obtain ⟨hv, hfeeding, hscanning⟩ := hnew
  have hfresh : (onHost (prepareJob env) s.settled).2.host.h.val = s.settled.host.h.val ∧
      (onHost (prepareJob env) s.settled).2.host.h.Fresh := prepareJob_fresh env s.settled
  have hsettled : s.settled.host.h.val = s.host.h.val := (settled_jobStep s).handle.get Handle.val
  split at hu
  · rename_i _ t hprepare
    rw [hprepare, hsettled] at hfresh
    obtain ⟨hval, hfresh⟩ := hfresh
    obtain ⟨x, hx, hcall⟩ := List.mem_filterMap.mp hu
    have hjob := (rounds_jobStep hx).trans (setupCall_jobStep hcall)
    have hstart : JobStep t (startJob env t).2 := startJob_jobStep env t
    refine ⟨hv, (hjob.handle.get Handle.val).trans hval, ?_⟩
    rw [saneStart_settled env hv, startSettled_new env hfeeding hscanning, bind_ok hprepare,
      hstart.handle.get Handle.params, ← hval]
    exact hfresh
  · cases hu

theorem setupCalls_sent (env : Env) (s : Session) : (saneStart env s).2.settingsSent =
    s.settingsSent ++ (setupCalls env s).filterMap Session.editedBlock := by
  have hnone {t : Session} (h : t.settingsSent = s.settingsSent) :
      t.settingsSent = s.settingsSent ++ ([] : List Session).filterMap Session.editedBlock :=
    h.trans (List.append_nil _).symm
  have hsettled := keeps_settled s
  unfold setupCalls
  by_cases hv : s.host.valid = true
  swap
  · rw [saneStart_invalid env hv, if_neg fun h => hv h.1]
    exact hnone rfl
  rw [saneStart_settled env hv]
  -- Only a start that finds no job at all sends settings.
  by_cases hf : s.settled.host.h.feeding = true
  · rw [if_neg fun h => h.2.1 hf]
    have hget : (getHandle : Prog Status Session Handle) s.settled = (.ok s.settled.host.h, s.settled) :=
      rfl
    unfold startSettled
    rw [bind_ok hget, if_pos hf]
    exact hnone ((keeps_resumeJob env _).trans hsettled)
  by_cases hs : s.settled.host.h.scanning = true
  · rw [if_neg fun h => h.2.2 hs]
    have hget : (getHandle : Prog Status Session Handle) s.settled = (.ok s.settled.host.h, s.settled) :=
      rfl
    unfold startSettled
    rw [bind_ok hget, if_neg hf, if_pos hs]
    exact hnone hsettled
  · rw [if_pos ⟨hv, hf, hs⟩, startSettled_new env hf hs]
    have hprepare : Keeps Session.settingsSent (onHost (prepareJob env)) := keeps_zoom (fun _ _ => rfl) _
    have hkept := (hprepare s.settled).trans hsettled
    rcases hrun : onHost (prepareJob env) s.settled with ⟨e | _, t⟩
    · rw [hrun] at hkept
      rw [bind_error hrun]
      exact hnone hkept
    · rw [hrun] at hkept
      rw [bind_ok hrun, ← hkept]
      dsimp only
      rw [List.filterMap_filterMap]
      exact startLoop_settings env 4 t

/-- Every settings block that `sane_start` sends is the one the device returned to the same call of
`setup_job`, changed in the words of the job alone, and it asks for the frame that the handle
promises. -/
theorem saneStart_settings (hs : Reachable env s) :
    (saneStart env s).2.settingsSent =
        s.settingsSent ++ (setupCalls env s).filterMap Session.editedBlock ∧
      ∀ u ∈ setupCalls env s, ∀ block, (readSettings u).1 = .ok block →
        Promised s.host.h.val (saneStart env s).2.host.h.params block
          (u.host.h.val.editSettings block) := by
  refine ⟨setupCalls_sent env s, fun u hu block hblock => ?_⟩
  obtain ⟨hv, hval, hparams⟩ := setupCalls_params hu
  have hres : s.host.h.val.resolution ∈ resolutionList := (hs.governed.dpi hv).value
  rw [hval, hparams]
  exact promised hres (readSettings_length hblock)

theorem saneStart_settings_newHandle :
    ((setupCalls plainEnv newHandle).filterMap Session.editedBlock).length = 1 ∧
      (saneStart plainEnv newHandle).2.settingsSent = newHandle.settingsSent ++
        (setupCalls plainEnv newHandle).filterMap Session.editedBlock ∧
      ∀ u ∈ setupCalls plainEnv newHandle, ∀ block, (readSettings u).1 = .ok block →
        Promised newHandle.host.h.val (saneStart plainEnv newHandle).2.host.h.params block
          (u.host.h.val.editSettings block) := by
  have hone : ((setupCalls plainEnv newHandle).filterMap Session.editedBlock).length = 1 := by
    decide +kernel
  exact ⟨hone, saneStart_settings (reachable_opened _ _ 12 8 [])⟩

end PantumOpen.Scan
