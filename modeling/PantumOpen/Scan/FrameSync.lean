import PantumOpen.Scan.LockDiscipline
import PantumOpen.Scan.Wire

/-! Frame synchronisation: after a frame has been read the IN endpoint stands on the next one, with
one exception, and a whole session keeps a running job on a frame boundary as long as its steps
avoid the exceptions. -/

namespace PantumOpen.Scan
open Prog Bytes

/-- The transfers to come hand out `n` more bytes before one of them gives up. -/
def Inp.Delivers (i : Inp) (n : Nat) : Prop := (drainPayload n i).1 = .ok ()

def recv (probe : Bool) : Prog Status Inp (Option Frame) :=
  if probe then recvFrameProbe else some <$> recvFrame

/-- The next frame ends a page, its header arrives and a transfer fails within its payload. -/
def Session.PageCut (s : Session) (probe : Bool) : Prop :=
  ∃ g i, recv probe s.inp = (.ok (some g), i) ∧ g.cmd = evtPageEnd ∧ ¬ i.Delivers g.plen

instance (i : Inp) (n : Nat) : Decidable (i.Delivers n) :=
  match h : (drainPayload n i).1 with
  | .ok () => .isTrue h
  | .error _ => .isFalse fun h' => by cases h.symm.trans h'

instance (s : Session) (probe : Bool) : Decidable (s.PageCut probe) :=
  match h : recv probe s.inp with
  | (.ok (some g), i) =>
    decidable_of_iff (g.cmd = evtPageEnd ∧ ¬ i.Delivers g.plen)
      ⟨fun hc => ⟨g, i, h, hc⟩, fun ⟨_, _, h', hc⟩ => by cases h.symm.trans h'; exact hc⟩
  | (.ok none, _) => .isFalse fun ⟨_, _, h', _⟩ => by cases h.symm.trans h'
  | (.error _, _) => .isFalse fun ⟨_, _, h', _⟩ => by cases h.symm.trans h'

/-- What `pump_frame` promises about the stream, in a state in which the frames `fs` are next. -/
structure PumpSynced (fs : List WireFrame) (s : Session) (r : Except Status Pumped)
    (s' : Session) : Prop where
  idle : r = .ok .idle → s'.inp.inStream = s.inp.inStream
  frame : (∃ p, r = .ok p ∧ p ≠ .idle) → s'.host.h.scanning = true →
    ∃ f gs, fs = f :: gs ∧ s'.inp.AtFrame gs

theorem Aborted.ne_idle {report : Bool} {s s' : Session} {r : Except Status Pumped}
    (h : Aborted report s r s') : r ≠ .ok .idle := by
  rintro rfl
  have hr := h.result
  split at hr
  · obtain ⟨_, hr⟩ := hr
    cases hr
  · obtain ⟨_, hr⟩ := hr
    cases hr

theorem PageFilled.ne_idle {f : Handle → Handle} {s s' : Session} {r : Except Status Pumped}
    (h : PageFilled f s r s') : r ≠ .ok .idle := by
  rintro rfl
  obtain hr | ⟨_, hr⟩ := h.result <;> cases hr

def HandledPost (f : WireFrame) (gs : List WireFrame) (s : Session) (r : Except Status Pumped)
    (s' : Session) : Prop :=
  ∀ p, r = .ok p → p ≠ .idle ∧ (s'.host.h.scanning = true → s'.inp.AtFrame gs ∨
    (f.cmd = evtPageEnd ∧ ¬ s.inp.Delivers f.frame.plen))

theorem HandledPost.of_error {f : WireFrame} {gs : List WireFrame} {s s' : Session} {e : Status} :
    HandledPost f gs s (.error e) s' := fun _ h => by cases h

theorem HandledPost.of_done {f : WireFrame} {gs : List WireFrame} {s s' : Session}
    (h : s'.inp.AtFrame gs) : HandledPost f gs s (.ok .done) s' :=
  fun _ hp => by
    cases hp
    exact ⟨nofun, fun _ => .inl h⟩

theorem HandledPost.of_over {f : WireFrame} {gs : List WireFrame} {s s' : Session}
    {r : Except Status Pumped} (hr : r ≠ .ok .idle) (h : s'.host.h.scanning = false) :
    HandledPost f gs s r s' :=
  fun p hp => ⟨fun h => hr (hp.trans (congrArg _ h)), fun hs => by rw [h] at hs; cases hs⟩

theorem HandledPost.of_read {f : WireFrame} {gs : List WireFrame} {s : Session}
    {m : Prog Status Inp Unit} (h : wp m (fun r j => r = .ok () → j.AtFrame gs) s.inp) :
    wp (do onInp m; pure Pumped.done) (HandledPost f gs s) s := by
  rw [wp_bind, onInp, wp_zoom]
  apply wp_mono h
  intro r j hj
  cases r with
  | error _ => exact .of_error
  | ok _ => exact .of_done (hj rfl)

theorem logSettingsEcho_inFrame (env : Env) {f : WireFrame} {gs : List WireFrame} {i : Inp}
    (hc : i.Clean) (hi : i.InFrame f gs) :
    wp (logSettingsEcho env f.frame.plen) (fun r j => r = .ok () → j.AtFrame gs) i := by
  unfold logSettingsEcho
  rw [wp_ite]
  refine ⟨fun _ => wp_mono (drainPayload_inFrame hc hi) fun _ _ h => h.2.1, fun hlen => ?_⟩
  have hlen : f.frame.plen = pantumSettingsLen := not_not.mp (not_or.mp hlen).1
  rw [wp_bind]
  refine wp_mono (usbRead_spec _ hc) fun r j hr => ?_
  match r, hr with
  | .error _, _ => exact fun h => by cases h
  | .ok bs, ⟨hm, hl, _⟩ => exact fun _ => (hm.payload hi (hl.trans (hlen.symm.trans f.plen_eq))).2

theorem handleFrame_inFrame (env : Env) (report : Bool) {f : WireFrame} {gs : List WireFrame}
    {s : Session} (hc : s.inp.Clean) (hi : s.inp.InFrame f gs) :
    wp (handleFrame env report f.frame) (HandledPost f gs s) s := by
  unfold handleFrame
  rw [wp_ite]
  refine ⟨fun _ => ?_, fun _ => ?_⟩
  · rw [wp_bind]
    apply wp_mono (handleDataBlock_inFrame env hc hi)
    intro r t ht
    cases r with
    | error _ => exact .of_error
    | ok _ => exact .of_done (ht rfl).inp
  rw [wp_ite]
  refine ⟨fun _ => ?_, fun _ => ?_⟩
  · rw [wp_bind]
    apply wp_onInp_ignore
    intro j
    rw [after_ok]
    apply wp_mono (jobAborted_spec report f.frame.status { s with inp := j })
    intro r t ht
    exact .of_over ht.ne_idle (by rw [ht.host]; rfl)
  rw [wp_ite]
  refine ⟨fun _ => ?_, fun _ => ?_⟩
  · rw [wp_bind]
    apply wp_onInp_ignore
    intro j
    rw [after_ok]
    apply wp_mono (jobEnded_spec env { s with inp := j })
    rintro r t ⟨ht, _⟩
    obtain ⟨_, _, _, hh, _⟩ := ht.filled
    exact .of_over ht.ne_idle (by rw [hh]; rfl)
  rw [wp_ite]
  refine ⟨fun hcmd => ?_, fun _ => ?_⟩
  · rw [wp_bind, onInp, wp_zoom, wp_ignore]
    apply wp_mono (wp_and (drainPayload_inFrame hc hi) (wp_outcome _ _))
    rintro r j ⟨hr, hj⟩
    obtain ⟨-, hsync, -⟩ := hr
    rw [after_ok]
    apply wp_mono (pageEnded_spec env (inpLens.set j s))
    rintro q t ⟨hti, _, hfill, hflat⟩ p hp
    refine ⟨?_, fun _ => ?_⟩
    · rintro rfl
      cases hadf : s.host.h.val.sourceIsAdf with
      | true => exact (hfill hadf).ne_idle hp
      | false =>
        rw [(hflat hadf).1] at hp
        cases hp
    -- `pump_frame` does not look at the result of the drain, so the frame may be left half read.
    · rw [hti]
      by_cases hr : r = .ok ()
      · exact .inl (hsync hr)
      · exact .inr ⟨hcmd, fun hd => hr ((congrArg Prod.fst hj).symm.trans hd)⟩
  rw [wp_ite]
  exact ⟨fun _ => .of_read (logSettingsEcho_inFrame env hc hi), fun _ => .of_read
    (wp_mono (drainPayload_inFrame hc hi) fun _ _ h => h.2.1)⟩

theorem pumpFrame_atFrame (env : Env) (probe report : Bool) {fs : List WireFrame} {s : Session}
    (hc : s.inp.Clean) (hi : s.inp.AtFrame fs) :
    wp (pumpFrame env probe report) (fun r s' =>
      (r = .ok .idle → s'.inp.inStream = s.inp.inStream ∧ s'.host = s.host) ∧
      ((∃ p, r = .ok p ∧ p ≠ .idle) → s'.host.h.scanning = true → s.PageCut probe ∨
        ∃ f gs, fs = f :: gs ∧ s'.inp.AtFrame gs)) s := by
  unfold pumpFrame
  rw [wp_bind, onInp, wp_zoom]
  apply wp_mono (wp_and (recvFrame_atFrame hc hi probe) (wp_outcome _ _))
  rintro r j ⟨hr, hj⟩
  rcases r with e | _ | g
  · refine ⟨fun h => (by cases h), ?_⟩
    rintro ⟨_, h, _⟩
    cases h
  · refine ⟨fun _ => ⟨hr.stream.symm, rfl⟩, ?_⟩
    rintro ⟨_, h, hp⟩
    exact absurd (Except.ok.inj h).symm hp
  · obtain ⟨hs, f, gs, hfs, hg, hin⟩ := hr
    rw [after_ok, hg]
    have hclean : j.Clean := fun x hx => hc x (hs.mem hx)
    apply wp_mono (handleFrame_inFrame env report (s := inpLens.set j s) hclean hin)
    intro q t ht
    refine ⟨fun hq => absurd rfl (ht _ hq).1, ?_⟩
    rintro ⟨p, hp, _⟩ hscan
    obtain h | ⟨hcmd, hcut⟩ := (ht p hp).2 hscan
    · exact .inr ⟨f, gs, hfs, h⟩
    · exact .inl ⟨f.frame, j, by rw [← hg]; exact hj, hcmd, hcut⟩

def Session.CanFill (env : Env) (s : Session) : Prop :=
  s.host.h.val.sourceIsAdf = true → (emitWhiteRows env s.host.h.params.lines s.host).1 = .ok ()

/-- The page end whose payload a transfer cuts: `pump_frame` reports success all the same. -/
theorem pumpFrame_pageCut (env : Env) (probe report : Bool) {s : Session} {g : Frame} {i : Inp}
    (hrecv : recv probe s.inp = (.ok (some g), i)) (hcmd : g.cmd = evtPageEnd) :
    wp (pumpFrame env probe report) (fun r s' => s'.inp = (drainPayload g.plen i).2 ∧
      (s.CanFill env → r = .ok .done ∧ s'.host.h.scanning = s.host.h.scanning) ∧
      (¬ s.CanFill env → ∃ e, r = .error e)) s := by
  unfold pumpFrame
  rw [wp_bind, onInp, wp_zoom]
  change After _ _ (recv probe s.inp).1 (inpLens.set (recv probe s.inp).2 s)
  rw [hrecv, after_ok]
  dsimp only
  unfold handleFrame
  rw [if_neg (by rw [hcmd]; decide), if_neg (by rw [hcmd]; decide), if_neg (by rw [hcmd]; decide),
    if_pos hcmd, wp_bind, onInp, wp_zoom, wp_ignore]
  apply wp_mono (wp_outcome _ _)
  intro r j hj
  rw [after_ok]
  have hj : j = (drainPayload g.plen i).2 := (congrArg Prod.snd hj).symm
  unfold pageEnded
  rw [wp_bind, wp_getHandle, after_ok, wp_ite]
  refine ⟨fun hadf => ?_, fun hadf => ⟨hj, fun _ => ⟨rfl, rfl⟩, fun h =>
    absurd (fun hf => absurd hf hadf) h⟩⟩
  rw [wp_bind, wp_attempt]
  apply wp_mono (wp_and (fillPage_spec env _) (wp_outcome _ _))
  rintro r t ⟨⟨hi, _, hu⟩, hr⟩
  have hr : r = (emitWhiteRows env s.host.h.params.lines s.host).1 := (congrArg Prod.fst hr).symm
  rw [after_ok, wp_bind, wp_setHandle, after_ok]
  cases r with
  | ok _ =>
    exact ⟨hi.trans hj, fun _ => ⟨rfl, hu.1.control.scanning⟩, fun h => absurd (fun _ => hr.symm) h⟩
  | error e =>
    refine ⟨hi.trans hj, fun h => ?_, fun _ => ⟨e, rfl⟩⟩
    have hok := h hadf
    rw [← hr] at hok
    cases hok

theorem FrameEffect.scanning_of {report : Bool} {s s' : Session} {r : Except Status Pumped}
    (h : FrameEffect report s r s') (hs : s'.host.h.scanning = true) :
    s.host.h.scanning = true := by
  cases h with
  | kept hq _ => exact hq.control.scanning.symm.trans hs
  | aborted hh _ _ =>
    rw [hh] at hs
    cases hs
  | jobEnd _ hh _ _ =>
    rw [hh] at hs
    cases hs
  | pageEnd hq _ hh _ _ =>
    rw [hh] at hs
    exact hq.control.scanning.symm.trans hs

/-- `pump_frame` keeps its promise exactly when it does not meet a cut page end in a running job. -/
theorem pumpSynced_iff (env : Env) (probe report : Bool) {fs : List WireFrame} {s : Session}
    (hc : s.inp.Clean) (hi : s.inp.AtFrame fs) :
    PumpSynced fs s (pumpFrame env probe report s).1 (pumpFrame env probe report s).2 ↔
      ¬ (s.host.h.scanning = true ∧ s.PageCut probe ∧ s.CanFill env) := by
  constructor
  -- What the drain left unread would have to be empty.
  · rintro hsync ⟨hscan, ⟨g, i, hrecv, hcmd, hd⟩, hfill⟩
    have hpump := pumpFrame_pageCut env probe report hrecv hcmd
    unfold wp at hpump
    obtain ⟨hinp, hok, -⟩ := hpump
    obtain ⟨hr, hs⟩ := hok hfill
    obtain ⟨f, gs, rfl, hf⟩ := hsync.frame ⟨.done, hr, nofun⟩ (hs.trans hscan)
    have hpost := recvFrame_atFrame hc hi probe
    change RecvPost _ _ (recv probe s.inp).1 (recv probe s.inp).2 at hpost
    rw [hrecv] at hpost
    obtain ⟨hsuf, f', gs', hcons, rfl, hin⟩ := hpost
    obtain ⟨rfl, rfl⟩ := List.cons.inj hcons
    have hclean : i.Clean := fun x hx => hc x (hsuf.mem hx)
    have hdrain := drainPayload_inFrame hclean hin
    unfold wp at hdrain
    obtain ⟨-, -, hrest⟩ := hdrain
    obtain ⟨rest, hne, -, hstream⟩ := hrest hd
    unfold Inp.AtFrame at hf
    rw [hinp, hstream] at hf
    exact hne (List.append_left_eq_self.mp hf)
  · intro hno
    have hpump := pumpFrame_atFrame env probe report hc hi
    have heffect := pumpFrame_effect env probe report s
    unfold wp at hpump heffect
    refine ⟨fun h => (hpump.1 h).1, fun hok hs => (hpump.2 hok hs).resolve_left fun hcut => ?_⟩
    obtain ⟨g, i, hrecv, hcmd, hd⟩ := hcut
    refine hno ⟨heffect.scanning_of hs, ⟨g, i, hrecv, hcmd, hd⟩, ?_⟩
    by_contra hfill
    have hcutpump := pumpFrame_pageCut env probe report hrecv hcmd
    unfold wp at hcutpump
    obtain ⟨e, he⟩ := hcutpump.2.2 hfill
    obtain ⟨p, hp, -⟩ := hok
    rw [he] at hp
    cases hp

/-- The stream stands on a boundary of the frames `fs`. -/
def Inp.Aligned (fs : List WireFrame) (i : Inp) : Prop := ∃ gs, gs <:+ fs ∧ i.AtFrame gs

structure Session.Ready (fs : List WireFrame) (s : Session) : Prop where
  clean : s.inp.Clean
  aligned : s.inp.Aligned fs

theorem Inp.Clean.suffix {i j : Inp} (h : i.Clean) (hs : j.inSched <:+ i.inSched) : j.Clean :=
  fun x hx => h x (hs.mem hx)

theorem wp_onOutp {α : Type} {m : Prog Status Outp α} {Q : Except Status α → Session → Prop}
    {s : Session} (h : ∀ r o, Q r { s with outp := o }) : wp (onOutp m) Q s := h _ _

theorem skipToAck_aligned (cmd n : Nat) {fs : List WireFrame} {i : Inp} (hc : i.Clean)
    (hi : i.Aligned fs) :
    wp (skipToAck cmd n) (fun r j => j.inSched <:+ i.inSched ∧ ∀ g, r = .ok g →
      ∃ f gs, f :: gs <:+ fs ∧ g = f.frame ∧ j.InFrame f gs) i := by
  refine wp_loop (fun _ j => j.inSched <:+ i.inSched ∧ j.Aligned fs) ?_
    (fun _ j hj => ?_) n ⟨List.suffix_rfl, hi⟩
  swap
  · rw [wp_fail]
    exact ⟨hj.1, fun _ h => by cases h⟩
  rintro _ j ⟨hs, gs, hgs, hj⟩
  rw [wp_bind]
  refine wp_mono (recvFrame_blocking (hc.suffix hs) hj) fun r k ⟨hk, hr⟩ => ?_
  match r, hr with
  | .error _, _ => exact ⟨hk.trans hs, fun _ h => by cases h⟩
  | .ok g, hr =>
    obtain ⟨f, gs', rfl, rfl, hin⟩ := hr g rfl
    rw [after_ok, wp_ite]
    refine ⟨fun _ => ⟨hk.trans hs, fun g hg => ?_⟩, fun _ => ?_⟩
    · exact ⟨f, gs', hgs, (Except.ok.inj hg).symm, hin⟩
    · rw [wp_bind]
      refine wp_mono (drainPayload_inFrame (hc.suffix (hk.trans hs)) hin) fun r l ⟨hl, hok, _⟩ => ?_
      match r, hok with
      | .error _, _ => exact ⟨hl.trans (hk.trans hs), fun _ h => by cases h⟩
      | .ok _, hok =>
        exact ⟨hl.trans (hk.trans hs), gs', (List.suffix_cons f gs').trans hgs, hok rfl⟩

theorem ackPayload_inFrame {f : WireFrame} {gs : List WireFrame} {i : Inp} (hc : i.Clean)
    (hi : i.InFrame f gs) (reply : Option Nat) :
    wp (ackPayload f.frame reply) (fun r j => (∃ bs, r = .ok bs) → j.AtFrame gs) i := by
  unfold ackPayload
  match reply with
  | none =>
    dsimp only
    rw [wp_bind]
    refine wp_mono (drainPayload_inFrame hc hi) fun r j ⟨_, hok, _⟩ => ?_
    match r, hok with
    | .error _, _ => exact fun ⟨_, h⟩ => by cases h
    | .ok _, hok => exact fun _ => hok rfl
  | some len =>
    dsimp only
    rw [wp_ite]
    refine ⟨fun _ ⟨_, h⟩ => (by cases h), fun _ => ?_⟩
    rw [wp_ite]
    refine ⟨fun _ => ?_, fun hlen => ?_⟩
    · rw [wp_bind, wp_ignore]
      exact wp_mono (wp_outcome _ _) fun _ _ _ ⟨_, h⟩ => by cases h
    · apply wp_mono (usbRead_spec _ hc)
      intro r j hr
      match r, hr with
      | .error _, _ => exact fun ⟨_, h⟩ => by cases h
      | .ok bs, ⟨hm, hl, _⟩ =>
        exact fun _ => (hm.payload hi (hl.trans ((not_not.mp hlen).symm.trans f.plen_eq))).2

theorem commandAck_ready (cmd : Nat) (payload : List UInt8) (reply : Option Nat)
    {fs : List WireFrame} {s : Session} (hs : s.Ready fs) :
    wp (commandAck cmd payload reply) (fun r t => (∃ a, r = .ok a) → t.Ready fs) s := by
  unfold commandAck
  rw [wp_bind]
  apply wp_onOutp
  intro r o
  cases r with
  | error _ =>
    rintro ⟨_, h⟩
    cases h
  | ok _ =>
    rw [after_ok, wp_bind, onInp, wp_zoom]
    apply wp_mono (skipToAck_aligned cmd _ hs.clean hs.aligned)
    rintro r i ⟨hi, hr⟩
    cases r with
    | error _ =>
      rintro ⟨_, h⟩
      cases h
    | ok g =>
      obtain ⟨f, gs, hgs, rfl, hin⟩ := hr g rfl
      rw [after_ok, wp_bind, onInp, wp_zoom]
      apply wp_mono (wp_and (ackPayload_inFrame (hs.clean.suffix hi) hin reply)
        (consumes_ackPayload f.frame reply i))
      rintro r j ⟨hj, hsched⟩
      cases r with
      | error _ =>
        rintro ⟨_, h⟩
        cases h
      | ok _ => exact fun _ => ⟨hs.clean.suffix (hsched.trans hi), gs,
          (List.suffix_cons f gs).trans hgs, hj ⟨_, rfl⟩⟩

theorem command_ready (cmd : Nat) (payload : List UInt8) (reply : Option Nat)
    {fs : List WireFrame} {s : Session} (hs : s.Ready fs) :
    wp (command cmd payload reply) (fun r t => (∃ a, r = .ok a) → t.Ready fs) s := by
  unfold command
  rw [wp_bind]
  apply wp_mono (commandAck_ready cmd payload reply hs)
  intro r t ht
  match r, ht with
  | .error _, _ => exact fun ⟨_, h⟩ => by cases h
  | .ok _, ht =>
    rw [after_ok, wp_bind]
    exact wp_ofStatus _ (fun _ _ => ht ⟨_, rfl⟩) fun _ ⟨_, h⟩ => by cases h

theorem giveUp_not_ok {P : Prop} (st : Status) (s : Session) :
    wp (giveUp st) (fun r _ => r = .ok () → P) s :=
  wp_mono (giveUp_spec st s) fun _ _ ⟨hr, _⟩ h => by rw [hr] at h; cases h

theorem lockDevice_ready {fs : List WireFrame} {s : Session} (hs : s.Ready fs) :
    wp lockDevice (fun r t => r = .ok () → t.Ready fs) s := by
  refine wp_loop (fun _ t => t.Ready fs) ?_ (fun _ t _ => ?_) 5 hs
  swap
  · apply wp_mono (giveUp_spec .deviceBusy t)
    rintro _ _ ⟨rfl, -⟩ h
    cases h
  intro _ t ht
  have hround (e : Status) (u : Session) : wp (giveUp e : Prog Status Session (Unit ⊕ Unit))
      (Round (fun _ t => t.Ready fs) fun r t => r = .ok () → t.Ready fs) u := by
    apply wp_mono (giveUp_spec e u)
    rintro _ _ ⟨rfl, -⟩ h
    cases h
  rw [wp_bind, wp_setHandle, after_ok, wp_bind, wp_attempt]
  have ht' : (t.onHandle fun h => { h with locked := true }).Ready fs := ⟨ht.clean, ht.aligned⟩
  apply wp_mono (commandAck_ready cmdLock [] none ht')
  intro r u hu
  rw [after_ok]
  match r, hu with
  | .error e, _ => exact hround e u
  | .ok (f, _), hu =>
    have hu := hu ⟨_, rfl⟩
    dsimp only
    rw [wp_ite]
    refine ⟨fun _ _ => hu, fun _ => ?_⟩
    rw [wp_ite]
    exact ⟨fun _ => hround _ u, fun _ => hu⟩

/-- In a feeder job, a transfer fails within the payload of the reply to the feeder query. -/
def Session.AdfCut (s : Session) : Prop :=
  s.host.h.val.sourceIsAdf = true ∧ ∃ t g i, lockDevice (s.onHandle Handle.emptyPage) = (.ok (), t) ∧
    recvFrame t.inp = (.ok g, i) ∧ ¬ i.Delivers g.plen

theorem requireFeeder_ready {fs : List WireFrame} {s : Session} (hs : s.Ready fs)
    (hcut : ∀ g i, recvFrame s.inp = (.ok g, i) → i.Delivers g.plen) :
    wp requireFeeder (fun r t => r = .ok () → t.Ready fs) s := by
  unfold requireFeeder checkAdf
  rw [wp_bind, wp_attempt, wp_bind]
  apply wp_onOutp
  intro r o
  cases r with
  | error e => exact giveUp_not_ok e _
  | ok _ =>
    obtain ⟨gs, hgs, hi⟩ := hs.aligned
    rw [after_ok, wp_bind, onInp, wp_zoom]
    apply wp_mono (wp_and (recvFrame_blocking hs.clean hi) (wp_outcome _ _))
    rintro r i ⟨⟨hsuf, hr⟩, hrecv⟩
    cases r with
    | error e => exact giveUp_not_ok e _
    | ok g =>
      obtain ⟨f, gs', rfl, rfl, hin⟩ := hr g rfl
      have hd := hcut _ _ hrecv
      rw [after_ok, wp_bind, onInp, wp_zoom, wp_ignore]
      apply wp_mono (wp_and (drainPayload_inFrame (hs.clean.suffix hsuf) hin) (wp_outcome _ _))
      rintro r j ⟨⟨hj, hok, _⟩, hdrain⟩
      have hr : r = .ok () := (congrArg Prod.fst hdrain).symm.trans hd
      have hready : Session.Ready fs (inpLens.set j (inpLens.set i { s with outp := o })) :=
        ⟨hs.clean.suffix (hj.trans hsuf), gs', (List.suffix_cons f gs').trans hgs, hok hr⟩
      rw [after_ok, wp_ite]
      refine ⟨fun _ => giveUp_not_ok _ _, fun _ => ?_⟩
      rw [wp_pure, after_ok]
      dsimp only
      rw [wp_ite]
      exact ⟨fun _ => giveUp_not_ok _ _, fun _ _ => hready⟩

theorem submitJob_ready {fs : List WireFrame} {s : Session} (hs : s.Ready fs) :
    wp submitJob (fun r t => r = .ok () → t.Ready fs) s := by
  have hsetup : wp setupJob (fun r t => r = .ok () → t.Ready fs) s := by
    unfold setupJob
    rw [wp_bind]
    apply wp_mono (command_ready cmdSetDefaults _ _ hs)
    intro r t ht
    match r, ht with
    | .error _, _ => exact fun h => by cases h
    | .ok _, ht =>
      rw [after_ok, wp_bind]
      apply wp_mono (command_ready cmdGetSettings _ _ (ht ⟨_, rfl⟩))
      intro r u hu
      match r, hu with
      | .error _, _ => exact fun h => by cases h
      | .ok settings, hu =>
        rw [after_ok, wp_bind, wp_getHandle, after_ok, wp_bind]
        apply wp_mono (command_ready cmdSetSettings _ _ (hu ⟨_, rfl⟩))
        intro r v hv
        match r, hv with
        | .error _, _ => exact fun h => by cases h
        | .ok _, hv =>
          rw [after_ok, wp_bind]
          apply wp_mono (command_ready cmdStart _ _ (hv ⟨_, rfl⟩))
          intro r w hw
          match r, hw with
          | .error _, _ => exact fun h => by cases h
          | .ok _, hw => exact fun _ => hw ⟨_, rfl⟩
  unfold submitJob
  rw [wp_bind, wp_attempt]
  apply wp_mono hsetup
  intro r t ht
  rw [after_ok]
  match r, ht with
  | .error e, _ => exact giveUp_not_ok e _
  | .ok _, ht => exact fun _ => ⟨(ht rfl).clean, (ht rfl).aligned⟩

theorem beginJob_ready {fs : List WireFrame} {s : Session} (hs : s.Ready fs) (hcut : ¬ s.AdfCut) :
    wp beginJob (fun r t => r = .ok () → t.Ready fs) s := by
  unfold beginJob
  rw [wp_bind, wp_setHandle, after_ok, wp_bind]
  have hs' : (s.onHandle Handle.emptyPage).Ready fs := ⟨hs.clean, hs.aligned⟩
  refine wp_mono (wp_and (wp_and (lockDevice_ready hs') (lockDevice_spec _)) (wp_outcome _ _))
    fun r t ⟨⟨ht, hpost⟩, hlock⟩ => ?_
  match r, ht, hpost, hlock with
  | .error _, _, _, _ => exact fun h => by cases h
  | .ok _, ht, ⟨hh, _⟩, hlock =>
    rw [after_ok, wp_bind, wp_getHandle, after_ok, wp_ite]
    refine ⟨fun hadf => ?_, fun _ => submitJob_ready (ht rfl)⟩
    have hadf' : s.host.h.val.sourceIsAdf = true := by
      rw [hh] at hadf
      exact hadf
    rw [wp_bind]
    refine wp_mono (requireFeeder_ready (ht rfl) fun g i hr => ?_) fun r u hu => ?_
    · by_contra hd
      exact hcut ⟨hadf', t, g, i, hlock, hr, hd⟩
    · match r, hu with
      | .error _, _ => exact fun h => by cases h
      | .ok _, hu => exact submitJob_ready (hu rfl)

end PantumOpen.Scan
