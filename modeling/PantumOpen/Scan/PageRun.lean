import PantumOpen.Scan.DeviceRun

/-! What each kind of frame does to the page, when it is read on a frame boundary and no transfer
cuts it unnoticed. -/

namespace PantumOpen.Scan
open Prog Bytes

/-- A frame that leaves the page alone; `adf` tells whether the job is one of the feeder. -/
def WireFrame.Silent (f : WireFrame) (adf : Bool) : Prop :=
  f.cmd ≠ evtData ∧ f.cmd ≠ evtAborted ∧ f.cmd ≠ evtJobEnd ∧ (f.cmd = evtPageEnd → adf = false)

inductive FrameDone (env : Env) (f : WireFrame) (fs : List WireFrame) (s s' : Session) : Prop
  | data (hcmd : f.cmd = evtData) (h : BlockTaken env f fs s s')
  | silent (hcmd : f.Silent s.host.h.val.sourceIsAdf) (hi : s'.inp.AtFrame fs)
      (hh : s'.host = s.host)
  | pageEnd (hcmd : f.cmd = evtPageEnd) (hadf : s.host.h.val.sourceIsAdf = true)
      (hi : s'.inp.AtFrame fs) (hf : PageFilled Handle.pageDone s (.ok .done) s')
  | jobEnd (hcmd : f.cmd = evtJobEnd) (hf : PageFilled Handle.jobDone s (.ok .done) s')

def HandlePost (env : Env) (f : WireFrame) (fs : List WireFrame) (s : Session) :
    Except Status Pumped → Session → Prop
  | .ok .done, s' => FrameDone env f fs s s'
  | .ok (.aborted _), _ => f.cmd = evtAborted
  | .ok .idle, _ => False
  | .error _, _ => True

def TakePost (env : Env) (fs : List WireFrame) (s : Session) :
    Except Status Pumped → Session → Prop
  | .ok .done, s' => ∃ f gs, fs = f :: gs ∧ FrameDone env f gs s s'
  | .ok (.aborted _), _ => ∃ f gs, fs = f :: gs ∧ f.cmd = evtAborted
  | .ok .idle, s' => s'.inp.AtFrame fs ∧ s'.host = s.host
  | .error _, _ => True

variable {f : WireFrame} {fs : List WireFrame}

theorem PageFilled.inp_left {g : Handle → Handle} {s s' : Session} {i : Inp}
    {r : Except Status Pumped} (h : PageFilled g { s with inp := i } r s') : PageFilled g s r s' :=
  ⟨h.filled⟩

theorem HandlePost.of_read {env : Env} {s : Session} {m : Prog Status Inp Unit}
    (hcmd : f.Silent s.host.h.val.sourceIsAdf)
    (h : wp m (fun r j => r = .ok () → j.AtFrame fs) s.inp) :
    wp (do onInp m; pure Pumped.done) (HandlePost env f fs s) s := by
  rw [wp_bind, onInp, wp_zoom]
  refine wp_mono h ?_
  intro r j hj
  cases r with
  | error _ => exact trivial
  | ok _ => exact .silent hcmd (hj rfl) rfl

theorem handleFrame_done (env : Env) (report : Bool) {s : Session} (hc : s.inp.Clean)
    (hi : s.inp.InFrame f fs) (hcut : f.cmd = evtPageEnd → s.inp.Delivers f.frame.plen) :
    wp (handleFrame env report f.frame) (HandlePost env f fs s) s := by
  unfold handleFrame
  rw [wp_ite]
  refine ⟨fun hcmd => ?_, fun hdata => ?_⟩
  · rw [wp_bind]
    apply wp_mono (handleDataBlock_inFrame env hc hi)
    intro r t ht
    cases r with
    | error _ => exact trivial
    | ok _ => exact .data hcmd (ht rfl)
  rw [wp_ite]
  refine ⟨fun hcmd => ?_, fun habort => ?_⟩
  · rw [wp_bind]
    apply wp_onInp_ignore
    intro j
    rw [after_ok]
    apply wp_mono (jobAborted_spec report f.frame.status { s with inp := j })
    intro r t ht
    have hr := ht.result
    obtain _ | (_ | _ | _) := r
    · exact trivial
    · exact absurd rfl ht.ne_idle
    · split at hr <;> obtain ⟨_, hr⟩ := hr <;> cases hr
    · exact hcmd
  rw [wp_ite]
  refine ⟨fun hcmd => ?_, fun hjob => ?_⟩
  · rw [wp_bind]
    apply wp_onInp_ignore
    intro j
    rw [after_ok]
    apply wp_mono (jobEnded_spec env { s with inp := j })
    rintro r t ⟨ht, _⟩
    -- The end of the job fills the page; only a failed reservation keeps it from being full.
    obtain rfl | ⟨_, rfl⟩ := ht.result
    · exact .jobEnd hcmd ht.inp_left
    · exact trivial
  rw [wp_ite]
  refine ⟨fun hcmd => ?_, fun hpage => ?_⟩
  · rw [wp_bind, onInp, wp_zoom, wp_ignore]
    apply wp_mono (wp_and (drainPayload_inFrame hc hi) (wp_outcome _ _))
    rintro r j ⟨⟨_, hok, _⟩, hj⟩
    have hj : j.AtFrame fs := hok ((congrArg Prod.fst hj).symm.trans (hcut hcmd))
    rw [after_ok]
    apply wp_mono (pageEnded_spec env (inpLens.set j s))
    rintro r t ⟨hti, _, hfill, hflat⟩
    have hti : t.inp.AtFrame fs := by
      rw [hti]
      exact hj
    -- On the flatbed the end of a page is no more than a notice.
    cases hadf : s.host.h.val.sourceIsAdf with
    | false =>
      obtain ⟨rfl, rfl⟩ := hflat hadf
      exact .silent ⟨hdata, habort, hjob, fun _ => hadf⟩ hj rfl
    | true =>
      have ht := hfill hadf
      obtain rfl | ⟨_, rfl⟩ := ht.result
      · exact .pageEnd hcmd hadf hti ht.inp_left
      · exact trivial
  have hsilent : f.Silent s.host.h.val.sourceIsAdf := ⟨hdata, habort, hjob, fun h => absurd h hpage⟩
  rw [wp_ite]
  exact ⟨fun _ => .of_read hsilent (logSettingsEcho_inFrame env hc hi), fun _ => .of_read hsilent
    (wp_mono (drainPayload_inFrame hc hi) fun _ _ h => h.2.1)⟩

theorem takeFrame_atFrame (env : Env) (probe report : Bool) {s : Session} (hc : s.inp.Clean)
    (hi : s.inp.AtFrame fs) (hcut : ¬ s.PageCut probe) :
    wp (takeFrame env probe report) (TakePost env fs s) s := by
  have hpump : wp (pumpFrame env probe report) (TakePost env fs s) s := by
    unfold pumpFrame
    rw [wp_bind, onInp, wp_zoom]
    apply wp_mono (wp_and (recvFrame_atFrame hc hi probe) (wp_outcome _ _))
    rintro r j ⟨hr, hj⟩
    obtain _ | (_ | g) := r
    · exact trivial
    · exact ⟨hr.stream.symm.trans hi, rfl⟩
    · obtain ⟨hs, f, gs, hfs, hg, hin⟩ := hr
      rw [after_ok, hg]
      -- The frame that was read is the one the condition is about.
      have hcut : f.cmd = evtPageEnd → j.Delivers f.frame.plen := by
        intro hcmd
        by_contra hd
        exact hcut ⟨g, j, hj, by rw [hg]; exact hcmd, by rw [hg]; exact hd⟩
      apply wp_mono (handleFrame_done env report (s := inpLens.set j s) (hc.suffix hs) hin hcut)
      intro q t ht
      obtain _ | (_ | _ | _) := q
      · exact trivial
      · exact ht.elim
      · refine ⟨f, gs, hfs, ?_⟩
        cases ht with
        | data hcmd h => exact .data hcmd ⟨h.planes, h.rows, h.body, h.emits, h.inp, h.outp⟩
        | silent hcmd hi hh => exact .silent hcmd hi hh
        | pageEnd hcmd hadf hi hf => exact .pageEnd hcmd hadf hi hf.inp_left
        | jobEnd hcmd hf => exact .jobEnd hcmd hf.inp_left
      · exact ⟨f, gs, hfs, ht⟩
  apply wp_takeFrame
  apply wp_mono hpump
  intro r t ht
  obtain _ | (_ | _ | _) := r
  · exact fun _ _ => trivial
  · exact ht
  · exact ht
  · exact ht

theorem not_pageCut (probe : Bool) {s : Session} (hc : s.inp.Clean) (hi : s.inp.AtFrame (f :: fs))
    (hf : f.cmd ≠ evtPageEnd) : ¬ s.PageCut probe := by
  rintro ⟨g, i, hrecv, hcmd, -⟩
  have hpost : RecvPost (f :: fs) s.inp (recv probe s.inp).1 (recv probe s.inp).2 :=
    recvFrame_atFrame hc hi probe
  rw [hrecv] at hpost
  obtain ⟨-, f', gs, hcons, hg, -⟩ := hpost
  rw [hg, ← (List.cons.inj hcons).1] at hcmd
  exact hf hcmd

structure JobFlags (h h' : Handle) : Prop where
  cancelled : h'.cancelled = h.cancelled
  val : h'.val = h.val
  scanning : h'.scanning = h.scanning
  eof : h'.eof = h.eof
  feeding : h'.feeding = h.feeding
  params : h'.params = h.params

def Handle.advance (n : Nat) (h : Handle) : Handle := { h with outPos := h.outPos + n }

theorem Handle.advance_pending (n : Nat) (h : Handle) : (h.advance n).pending = h.pending.drop n := by
  unfold pending advance
  rw [List.drop_drop]

theorem Handle.Queue.advance {n : Nat} {h : Handle} (hq : h.Queue) (hn : n ≤ h.pending.length) :
    (h.advance n).Queue := by
  rw [pending, List.length_drop] at hn
  unfold Queue at hq
  change h.outPos + n ≤ h.out.length
  omega

/-- A read hands out the front of the queue, and reports the end of the file only when the page has
ended and the queue is empty. -/
structure QueueReadPost (I : Session → Prop) (r : Except Status (List UInt8)) (t : Session) : Prop where
  data : ∀ bs, r = .ok bs → ∃ u n, I u ∧ n ≤ u.host.h.pending.length ∧ bs = u.host.h.pending.take n ∧
    t = u.onHandle (Handle.advance n)
  ended : r = .error .eof → I t ∧ t.host.h.eof = true ∧ t.host.h.pending = []

theorem QueueReadPost.of_error {I : Session → Prop} {e : Status} {t : Session} (he : e ≠ .eof) :
    QueueReadPost I (.error e) t :=
  ⟨fun _ h => (by cases h), fun h => absurd (Except.error.inj h) he⟩

theorem saneRead_of_fill {env : Env} {n : Int} {s : Session} {I : Session → Prop}
    (hqueue : ∀ t, I t → t.host.h.Queue)
    (hfill : s.host.valid = true → 0 < n → s.host.h.cancelled = false →
      wp (fillQueue env) (fun r t => (∃ b, r = .ok b) → I t ∧
        (r = .ok false → ¬ t.host.h.Starved)) s) :
    wp (saneRead env n) (QueueReadPost I) s := by
  unfold saneRead
  rw [wp_bind, wp_read, after_ok, wp_ite]
  refine ⟨fun _ => .of_error (by decide), fun hok => ?_⟩
  have hok : s.host.valid = true ∧ 0 < n := by simpa using hok
  rw [wp_bind, wp_getHandle, after_ok, wp_ite]
  refine ⟨fun _ => ?_, fun hc => ?_⟩
  · rw [wp_bind]
    apply wp_mono (endScan_spec s)
    rintro _ t ⟨rfl, -, -⟩
    exact .of_error (by decide)
  rw [wp_bind]
  refine wp_mono (wp_and (hfill hok.1 hok.2 (by simpa using hc)) (fails_fillQueue env s))
    fun r t ⟨hfill, hfault⟩ => ?_
  match r, hfill, hfault with
  | .error e, _, hfault => exact .of_error (hfault e rfl).2.1
  | .ok true, hfill, _ =>
    -- Nothing has arrived yet: a read that does not block comes back empty.
    refine ⟨fun bs h => ⟨t, 0, (hfill ⟨_, rfl⟩).1, Nat.zero_le _, ?_, rfl⟩, fun h => by cases h⟩
    rw [List.take_zero]
    exact (Except.ok.inj h).symm
  | .ok false, hfill, _ =>
    obtain ⟨ht, hstop⟩ := hfill ⟨_, rfl⟩
    have hq : t.host.h.outPos ≤ t.host.h.out.length := hqueue t ht
    rw [after_ok, if_neg (by decide), wp_bind, wp_getHandle, after_ok]
    dsimp only
    rw [wp_ite]
    refine ⟨fun havail => ⟨fun _ h => (by cases h), fun _ => ⟨ht, ?_, ?_⟩⟩, fun _ => ?_⟩
    · by_contra heof
      exact hstop rfl ⟨by omega, heof⟩
    · exact List.drop_eq_nil_of_le (Nat.sub_eq_zero_iff_le.mp havail)
    · rw [wp_bind, wp_setHandle, after_ok, wp_pure]
      refine ⟨fun bs h => ⟨t, _, ht, ?_, (Except.ok.inj h).symm, rfl⟩, fun h => by cases h⟩
      rw [Handle.pending, List.length_drop]
      exact Nat.min_le_left _ _

/-- The state in which the first attempt of `sane_start` waits for the rows of the page. -/
def Session.awaiting (env : Env) (s : Session) : Session :=
  if s.settled.host.h.feeding then s.settled.onHandle Handle.resumed
  else (beginJob (onHost (prepareJob env) s.settled).2).2

inductive Session.Awaits (env : Env) (s : Session) : Prop
  | resumed (hv : s.host.valid = true) (hf : s.settled.host.h.feeding = true)
      (hs : s.awaiting env = s.settled.onHandle Handle.resumed) : Awaits env s
  | begun (hv : s.host.valid = true) (hf : s.settled.host.h.feeding = false)
      (hscan : s.settled.host.h.scanning = false) (hva : (s.awaiting env).host.valid = true)
      (hh : (s.awaiting env).host.h = (s.settled.host.h.prepared env).accepted)
      (hsched : (s.awaiting env).sched <:+ s.settled.sched) : Awaits env s

theorem settled_of_not_cancelled {s : Session} (h : s.host.h.cancelled = false) : s.settled = s := by
  unfold Session.settled
  rw [h]
  rfl

/-- A job that is picked up has not been cancelled. -/
theorem settled_feeding {s : Session} (hf : s.settled.host.h.feeding = true) :
    s.host.h.cancelled = false := by
  by_contra hc
  rw [Bool.not_eq_false] at hc
  have h := endScan_spec s
  unfold wp at h
  unfold Session.settled at hf
  rw [if_pos hc, h.2.1] at hf
  cases hf

theorem settled_valid (s : Session) : s.settled.host.valid = s.host.valid := by
  unfold Session.settled
  split
  · have h := endScan_spec s
    unfold wp at h
    rw [h.2.1]
    rfl
  · rfl

theorem settled_spec (s : Session) : s.settled.host.h.val = s.host.h.val ∧
    (s.host.h.feeding = false → s.settled.host.h.feeding = false) ∧ s.settled.sched <:+ s.sched := by
  unfold Session.settled
  split
  · have h := wp_and (endScan_spec s) (consumes_endScan s)
    unfold wp at h
    obtain ⟨⟨-, hh, -⟩, hsched⟩ := h
    rw [hh]
    exact ⟨rfl, fun _ => rfl, hsched⟩
  · exact ⟨rfl, id, List.suffix_rfl⟩

def startSettled (env : Env) : Prog Status Session Unit := do
  let h ← getHandle
  if h.feeding then resumeJob env
  else if h.scanning then fail .deviceBusy
  else do
    onHost (prepareJob env)
    startJob env

theorem saneStart_settled (env : Env) {s : Session} (hv : s.host.valid = true) :
    saneStart env s = startSettled env s.settled := by
  have hend : (endScan s).1 = .ok () := by
    have h := endScan_spec s
    unfold wp at h
    exact h.1
  unfold saneStart
  rw [bind_ok (a := s) (by rfl), if_neg (by simp [hv]), bind_ok (a := s.host.h) (by rfl)]
  unfold Session.settled
  split
  · exact bind_ok (Prod.ext hend rfl)
  · rfl

theorem saneStart_invalid (env : Env) {s : Session} (hv : ¬ s.host.valid = true) :
    saneStart env s = (.error .inval, s) := by
  unfold saneStart
  rw [bind_ok (a := s) (by rfl), if_pos (by simp [hv])]
  rfl

theorem saneStart_awaiting (env : Env) (s : Session) {Q : Session → Prop}
    (h : s.Awaits env → wp (awaitFirstRows env) (fun r t => (r = .ok none → Q t) ∧
      ∀ st, r ≠ .ok (some st)) (s.awaiting env)) :
    wp (saneStart env) (fun r t => r = .ok () → Q t) s := by
  by_cases hv : s.host.valid = true
  swap
  · unfold wp
    rw [saneStart_invalid env hv]
    exact fun hr => by cases hr
  unfold wp
  rw [saneStart_settled env hv]
  change wp (startSettled env) (fun r t => r = .ok () → Q t) s.settled
  unfold startSettled
  rw [wp_bind, wp_getHandle, after_ok, wp_ite]
  -- A job with sheets left is picked up where it stands; every other start begins a job.
  refine ⟨fun hf => ?_, fun hf => ?_⟩
  · have hs : s.awaiting env = s.settled.onHandle Handle.resumed := if_pos hf
    have hwait := h (.resumed hv hf hs)
    rw [hs] at hwait
    unfold resumeJob
    rw [wp_bind, wp_setHandle, after_ok, wp_bind]
    apply wp_mono hwait
    rintro r t ⟨ht, hno⟩
    obtain _ | (_ | st) := r
    · exact fun hr => by cases hr
    · rw [after_ok]
      dsimp only
      rw [wp_bind, wp_getHandle, after_ok, wp_ite]
      exact ⟨fun _ hr => (by cases hr), fun _ _ => ht rfl⟩
    · exact absurd rfl (hno st)
  rw [wp_ite]
  refine ⟨fun _ hr => (by cases hr), fun hscan => ?_⟩
  have hf : s.settled.host.h.feeding = false := by simpa using hf
  have hscan : s.settled.host.h.scanning = false := by simpa using hscan
  have hs : s.awaiting env = (beginJob (onHost (prepareJob env) s.settled).2).2 :=
    if_neg (by rw [hf]; decide)
  rw [wp_bind]
  have hprep : wp (onHost (prepareJob env)) (fun r t => r = .ok () →
      t.host.valid = s.host.valid ∧ t.host.h = s.settled.host.h.prepared env ∧
      t.sched = s.settled.sched) s.settled := by
    rw [onHost, wp_zoom]
    apply wp_mono (prepareJob_spec env s.settled.host)
    rintro _ u ⟨hvu, ⟨rfl, hh⟩ | ⟨rfl, hh⟩⟩ hr
    · exact ⟨hvu.trans (settled_valid s), hh, rfl⟩
    · cases hr
  apply wp_mono (wp_and hprep (wp_outcome _ _))
  rintro r t ⟨ht, hout⟩
  cases r with
  | error _ => exact fun hr => by cases hr
  | ok _ =>
    obtain ⟨htv, hth, hts⟩ := ht rfl
    rw [hout] at hs
    rw [after_ok]
    unfold startJob
    rw [loop, wp_bind, startRound, runJob, wp_bind, wp_bind]
    apply wp_mono (wp_and (wp_and (beginJob_spec t) (consumes_beginJob t)) (wp_outcome _ _))
    rintro r u ⟨⟨hpost, hsched⟩, hout⟩
    cases r with
    | error _ => exact fun hr => by cases hr
    | ok _ =>
      obtain ⟨hh, -⟩ := hpost
      rw [hout] at hs
      have hua : u.host.h = (s.settled.host.h.prepared env).accepted := by
        rw [hh, ← hth]
        rfl
      have hva : u.host.valid = true := by
        rw [hh]
        exact htv.trans hv
      have hwait := h (.begun hv hf hscan (by rw [hs]; exact hva) (by rw [hs]; exact hua)
        (by rw [hs, ← hts]; exact hsched))
      rw [hs] at hwait
      rw [after_ok]
      apply wp_mono hwait
      rintro r v ⟨hv, hno⟩
      obtain _ | (_ | st) := r
      · exact fun hr => by cases hr
      · exact fun _ => hv rfl
      · exact absurd rfl (hno st)

end PantumOpen.Scan
