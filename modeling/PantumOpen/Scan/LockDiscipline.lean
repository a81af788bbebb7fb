import PantumOpen.Scan.PageCount

/-! The lock: whenever no call is running, the handle says what the device was asked last, and a
job that is over has given its lock back. -/

namespace PantumOpen.Scan
open Prog Bytes

structure Handle.Steady (h : Handle) : Prop where
  locked : h.scanning = h.locked
  feeding : h.feeding = true → h.scanning = true
  eof : h.eof = true → h.scanning = true → h.feeding = true
  queue : h.Queue

structure Parameters.Positive (p : Parameters) : Prop where
  lines : 0 < p.lines
  bytesPerLine : 0 < p.bytesPerLine

structure Session.Disciplined (s : Session) : Prop where
  steady : s.host.h.Steady
  sent : s.LockSent
  closed : s.host.valid = false → s.host.h.scanning = false
  params : s.host.valid = true → s.host.h.params.Positive

theorem OptionValues.computeParameters_positive (v : OptionValues) :
    v.computeParameters.Positive := ⟨v.lines_pos, v.bytesPerLine_pos⟩

theorem Handle.Steady.of_idle {h : Handle} (hs : h.scanning = false) (hl : h.locked = false)
    (hf : h.feeding = false) (hq : h.Queue) : h.Steady where
  locked := by rw [hs, hl]
  feeding h := by rw [hf] at h; cases h
  eof _ h := by rw [hs] at h; cases h
  queue := hq

theorem Handle.steady_abandoned {h : Handle} (hq : h.Queue) : h.abandoned.Steady :=
  .of_idle rfl rfl rfl hq

theorem Abandoned.disciplined {s s' : Session} (h : Abandoned s s') (hq : s.host.h.Queue)
    (hs : s.LockSent) (hp : s.host.valid = true → s.host.h.params.Positive) :
    s'.Disciplined ∧ s'.host.h.scanning = false := by
  have hh : s'.host.h = s.host.h.abandoned := by rw [h.host]; rfl
  refine ⟨⟨?_, h.lockSent hs, fun _ => ?_, fun hv => ?_⟩, ?_⟩
  · rw [hh]
    exact Handle.steady_abandoned hq
  · rw [hh]
    rfl
  · rw [hh]
    rw [h.host] at hv
    exact hp hv
  · rw [hh]
    rfl

theorem SameControl.locked {h h' : Handle} (a : SameControl h h') : h'.locked = h.locked :=
  (congrArg Handle.locked a.eq).trans rfl

theorem SameControl.feeding {h h' : Handle} (a : SameControl h h') : h'.feeding = h.feeding :=
  (congrArg Handle.feeding a.eq).trans rfl

theorem Queued.lockSent {s t : Session} (h : Queued s t) (hs : s.LockSent) : t.LockSent := by
  unfold Session.LockSent
  rw [h.control.locked, h.outp]
  exact hs

theorem FrameEffect.lockSent {report : Bool} {s s' : Session} {r : Except Status Pumped}
    (h : FrameEffect report s r s') (hs : s.LockSent) : s'.LockSent := by
  cases h with
  | kept hq _ => exact hq.lockSent hs
  | aborted hh ho _ => exact .of_unlock Handle.abandoned (fun _ => rfl) hs hh ho
  | jobEnd hq hh ho _ =>
    unfold Session.LockSent
    rw [hh, ho, Handle.lockOwed_unlockFrames hs]
    rfl
  | pageEnd hq _ hh ho _ =>
    have ht := hq.lockSent hs
    unfold Session.LockSent at ht ⊢
    rw [hh, ho, ← ht]
    rfl

theorem FrameEffect.queue {report : Bool} {s s' : Session} {r : Except Status Pumped}
    (h : FrameEffect report s r s') (hs : s.host.h.Queue) : s'.host.h.Queue := by
  cases h with
  | kept hq _ => exact (hq.queue hs).1
  | aborted hh _ _ =>
    rw [hh]
    exact hs
  | jobEnd hq hh _ _ =>
    rw [hh]
    exact (hq.queue hs).1
  | pageEnd hq _ hh _ _ =>
    rw [hh]
    exact (hq.queue hs).1

theorem FrameEffect.params {report : Bool} {s s' : Session} {r : Except Status Pumped}
    (h : FrameEffect report s r s') : s'.host.valid = s.host.valid ∧
      s'.host.h.params = s.host.h.params := by
  cases h with
  | kept hq _ => exact ⟨hq.valid, hq.control.params⟩
  | aborted hh _ _ =>
    rw [hh]
    exact ⟨rfl, rfl⟩
  | jobEnd hq hh _ _ =>
    rw [hh]
    exact ⟨hq.valid, hq.control.params⟩
  | pageEnd hq _ hh _ _ =>
    rw [hh]
    exact ⟨hq.valid, hq.control.params⟩

theorem FrameEffect.steady {report : Bool} {s s' : Session} {r : Except Status Pumped}
    (h : FrameEffect report s r s') (hs : s.host.h.Steady) (hscan : s.host.h.scanning = true) :
    s'.host.h.Steady := by
  have hqueue := h.queue hs.queue
  cases h with
  | kept hq _ =>
    have c := hq.control
    refine ⟨?_, ?_, ?_, hqueue⟩
    · rw [c.scanning, c.locked]
      exact hs.locked
    · rw [c.feeding, c.scanning]
      exact hs.feeding
    · rw [c.eof, c.scanning, c.feeding]
      exact hs.eof
  | aborted hh _ _ =>
    rw [hh]
    exact Handle.steady_abandoned hs.queue
  | jobEnd hq hh _ _ =>
    rw [hh] at hqueue ⊢
    exact .of_idle rfl rfl rfl hqueue
  | @pageEnd t _ hq _ hh _ _ =>
    have c := hq.control
    rw [hh] at hqueue ⊢
    refine ⟨?_, fun _ => c.scanning.trans hscan, fun _ _ => rfl, hqueue⟩
    change t.host.h.scanning = t.host.h.locked
    rw [c.scanning, c.locked]
    exact hs.locked

theorem FrameEffect.disciplined {report : Bool} {s s' : Session} {r : Except Status Pumped}
    (h : FrameEffect report s r s') (hs : s.Disciplined) (hscan : s.host.h.scanning = true) :
    s'.Disciplined where
  steady := h.steady hs.steady hscan
  sent := h.lockSent hs.sent
  closed hv := by
    rw [h.params.1] at hv
    rw [hs.closed hv] at hscan
    cases hscan
  params hv := by
    rw [h.params.2]
    exact hs.params (h.params.1.symm.trans hv)

theorem FrameEffect.aborted_over {report : Bool} {s s' : Session} {st : Nat}
    (h : FrameEffect report s (.ok (.aborted st)) s') : s'.host.h.scanning = false := by
  cases h with
  | kept _ hr => exact absurd rfl (hr _)
  | aborted hh _ _ =>
    rw [hh]
    rfl
  | jobEnd _ hh _ _ =>
    rw [hh]
    rfl
  | pageEnd _ _ _ _ hr => obtain ⟨hr, -⟩ | ⟨_, hr⟩ := hr <;> cases hr

/-- What a start or a part of it leaves behind: the invariant, and no job unless it succeeded. -/
structure JobPost {α : Type} (good : Except Status α → Prop) (r : Except Status α) (s : Session) :
    Prop where
  disciplined : s.Disciplined
  ended : ¬ good r → s.host.h.scanning = false

theorem JobPost.of_abandoned {α : Type} {good : Except Status α → Prop} {r : Except Status α}
    {s s' : Session} (h : Abandoned s s') (hs : s.Disciplined) : JobPost good r s' :=
  have h := h.disciplined hs.steady.queue hs.sent hs.params
  ⟨h.1, fun _ => h.2⟩

/-! ### Starting a job -/

theorem awaitFirstRows_disciplined (env : Env) {s : Session} (hs : s.Disciplined) :
    wp (awaitFirstRows env) (fun r s' => JobPost (· = .ok none) r s' ∧
      (r = .ok none → ¬ s'.host.h.Waiting)) s := by
  refine wp_awaitFirstRows Session.Disciplined ?_
    (fun t ht hw => ⟨⟨ht, fun h => absurd rfl h⟩, fun _ => hw⟩)
    (fun t u ht hu => ⟨.of_abandoned hu ht, fun h => by cases h⟩) hs
  rintro t ht ⟨hscan, -⟩
  refine wp_takeFrame (wp_mono (pumpFrame_effect env false true t) fun r u hu => ?_)
  have hd := hu.disciplined ht hscan
  match r, hu with
  | .error _, _ => exact fun v hv => ⟨.of_abandoned hv hd, fun h => by cases h⟩
  | .ok .idle, _ => exact hd
  | .ok .done, _ => exact hd
  | .ok (.aborted _), hu => exact ⟨⟨hd, fun _ => hu.aborted_over⟩, fun h => by cases h⟩

theorem awaitFirstRows_open (env : Env) {s : Session} (hv : s.host.valid = true) :
    wp (awaitFirstRows env) (fun _ s' => s'.host.valid = true) s := by
  refine wp_awaitFirstRows (fun t => t.host.valid = true) ?_ (fun _ ht _ => ht)
    (fun t u ht hu => by rw [hu.host]; exact ht) hv
  intro t ht _
  refine wp_takeFrame (wp_mono (pumpFrame_effect env false true t) fun r u hu => ?_)
  have hvu : u.host.valid = true := hu.params.1.trans ht
  match r with
  | .error _ => exact fun v hv => (congrArg Host.valid hv.host).trans hvu
  | .ok .idle => exact hvu
  | .ok .done => exact hvu
  | .ok (.aborted _) => exact hvu

theorem Session.PageOf.out_ne_nil {s : Session} {p : Parameters} (hs : s.PageOf p 0)
    (hp : p.Positive) (hw : s.host.h.Whole) (hwait : ¬ s.host.h.Waiting) : s.host.h.out ≠ [] := by
  intro hout
  have hcount := hs.page.count
  have heof : s.host.h.eof = true := by
    by_contra he
    exact hwait ⟨hw.live.resolve_right he, hout, he⟩
  rw [hw.full heof, hs.params, Handle.pending, hout, List.drop_nil, List.length_nil] at hcount
  exact absurd hcount (Nat.mul_pos hp.lines hp.bytesPerLine).ne

theorem resumeJob_disciplined (env : Env) {s : Session} (hs : s.Disciplined)
    (hf : s.host.h.feeding = true) (hc : s.host.h.cancelled = false) :
    wp (resumeJob env) (JobPost (· = .ok ())) s := by
  unfold resumeJob
  rw [wp_bind, wp_setHandle, after_ok, wp_bind]
  set t := s.onHandle fun h => { h with
    nextRow := 0, out := [], outPos := 0, eof := false, feeding := false }
  have hscan : s.host.h.scanning = true := hs.steady.feeding hf
  have hv : s.host.valid = true := by
    by_contra hv
    rw [hs.closed (by simpa using hv)] at hscan
    cases hscan
  have ht : t.Disciplined :=
    ⟨⟨hs.steady.locked, fun h => (nomatch h), fun h => (nomatch h), Nat.le_refl 0⟩, hs.sent,
      hs.closed, hs.params⟩
  have hpage : t.PageOf s.host.h.params 0 := ⟨⟨hv, hc, rfl⟩, .of_empty rfl rfl rfl⟩
  refine wp_mono (wp_and (awaitFirstRows_disciplined env ht)
    (awaitFirstRows_page env hpage ⟨.inl hscan, fun he => by cases he⟩)) fun r u ⟨⟨hu, hw⟩, hp⟩ => ?_
  match r, hu, hw, hp with
  | .error e, hu, _, _ => exact ⟨hu.disciplined, fun _ => hu.ended fun h => by cases h⟩
  | .ok (some status), hu, _, _ =>
    have hover : u.host.h.scanning = false := hu.ended fun h => by cases h
    rw [after_ok]
    exact wp_ofStatus _ (fun _ => ⟨hu.disciplined, fun _ => hover⟩)
      fun _ => ⟨hu.disciplined, fun _ => hover⟩
  | .ok none, hu, hw, hp =>
    rw [after_ok]
    dsimp only
    rw [wp_bind, wp_getHandle, after_ok, wp_ite]
    exact ⟨fun hout => absurd hout (hp.1.out_ne_nil (hs.params hv) (hp.2 rfl) (hw rfl)),
      fun _ => ⟨hu.disciplined, fun h => absurd rfl h⟩⟩

theorem runJob_disciplined (env : Env) {s : Session} (hs : s.Disciplined)
    (hv : s.host.valid = true) (hscan : s.host.h.scanning = false) :
    wp (runJob env) (fun r s' => JobPost (· = .ok none) r s' ∧ s'.host.valid = true) s := by
  unfold runJob
  rw [wp_bind]
  apply wp_mono (beginJob_spec s)
  intro r t ht
  match r, ht with
  | .error _, ⟨hh, hl⟩ =>
    refine ⟨⟨⟨?_, hl hs.sent, ?_, ?_⟩, fun _ => ?_⟩, ?_⟩ <;> rw [hh]
    · exact .of_idle hscan rfl rfl (Nat.le_refl 0)
    · exact hs.closed
    · exact hs.params
    · exact hscan
    · exact hv
  | .ok _, ⟨hh, hl⟩ =>
    have hvt : t.host.valid = true := by
      rw [hh]
      exact hv
    have ht : t.Disciplined := by
      refine ⟨?_, hl hs.sent, fun h => absurd (hvt.symm.trans h) (by decide), fun _ => ?_⟩ <;> rw [hh]
      · exact ⟨rfl, fun _ => rfl, fun h => (nomatch h), Nat.le_refl 0⟩
      · exact hs.params hv
    rw [after_ok]
    exact wp_mono (wp_and (awaitFirstRows_disciplined env ht) (awaitFirstRows_open env hvt))
      fun r u hu => ⟨hu.1.1, hu.2⟩

theorem startJob_disciplined (env : Env) {s : Session} (hs : s.Disciplined)
    (hv : s.host.valid = true) (hscan : s.host.h.scanning = false) :
    wp (startJob env) (JobPost (· = .ok ())) s := by
  refine wp_loop (fun _ t => t.Disciplined ∧ t.host.valid = true ∧ t.host.h.scanning = false) ?_
    (fun _ t ht => ?_) 4 ⟨hs, hv, hscan⟩
  swap
  · rw [wp_fail]
    exact ⟨ht.1, fun _ => ht.2.2⟩
  rintro _ t ⟨ht, hvt, hscant⟩
  rw [startRound, wp_bind]
  apply wp_mono (runJob_disciplined env ht hvt hscant)
  rintro r u ⟨hu, hvu⟩
  obtain _ | (_ | status) := r
  · exact ⟨hu.disciplined, fun _ => hu.ended fun h => by cases h⟩
  · exact ⟨hu.disciplined, fun h => absurd rfl h⟩
  · have hover : u.host.h.scanning = false := hu.ended fun h => by cases h
    rw [after_ok]
    dsimp only
    rw [wp_ite]
    exact ⟨fun _ => ⟨hu.disciplined, fun _ => hover⟩, fun _ => ⟨hu.disciplined, hvu, hover⟩⟩

theorem prepareJob_scanning (env : Env) (s : Host) :
    wp (prepareJob env) (fun _ s' => s'.h.scanning = s.h.scanning) s := by
  apply wp_mono (prepareJob_spec env s)
  rintro _ u ⟨_, ⟨_, hh⟩ | ⟨_, hh⟩⟩ <;> rw [hh]
  · unfold Handle.prepared setMargins
    dsimp only
    split <;> rfl
  · rfl

theorem prepareJob_disciplined (env : Env) {s : Session} (hs : s.Disciplined)
    (hscan : s.host.h.scanning = false) :
    wp (onHost (prepareJob env)) (fun _ s' => s'.Disciplined ∧ s'.host.valid = s.host.valid ∧
      s'.host.h.scanning = false) s := by
  have hprep : (s.host.h.prepared env).scanning = false ∧
      (s.host.h.prepared env).locked = s.host.h.locked ∧
      (s.host.h.prepared env).feeding = s.host.h.feeding ∧
      (s.host.h.prepared env).Queue ∧
      (s.host.h.prepared env).params = s.host.h.val.computeParameters := by
    unfold Handle.prepared setMargins
    dsimp only
    split <;> exact ⟨hscan, rfl, rfl, hs.steady.queue, rfl⟩
  have hlock : s.host.h.locked = false := hs.steady.locked.symm.trans hscan
  have hfeed : s.host.h.feeding = false := by
    by_contra hf
    rw [hs.steady.feeding (by simpa using hf)] at hscan
    cases hscan
  obtain ⟨h₁, h₂, h₃, h₄, h₅⟩ := hprep
  rw [onHost, wp_zoom]
  apply wp_mono (prepareJob_spec env s.host)
  -- The dither mask was built or it was not; the parameters are those of the options either way.
  rintro _ u ⟨hvu, ⟨rfl, hh⟩ | ⟨rfl, hh⟩⟩
  · refine ⟨⟨?_, ?_, ?_, ?_⟩, hvu, ?_⟩
    · change u.h.Steady
      rw [hh]
      exact .of_idle h₁ (h₂.trans hlock) (h₃.trans hfeed) h₄
    · change u.h.locked = _
      rw [hh, h₂]
      exact hs.sent
    · intro _
      change u.h.scanning = false
      rw [hh, h₁]
    · intro _
      change u.h.params.Positive
      rw [hh, h₅]
      exact s.host.h.val.computeParameters_positive
    · change u.h.scanning = false
      rw [hh, h₁]
  · refine ⟨⟨?_, ?_, ?_, ?_⟩, hvu, ?_⟩
    · change u.h.Steady
      rw [hh]
      exact .of_idle hscan hlock hfeed hs.steady.queue
    · change u.h.locked = _
      rw [hh]
      exact hs.sent
    · intro _
      change u.h.scanning = false
      rw [hh]
      exact hscan
    · intro _
      change u.h.params.Positive
      rw [hh]
      exact s.host.h.val.computeParameters_positive
    · change u.h.scanning = false
      rw [hh]
      exact hscan

theorem endScan_disciplined {s : Session} (hs : s.Disciplined) :
    wp endScan (fun r s' => r = .ok () ∧ s'.host = s.host.onHandle Handle.abandoned ∧
      s'.Disciplined) s := by
  refine wp_mono (endScan_spec s) fun r t ⟨hr, hh, hl⟩ => ⟨hr, hh, ?_⟩
  have hv : t.host.valid = s.host.valid := by rw [hh]; rfl
  refine ⟨?_, hl hs.sent, fun _ => ?_, fun ht => ?_⟩ <;> rw [hh]
  · exact Handle.steady_abandoned hs.steady.queue
  · rfl
  · exact hs.params (hv.symm.trans ht)

structure Session.Busy (s : Session) : Prop where
  scanning : s.host.h.scanning = true
  feeding : s.host.h.feeding = false
  cancelled : s.host.h.cancelled = false

theorem saneStart_disciplined (env : Env) {s : Session} (hs : s.Disciplined) :
    wp (saneStart env) (fun r s' => s'.Disciplined ∧ (∀ e, r = .error e →
      s'.host.h.scanning = false ∨ (e = .deviceBusy ∧ s.Busy ∧ s' = s))) s := by
  unfold saneStart
  rw [wp_bind, wp_read, after_ok, wp_ite]
  refine ⟨fun hv => ⟨hs, fun _ _ => .inl (hs.closed (by simpa using hv))⟩, fun hv => ?_⟩
  have hv : s.host.valid = true := by simpa using hv
  have hstart (t : Session) (ht : t.Disciplined) (hv : t.host.valid = true)
      (hc : (t = s ∧ t.host.h.cancelled = false) ∨ t.host.h.scanning = false) :
      wp (do
        let h ← getHandle
        if h.feeding then resumeJob env
        else if h.scanning then fail .deviceBusy
        else do
          onHost (prepareJob env)
          startJob env) (fun r s' => s'.Disciplined ∧ (∀ e, r = .error e →
            s'.host.h.scanning = false ∨ (e = .deviceBusy ∧ s.Busy ∧ s' = s))) t := by
    have hpost {r : Except Status Unit} {u : Session} (hu : JobPost (· = .ok ()) r u) :
        u.Disciplined ∧ (∀ e, r = .error e →
          u.host.h.scanning = false ∨ (e = .deviceBusy ∧ s.Busy ∧ u = s)) :=
      ⟨hu.disciplined, fun e he => .inl (hu.ended fun h => by rw [he] at h; cases h)⟩
    rw [wp_bind, wp_getHandle, after_ok, wp_ite]
    -- A job that was torn down in this call has no page to resume.
    refine ⟨fun hf => ?_, fun hf => ?_⟩
    · obtain ⟨rfl, hc⟩ | hscan := hc
      · exact wp_mono (resumeJob_disciplined env ht hf hc) fun _ _ => hpost
      · rw [ht.steady.feeding hf] at hscan
        cases hscan
    rw [wp_ite]
    refine ⟨fun hscan => ⟨ht, fun e he => .inr ⟨(Except.error.inj he).symm, ?_⟩⟩, fun hscan => ?_⟩
    · obtain ⟨rfl, hc⟩ | hscan' := hc
      · exact ⟨⟨hscan, by simpa using hf, hc⟩, rfl⟩
      · rw [hscan'] at hscan
        cases hscan
    · rw [wp_bind]
      refine wp_mono (prepareJob_disciplined env ht (by simpa using hscan))
        fun r u ⟨hu, hvu, hscanu⟩ => ?_
      match r with
      | .error _ => exact ⟨hu, fun _ _ => .inl hscanu⟩
      | .ok _ =>
        rw [after_ok]
        exact wp_mono (startJob_disciplined env hu (hvu.trans hv) hscanu) fun _ _ => hpost
  rw [wp_bind, wp_getHandle, after_ok, wp_ite]
  refine ⟨fun _ => ?_, fun hc => hstart s hs hv (.inl ⟨rfl, by simpa using hc⟩)⟩
  rw [wp_bind]
  apply wp_mono (endScan_disciplined hs)
  rintro _ t ⟨rfl, hh, ht⟩
  exact hstart t ht (by rw [hh]; exact hv) (.inr (by rw [hh]; rfl))

structure JobKept (h h' : Handle) : Prop where
  scanning : h'.scanning = h.scanning
  locked : h'.locked = h.locked
  feeding : h'.feeding = h.feeding
  eof : h'.eof = true → h.eof = true ∨ h.scanning = false
  queue : h.Queue → h'.Queue
  params : h.params.Positive → h'.params.Positive

theorem JobKept.disciplined {s s' : Session} (h : JobKept s.host.h s'.host.h) (hs : s.Disciplined)
    (hv : s'.host.valid = s.host.valid) (ho : s'.outp = s.outp) : s'.Disciplined where
  steady := by
    refine ⟨?_, ?_, fun he hscan => ?_, h.queue hs.steady.queue⟩
    · rw [h.scanning, h.locked]
      exact hs.steady.locked
    · rw [h.scanning, h.feeding]
      exact hs.steady.feeding
    · rw [h.scanning] at hscan
      rw [h.feeding]
      exact hs.steady.eof ((h.eof he).resolve_right fun hf => by rw [hscan] at hf; cases hf) hscan
  sent := by
    unfold Session.LockSent
    rw [h.locked, ho]
    exact hs.sent
  closed hc := h.scanning.trans (hs.closed (hv.symm.trans hc))
  params hv' := h.params (hs.params (hv.symm.trans hv'))

theorem Session.Disciplined.onHandle {s : Session} {f : Handle → Handle} (hs : s.Disciplined)
    (h : JobKept s.host.h (f s.host.h)) : (s.onHandle f).Disciplined := h.disciplined hs rfl rfl

theorem fillQueue_disciplined (env : Env) {s : Session} (hs : s.Disciplined) :
    wp (fillQueue env) (fun r s' => s'.Disciplined ∧
      ((∃ e, r = .error e) → s'.host.h.scanning = false) ∧ (∀ e, r = .error e → e.Fault) ∧
      (r = .ok false → ¬ s'.host.h.Starved)) s := by
  have herr {t u : Session} {e : Status} (ht : t.Disciplined) (hu : Abandoned t u) (he : e.Fault) :
      u.Disciplined ∧ ((∃ e', (.error e : Except Status Bool) = .error e') →
        u.host.h.scanning = false) ∧
      (∀ e', (.error e : Except Status Bool) = .error e' → e'.Fault) ∧
      ((.error e : Except Status Bool) = .ok false → ¬ u.host.h.Starved) :=
    have h := hu.disciplined ht.steady.queue ht.sent ht.params
    ⟨h.1, fun _ => h.2, fun e' h => by rwa [← Except.error.inj h], fun h => by cases h⟩
  refine wp_fillQueue Session.Disciplined ?_ ?_ ?_ (fun t u ht hu => herr ht hu broken_ioError.fault) hs
  · rintro t ht - hscan
    have hfails := fails_pumpFrame (fun _ => Status.Broken.fault) (fails_jobAborted false) env
      t.host.h.nonBlocking t
    refine wp_takeFrame (wp_mono (wp_and (pumpFrame_effect env t.host.h.nonBlocking false t) hfails)
      fun r u ⟨hu, hf⟩ => ?_)
    have hd := hu.disciplined ht hscan
    match r, hf with
    | .error e, hf => exact fun v hv => herr hd hv (hf e rfl)
    | .ok .idle, _ => exact ⟨hd, fun ⟨_, h⟩ => (by cases h), fun _ h => (by cases h),
        fun h => by cases h⟩
    | .ok .done, _ => exact hd
    | .ok (.aborted _), _ => exact hd
  · rintro t ht - hscan
    exact ⟨ht.onHandle ⟨rfl, rfl, rfl, fun _ => .inr hscan, id, id⟩, fun ⟨_, h⟩ => (by cases h),
      fun _ h => (by cases h), fun _ h => h.2 rfl⟩
  · exact fun t ht hw => ⟨ht, fun ⟨_, h⟩ => (by cases h), fun _ h => (by cases h), fun _ => hw⟩

theorem saneRead_disciplined (env : Env) (maxLength : Int) {s : Session} (hs : s.Disciplined) :
    wp (saneRead env maxLength) (fun r s' => s'.Disciplined ∧ (∀ e, r = .error e →
      s'.host.h.scanning = false ∨ (e = .inval ∧ maxLength ≤ 0 ∧ s' = s) ∨
        (e = .eof ∧ s'.host.h.feeding = true))) s := by
  unfold saneRead
  rw [wp_bind, wp_read, after_ok, wp_ite]
  refine ⟨fun hbad => ⟨hs, fun e he => ?_⟩, fun _ => ?_⟩
  · obtain hv | hm := Bool.or_eq_true _ _ |>.mp hbad
    · exact .inl (hs.closed (by simpa using hv))
    · exact .inr (.inl ⟨(Except.error.inj he).symm, of_decide_eq_true hm, rfl⟩)
  rw [wp_bind, wp_getHandle, after_ok, wp_ite]
  refine ⟨fun _ => ?_, fun _ => ?_⟩
  · rw [wp_bind]
    apply wp_mono (endScan_disciplined hs)
    rintro _ t ⟨rfl, hh, ht⟩
    have hscan : t.host.h.scanning = false := by rw [hh]; rfl
    rw [after_ok, wp_bind, wp_setHandle, after_ok, wp_fail]
    exact ⟨ht.onHandle ⟨rfl, rfl, rfl, fun _ => .inr hscan, fun _ => Nat.le_refl 0, id⟩,
      fun _ _ => .inl hscan⟩
  rw [wp_bind]
  refine wp_mono (fillQueue_disciplined env hs) fun r t ⟨ht, hover, _, hstop⟩ => ?_
  match r, hover, hstop with
  | .error e, hover, _ => exact ⟨ht, fun _ _ => .inl (hover ⟨e, rfl⟩)⟩
  | .ok idle, _, hstop =>
    rw [after_ok, wp_ite]
    refine ⟨fun _ => ⟨ht, fun _ h => by cases h⟩, fun hidle => ?_⟩
    have hidle : idle = false := by simpa using hidle
    subst hidle
    rw [wp_bind, wp_getHandle, after_ok]
    dsimp only
    rw [wp_ite]
    refine ⟨fun havail => ⟨ht, fun e he => ?_⟩, fun havail => ?_⟩
    · have hpos : t.host.h.outPos = t.host.h.out.length :=
        Nat.le_antisymm ht.steady.queue (Nat.sub_eq_zero_iff_le.mp havail)
      -- An empty queue is only left behind at the end of the page.
      have heof : t.host.h.eof = true := by_contra fun h => hstop rfl ⟨hpos, h⟩
      cases hscan : t.host.h.scanning with
      | false => exact .inl hscan
      | true => exact .inr (.inr ⟨(Except.error.inj he).symm, ht.steady.eof heof hscan⟩)
    · rw [wp_bind, wp_setHandle, after_ok, wp_pure]
      refine ⟨ht.onHandle ⟨rfl, rfl, rfl, .inl, fun hq => ?_, id⟩, fun _ h => by cases h⟩
      change t.host.h.outPos + min _ _ ≤ t.host.h.out.length
      have hq : t.host.h.outPos ≤ t.host.h.out.length := hq
      omega

/-- `h'` differs from `h` in the option values and descriptors at most. -/
def SameJob (h h' : Handle) : Prop := h' = { h with val := h'.val, opt := h'.opt }

theorem SameJob.trans {h h' h'' : Handle} (a : SameJob h h') (b : SameJob h' h'') :
    SameJob h h'' := by
  unfold SameJob at a b ⊢
  rw [b, a]

theorem SameJob.kept {h h' : Handle} (a : SameJob h h') : JobKept h h' := by
  unfold SameJob at a
  rw [a]
  exact ⟨rfl, rfl, rfl, .inl, id, id⟩

theorem updateOptionState_sameJob (h : Handle) : SameJob h (updateOptionState h) := by
  unfold updateOptionState Handle.setOpt
  dsimp only
  split_ifs <;> rfl

/-- `control_option` writes option values and descriptors and nothing else. -/
structure OptionsOnly (s s' : Host) : Prop where
  valid : s'.valid = s.valid
  job : SameJob s.h s'.h

theorem setString_spec {β : Type} (name : β → CString) (list : List β)
    {put : Option β → Handle → Handle} (hput : ∀ b h, SameJob h (put b h)) (value : Value)
    (s : Host) : wp (setString name list put value) (fun _ s' => OptionsOnly s s') s := by
  unfold setString
  split
  · exact ⟨rfl, rfl⟩
  · rename_i b _
    rw [wp_bind]
    apply wp_mono (alloc_spec s)
    rintro _ t ⟨c, rfl, hh, hv, -⟩
    rw [after_ok, wp_ite]
    refine ⟨fun _ => ⟨hv, ?_⟩, fun _ => ⟨hv, ?_⟩⟩
    · rw [← hh]
      exact (hput (some b) t.h).trans (updateOptionState_sameJob _)
    · rw [← hh]
      exact hput none t.h

theorem saneControlOption_spec (option : Int) (action : Action) (value : Option Value) (s : Host) :
    wp (saneControlOption option action value) (fun _ s' => OptionsOnly s s') s := by
  refine saneControlOption_cases option action value ⟨rfl, rfl⟩ (fun _ _ v _ _ => ?_)
    (fun _ _ v _ _ => ?_) fun _ _ _ _ _ => ⟨rfl, rfl⟩
  · refine setString_spec _ _ (fun m h => ?_) v s
    rfl
  · refine setString_spec _ _ (fun m h => ?_) v s
    rfl

theorem saneClose_disciplined {s : Session} (hs : s.Disciplined) :
    wp saneClose (fun _ s' => s'.Disciplined ∧ s'.host.h.scanning = false) s := by
  unfold saneClose
  rw [wp_bind, wp_read, after_ok, wp_ite]
  refine ⟨fun _ => ?_, fun hv => ⟨hs, hs.closed (by simpa using hv)⟩⟩
  rw [wp_bind]
  apply wp_mono (endScan_disciplined hs)
  rintro _ t ⟨rfl, hh, ht⟩
  have hscan : t.host.h.scanning = false := by rw [hh]; rfl
  rw [after_ok, wp_modify]
  exact ⟨⟨ht.steady, ht.sent, fun _ => hscan, fun h => by cases h⟩, hscan⟩

/-- Which outcomes of a call may leave a job running. -/
def Call.MayRun (c : Call) (s : Session) (e : Status) (s' : Session) : Prop :=
  match c with
  | .start => e = .deviceBusy ∧ s.Busy ∧ s' = s
  | .read n => (e = .inval ∧ n ≤ 0 ∧ s' = s) ∨ (e = .eof ∧ s'.host.h.feeding = true)
  | .close => False
  | .exit => False
  | _ => True

/-- What a call of a running session keeps, and which errors leave a job behind. -/
structure CallPost (c : Call) (s : Session) (r : Except Status Answer) (s' : Session) : Prop where
  disciplined : s'.Disciplined
  error : ∀ e, r = .error e → s'.host.h.scanning = false ∨ c.MayRun s e s'
  close : c = .close ∨ c = .exit → s'.host.h.scanning = false

theorem CallPost.of_result {β : Type} {c : Call} {s s' : Session} {r : Except Status β} {k : β → Answer}
    (hc : c ≠ .close ∧ c ≠ .exit) (hd : s'.Disciplined)
    (he : ∀ e, r = .error e → s'.host.h.scanning = false ∨ c.MayRun s e s') :
    After (fun a => pure (k a)) (CallPost c s) r s' := by
  have hclose : c = .close ∨ c = .exit → s'.host.h.scanning = false :=
    fun h => (h.elim hc.1 hc.2).elim
  cases r with
  | error e => exact ⟨hd, fun e' h => he e' (congrArg _ (Except.error.inj h)), hclose⟩
  | ok _ => exact ⟨hd, fun _ h => (by cases h), hclose⟩

theorem Call.run_disciplined (env : Env) (c : Call) {s : Session} (hs : s.Disciplined) :
    wp (c.run env) (CallPost c s) s := by
  cases c with
  | start =>
    rw [run, wp_bind]
    apply wp_mono (saneStart_disciplined env hs)
    rintro r t ⟨ht, he⟩
    exact CallPost.of_result (by decide) ht he
  | read n =>
    rw [run, wp_bind]
    apply wp_mono (saneRead_disciplined env n hs)
    rintro r t ⟨ht, he⟩
    exact CallPost.of_result (by simp) ht he
  | cancel =>
    rw [run, wp_bind]
    unfold saneCancel
    rw [wp_bind, wp_read, after_ok, wp_ite]
    exact ⟨fun _ => CallPost.of_result (r := .ok ()) (by decide)
      (hs.onHandle ⟨rfl, rfl, rfl, .inl, id, id⟩) (by simp),
      fun _ => CallPost.of_result (r := .ok ()) (by decide) hs (by simp)⟩
  | controlOption o a v =>
    rw [run, wp_bind, onHost, wp_zoom]
    apply wp_mono (saneControlOption_spec o a v s.host)
    intro r t ht
    exact CallPost.of_result (by simp) (ht.job.kept.disciplined hs ht.valid rfl)
      fun _ _ => .inr trivial
  | getParameters =>
    rw [run, wp_bind]
    unfold saneGetParameters
    rw [wp_bind, wp_read, after_ok, wp_ite]
    refine ⟨fun _ => CallPost.of_result (r := .error .inval) (by decide) hs fun _ _ => .inr trivial,
      fun _ => ?_⟩
    rw [wp_bind, wp_setHandle, after_ok]
    refine CallPost.of_result (r := .ok _) (by decide) (hs.onHandle ?_) (by simp)
    split
    · exact ⟨rfl, rfl, rfl, .inl, id, fun _ => s.host.h.val.computeParameters_positive⟩
    · exact ⟨rfl, rfl, rfl, .inl, id, id⟩
  | setIoMode b =>
    rw [run, wp_bind]
    unfold saneSetIoMode
    rw [wp_bind, wp_read, after_ok, wp_ite]
    exact ⟨fun _ => CallPost.of_result (r := .ok ()) (by simp)
      (hs.onHandle ⟨rfl, rfl, rfl, .inl, id, id⟩) (by simp),
      fun _ => CallPost.of_result (r := .error .inval) (by simp) hs fun _ _ => .inr trivial⟩
  | close =>
    rw [run, wp_bind]
    apply wp_mono (saneClose_disciplined hs)
    rintro r t ⟨ht, hscan⟩
    cases r <;> exact ⟨ht, fun _ _ => .inl hscan, fun _ => hscan⟩
  | exit =>
    rw [run, wp_bind]
    apply wp_mono (saneClose_disciplined hs)
    rintro r t ⟨ht, hscan⟩
    cases r <;> exact ⟨ht, fun _ _ => .inl hscan, fun _ => hscan⟩

/-! ### Sessions -/

theorem Sent.lockSent_of_lock {s s' : Session} {payload : List UInt8}
    (h : Sent s s' [⟨cmdLock, payload⟩]) (hs : s.host.h.locked = true) : s'.LockSent := by
  unfold Session.LockSent
  rw [h.host, h.sent, lockOwed_append, if_pos rfl]
  exact hs

def Handle.probed (h : Handle) (present : Bool) : Handle := { h with hasAdf := present }.unlocked

theorem probeAdf_spec (s : Session) :
    wp probeAdf (fun _ s' => s'.LockSent ∧ ∃ b, s'.host = s.host.onHandle (Handle.probed · b)) s := by
  unfold probeAdf
  rw [wp_bind, wp_setHandle, after_ok, wp_bind, wp_attempt]
  apply wp_mono (command_sent cmdLock [] none _)
  intro r t ht
  have hlt : t.LockSent := ht.lockSent_of_lock rfl
  have hunlock {u : Session} (b : Bool) (hl : u.LockSent)
      (hu : u.host = s.host.onHandle fun h => { h with hasAdf := b, locked := true }) :
      wp unlockDevice (fun _ s' => s'.LockSent ∧
        ∃ b, s'.host = s.host.onHandle (Handle.probed · b)) u := by
    refine wp_mono (unlockDevice_spec u) fun _ v ⟨_, hv, ho⟩ =>
      ⟨.of_unlock _ (fun _ => rfl) hl hv ho, b, ?_⟩
    rw [hv, hu]
    rfl
  rw [after_ok]
  match r with
  | .error _ => exact hunlock false hlt ht.host
  | .ok _ =>
    dsimp only
    rw [wp_bind, wp_attempt]
    apply wp_mono (checkAdf_sent t)
    intro r u hu
    have hlu := hu.lockSent (by unfold Harmless; decide) hlt
    rw [after_ok]
    match r with
    | .ok (present, _) =>
      dsimp only
      rw [wp_bind, wp_setHandle, after_ok]
      refine hunlock present hlu ?_
      change u.host.onHandle (fun h => { h with hasAdf := present }) = _
      rw [hu.host, ht.host]
      rfl
    | .error _ => exact hunlock false hlu (hu.host.trans ht.host)

theorem initOptions_spec (s : Host) :
    wp initOptions (fun _ s' => OptionsOnly s s') s := by
  unfold initOptions
  rw [wp_bind]
  apply wp_mono (alloc_spec s)
  rintro _ t ⟨b, rfl, ht, hvt, -⟩
  rw [after_ok, wp_bind]
  apply wp_mono (alloc_spec t)
  rintro _ u ⟨c, rfl, hu, hvu, -⟩
  rw [after_ok, wp_modify]
  refine ⟨hvu.trans hvt, ?_⟩
  rw [← ht, ← hu]
  rfl

theorem saneOpen_disciplined {s : Session} (hs : s.host.h = Handle.zero)
    (hv : s.host.valid = false) (hl : s.LockSent) : wp saneOpen (fun _ s' => s'.Disciplined) s := by
  have hzero {t : Session} (ht : t.host.h = Handle.zero) (hv : t.host.valid = false)
      (hl : t.LockSent) : t.Disciplined := by
    refine ⟨?_, hl, fun _ => ?_, fun h => absurd (hv.symm.trans h) (by decide)⟩ <;> rw [ht]
    · exact .of_idle rfl rfl rfl (Nat.le_refl 0)
    · rfl
  unfold saneOpen
  rw [wp_bind, onHost, wp_zoom]
  apply wp_mono (alloc_spec s.host)
  rintro _ t ⟨b, rfl, hh, hvt, -⟩
  have hlt : (hostLens.set t s).LockSent := by
    unfold Session.LockSent at hl ⊢
    change t.h.locked = lockOwed s.outp.sent
    rw [hh, ← hl]
  rw [after_ok, wp_ite]
  refine ⟨fun _ => ?_, fun _ => hzero (hh.trans hs) (hvt.trans hv) hlt⟩
  rw [wp_bind, wp_modify, after_ok, wp_bind]
  apply wp_onInp
  intro r i
  set u : Session := { host := { t with h := Handle.zero }, inp := i, outp := s.outp }
  have hlu : u.LockSent := by
    unfold Session.LockSent at hl ⊢
    rwa [hs] at hl
  cases r with
  | error _ => exact hzero rfl (hvt.trans hv) hlu
  | ok _ =>
    rw [after_ok, wp_bind]
    apply wp_mono (probeAdf_spec u)
    rintro r v ⟨hlv, b, hv'⟩
    -- The probe of the feeder locks and unlocks; nothing is owed behind it.
    have hidle : v.Disciplined := by
      refine ⟨?_, hlv, fun _ => ?_, fun h => ?_⟩
      · rw [hv']
        exact .of_idle rfl rfl rfl (Nat.le_refl 0)
      · rw [hv']
        rfl
      · rw [hv'] at h
        exact absurd ((hvt.trans hv).symm.trans h) (by decide)
    have hscan : v.host.h.scanning = false := by
      rw [hv']
      rfl
    cases r with
    | error _ => exact hidle
    | ok _ =>
      rw [after_ok, wp_bind, onHost, wp_zoom]
      refine wp_mono (initOptions_spec v.host) ?_
      intro r w hw
      have hdw : (hostLens.set w v).Disciplined := hw.job.kept.disciplined hidle hw.valid rfl
      cases r with
      | error _ => exact hdw
      | ok _ =>
        rw [after_ok, wp_bind, wp_setHandle, after_ok, wp_modify]
        exact ⟨⟨hdw.steady.locked, hdw.steady.feeding, hdw.steady.eof, hdw.steady.queue⟩, hdw.sent,
          fun h => (by cases h), fun _ => w.h.val.computeParameters_positive⟩

theorem Reachable.disciplined {env : Env} {s : Session} (h : Reachable env s) : s.Disciplined := by
  induction h with
  | @opened s s' r h hs =>
    obtain ⟨i, o, a, d, rfl⟩ := hs
    have hopen := saneOpen_disciplined (s := Session.fresh i o a d) rfl rfl rfl
    unfold wp at hopen
    rwa [h] at hopen
  | call _ c ih => exact (Call.run_disciplined env c ih).disciplined

/-- Every lock request is followed by an unlock request. -/
def Paid (sent : List HostFrame) : Prop :=
  ∀ before f after, sent = before ++ f :: after → f.cmd = cmdLock →
    ∃ g ∈ after, g.cmd = cmdUnlock

theorem paid_of_not_lockOwed {sent : List HostFrame} (h : lockOwed sent = false) : Paid sent := by
  rintro before f after rfl hf
  by_contra hno
  push Not at hno
  -- Without an unlock request behind it, the lock stays owed.
  have howed (gs : List HostFrame) (hgs : ∀ g ∈ gs, g.cmd ≠ cmdUnlock) :
      gs.foldl (fun owed g => if g.cmd = cmdLock then true else if g.cmd = cmdUnlock then false
        else owed) true = true := by
    induction gs with
    | nil => rfl
    | cons g gs ih =>
      rw [List.foldl_cons, if_neg (hgs g List.mem_cons_self), ite_self]
      exact ih fun g' hg' => hgs g' (List.mem_cons_of_mem _ hg')
  unfold lockOwed at h
  rw [List.foldl_append, List.foldl_cons, if_pos hf, howed after hno] at h
  cases h

theorem not_lockOwed_of_paid {sent : List HostFrame} (h : Paid sent) : lockOwed sent = false := by
  induction sent using List.reverseRecOn with
  | nil => rfl
  | append_singleton sent f ih =>
    rw [lockOwed_append]
    split_ifs with hlock hunlock
    · obtain ⟨_, hg, -⟩ := h sent f [] rfl hlock
      cases hg
    · rfl
    · apply ih
      intro before g after hs hg
      obtain ⟨u, hu, hcmd⟩ := h before g (after ++ [f]) (by rw [hs]; simp) hg
      rcases List.mem_append.mp hu with hu | hu
      · exact ⟨u, hu, hcmd⟩
      · rw [List.mem_singleton.mp hu] at hcmd
        exact absurd hcmd hunlock

/-- A device that answers one session up to the first row of its first page. -/
def cooperative : Session :=
  Session.fresh
    { inStream := ([⟨cmdLock, []⟩, ⟨cmdAdfStatus, []⟩, ⟨cmdUnlock, []⟩, ⟨cmdLock, []⟩,
        ⟨cmdSetDefaults, []⟩, ⟨cmdGetSettings, List.replicate 100 0⟩, ⟨cmdSetSettings, []⟩,
        ⟨cmdStart, []⟩, ⟨evtData, [0, 0, 1, 1, 1, 0].flatMap putBe32 ++ [7]⟩] :
        List HostFrame).flatMap HostFrame.encode
      inSched := ⟨.timeout, 0⟩ :: List.replicate 20 ⟨.success, 100⟩ }
    (List.replicate 20 ⟨.success, 200⟩) [] true

def firstStart : List Call :=
  [.controlOption 10 .setValue (some ⟨0, []⟩), .controlOption 11 .setValue (some ⟨0, []⟩), .start]

theorem Reachable.runCalls {env : Env} {s : Session} (h : Reachable env s) (cs : List Call) :
    Reachable env (runCalls env cs s).2 := by
  induction cs generalizing s with
  | nil => exact h
  | cons c cs ih => exact ih (h.call c)

theorem reachable_firstStart :
    Reachable plainEnv (runCalls plainEnv firstStart (saneOpen cooperative).2).2 :=
  .runCalls (.opened (s := cooperative) rfl ⟨_, _, _, _, rfl⟩) _

/-- Between two calls of any session the flags agree, `locked` is what the device was asked last,
and a session without a job has paid for every lock. A call that fails leaves no job, except a
start refused because a job runs, a read of no bytes and the end of a feeder page. -/
theorem Reachable.lock_discipline {env : Env} {s : Session} (h : Reachable env s) :
    (s.host.h.scanning = true ↔ s.host.h.locked = true) ∧
    (s.host.h.feeding = true → s.host.h.scanning = true) ∧
    (s.host.h.locked = true ↔ lockOwed s.outp.sent = true) ∧
    (s.host.h.scanning = false → Paid s.outp.sent) ∧
    ∀ c : Call,
      let r := (c.run env s).1
      let s' := (c.run env s).2
      (∀ e, r = .error e → (s'.host.h.scanning = false ∧ Paid s'.outp.sent) ∨ c.MayRun s e s') ∧
      (c = .close ∨ c = .exit → s'.host.h.scanning = false ∧ Paid s'.outp.sent) := by
  have hpaid {t : Session} (ht : t.Disciplined) (hscan : t.host.h.scanning = false) :
      Paid t.outp.sent :=
    paid_of_not_lockOwed (ht.sent.symm.trans (ht.steady.locked.symm.trans hscan))
  have hs := h.disciplined
  refine ⟨by rw [hs.steady.locked], hs.steady.feeding, by rw [hs.sent], hpaid hs, fun c => ?_⟩
  have hc : CallPost c s (c.run env s).1 (c.run env s).2 := Call.run_disciplined env c hs
  exact ⟨fun e he => (hc.error e he).imp_left fun hscan => ⟨hscan, hpaid hc.disciplined hscan⟩,
    fun he => ⟨hc.close he, hpaid hc.disciplined (hc.close he)⟩⟩

theorem lock_discipline_firstStart :
    let s := (runCalls plainEnv firstStart (saneOpen cooperative).2).2
    s.host.h.scanning = true ∧ Paid (Call.run plainEnv .close s).2.outp.sent :=
  ⟨by decide +kernel,
    ((reachable_firstStart.lock_discipline.2.2.2.2 .close).2 (.inl rfl)).2⟩

/-- A start that is refused because a job runs leaves the lock of that job unpaid. -/
theorem saneStart_busy_not_paid : ¬ ∀ env s, Reachable env s → ∀ e,
    (saneStart env s).1 = .error e → Paid (saneStart env s).2.outp.sent := by
  intro h
  have hpaid := not_lockOwed_of_paid (h plainEnv _ reachable_firstStart .deviceBusy
    (by decide +kernel))
  exact absurd hpaid (by decide +kernel)

end PantumOpen.Scan
