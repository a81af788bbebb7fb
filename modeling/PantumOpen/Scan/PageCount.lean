import PantumOpen.Scan.Effects

/-! The byte count of a page: what has been delivered and what is still queued make up the rows
so far, and a page that ends without an error has all of them. -/

namespace PantumOpen.Scan
open Prog Bytes

/-- A page of which `n` bytes have been delivered. -/
structure Handle.Page (h : Handle) (n : Nat) : Prop where
  queue : h.Queue
  rows : h.nextRow ≤ h.params.lines
  count : n + h.pending.length = h.nextRow * h.params.bytesPerLine

structure Handle.Whole (h : Handle) : Prop where
  live : h.scanning = true ∨ h.eof = true
  full : h.eof = true → h.nextRow = h.params.lines

structure Session.Open (s : Session) (p : Parameters) : Prop where
  valid : s.host.valid = true
  cancelled : s.host.h.cancelled = false
  params : s.host.h.params = p

theorem Queued.pageCount {s t : Session} {n : Nat} (h : Queued s t) (hp : s.host.h.Page n) :
    t.host.h.Page n where
  queue := (h.queue hp.queue).1
  rows := by
    rw [h.control.params]
    exact h.page.trans (max_le hp.rows le_rfl)
  count := by
    obtain ⟨-, rows, hr, hl⟩ := h.queue hp.queue
    have hm := h.mono
    rw [hr, List.length_append, ← Nat.add_assoc, hp.count, hl, h.control.params, ← Nat.add_mul]
    congr 1
    omega

theorem SameControl.cancelled {h h' : Handle} (a : SameControl h h') : h'.cancelled = h.cancelled :=
  (congrArg Handle.cancelled a.eq).trans rfl

theorem SameControl.scanning {h h' : Handle} (a : SameControl h h') : h'.scanning = h.scanning :=
  (congrArg Handle.scanning a.eq).trans rfl

theorem SameControl.eof {h h' : Handle} (a : SameControl h h') : h'.eof = h.eof :=
  (congrArg Handle.eof a.eq).trans rfl

theorem Queued.open {s t : Session} {p : Parameters} (h : Queued s t) (ho : s.Open p) : t.Open p :=
  ⟨h.valid.trans ho.valid, h.control.cancelled.trans ho.cancelled, h.control.params.trans ho.params⟩

structure FlagsOnly (f : Handle → Handle) : Prop where
  nextRow : ∀ h, (f h).nextRow = h.nextRow
  out : ∀ h, (f h).out = h.out
  outPos : ∀ h, (f h).outPos = h.outPos
  params : ∀ h, (f h).params = h.params
  cancelled : ∀ h, (f h).cancelled = h.cancelled

theorem FlagsOnly.page {f : Handle → Handle} (hf : FlagsOnly f) {h : Handle} {n : Nat}
    (hp : h.Page n) : (f h).Page n where
  queue := by
    unfold Handle.Queue
    rw [hf.out, hf.outPos]
    exact hp.queue
  rows := by
    rw [hf.nextRow, hf.params]
    exact hp.rows
  count := by
    unfold Handle.pending
    rw [hf.out, hf.outPos, hf.nextRow, hf.params]
    exact hp.count

theorem FlagsOnly.open {f : Handle → Handle} (hf : FlagsOnly f) {s t : Session} {p : Parameters}
    (ht : t.host = s.host.onHandle f) (ho : s.Open p) : t.Open p := by
  refine ⟨?_, ?_, ?_⟩ <;> rw [ht]
  · exact ho.valid
  · exact (hf.cancelled _).trans ho.cancelled
  · exact (hf.params _).trans ho.params

theorem flagsOnly_abandoned : FlagsOnly Handle.abandoned :=
  ⟨fun _ => rfl, fun _ => rfl, fun _ => rfl, fun _ => rfl, fun _ => rfl⟩

theorem flagsOnly_jobDone : FlagsOnly Handle.jobDone :=
  ⟨fun _ => rfl, fun _ => rfl, fun _ => rfl, fun _ => rfl, fun _ => rfl⟩

theorem flagsOnly_pageDone : FlagsOnly Handle.pageDone :=
  ⟨fun _ => rfl, fun _ => rfl, fun _ => rfl, fun _ => rfl, fun _ => rfl⟩

theorem flagsOnly_eof : FlagsOnly fun h => { h with eof := true } :=
  ⟨fun _ => rfl, fun _ => rfl, fun _ => rfl, fun _ => rfl, fun _ => rfl⟩

structure Session.PageOf (s : Session) (p : Parameters) (n : Nat) : Prop extends s.Open p where
  page : s.host.h.Page n

theorem FlagsOnly.pageOf {f : Handle → Handle} (hf : FlagsOnly f) {s t : Session} {p : Parameters}
    {n : Nat} (ht : t.host = s.host.onHandle f) (hs : s.PageOf p n) : t.PageOf p n :=
  ⟨hf.open ht hs.toOpen, by rw [ht]; exact hf.page hs.page⟩

theorem Queued.pageOf {s t : Session} {p : Parameters} {n : Nat} (h : Queued s t)
    (hs : s.PageOf p n) : t.PageOf p n := ⟨h.open hs.toOpen, h.pageCount hs.page⟩

theorem Abandoned.pageOf {s t : Session} {p : Parameters} {n : Nat} (h : Abandoned s t)
    (hs : s.PageOf p n) : t.PageOf p n := flagsOnly_abandoned.pageOf h.host hs

theorem FrameEffect.pageOf {report : Bool} {s s' : Session} {r : Except Status Pumped}
    {p : Parameters} {n : Nat} (h : FrameEffect report s r s') (hs : s.PageOf p n) :
    s'.PageOf p n := by
  cases h with
  | kept hq _ => exact hq.pageOf hs
  | aborted hh _ _ => exact flagsOnly_abandoned.pageOf hh hs
  | jobEnd hq hh _ _ => exact flagsOnly_jobDone.pageOf hh (hq.pageOf hs)
  | pageEnd hq _ hh _ _ => exact flagsOnly_pageDone.pageOf hh (hq.pageOf hs)

theorem FrameEffect.whole {report : Bool} {s s' : Session} {r : Pumped} {n : Nat}
    (h : FrameEffect report s (.ok r) s') (hr : ∀ st, r ≠ .aborted st) (hp : s.host.h.Page n)
    (hw : s.host.h.Whole) (heof : ¬ s.host.h.eof = true) : s'.host.h.Whole := by
  cases h with
  | kept hq _ =>
    refine ⟨hw.live.imp ?_ ?_, fun he => ?_⟩
    · exact hq.control.scanning.trans
    · exact hq.control.eof.trans
    · exact absurd (hq.control.eof.symm.trans he) heof
  | aborted _ _ ha =>
    split at ha
    · obtain ⟨st, hst⟩ := ha
      exact absurd (Except.ok.inj hst) (hr st)
    · obtain ⟨_, he⟩ := ha
      cases he
  | @jobEnd t _ hq hh _ ha =>
    obtain ⟨-, hn⟩ | ⟨_, he⟩ := ha
    · rw [hh]
      refine ⟨.inr rfl, fun _ => ?_⟩
      change t.host.h.nextRow = t.host.h.params.lines
      rw [hn, hq.control.params, Nat.max_eq_right hp.rows]
    · cases he
  | @pageEnd t _ hq _ hh _ ha =>
    obtain ⟨-, hn⟩ | ⟨_, he⟩ := ha
    · rw [hh]
      refine ⟨.inr rfl, fun _ => ?_⟩
      change t.host.h.nextRow = t.host.h.params.lines
      rw [hn, hq.control.params, Nat.max_eq_right hp.rows]
    · cases he

theorem awaitFirstRows_of_not_waiting (env : Env) {s : Session} (h : ¬ s.host.h.Waiting) :
    wp (awaitFirstRows env) (fun r s' => r = .ok none ∧ s' = s) s := by
  unfold awaitFirstRows
  rw [wp_bind, wp_read, after_ok, loop, wp_bind]
  unfold awaitRound
  rw [wp_bind, wp_getHandle, after_ok, wp_ite]
  exact ⟨fun hw => absurd hw h, fun _ => ⟨rfl, rfl⟩⟩

theorem awaitFirstRows_page (env : Env) {s : Session} {p : Parameters} (hs : s.PageOf p 0)
    (hw : s.host.h.Whole) :
    wp (awaitFirstRows env) (fun r s' => s'.PageOf p 0 ∧ (r = .ok none → s'.host.h.Whole)) s := by
  refine wp_awaitFirstRows (fun t => t.PageOf p 0 ∧ t.host.h.Whole) ?_
    (fun _ ht _ => ⟨ht.1, fun _ => ht.2⟩)
    (fun t u ht hu => ⟨hu.pageOf ht.1, fun hr => by cases hr⟩) ⟨hs, hw⟩
  rintro t ⟨ht, hwhole⟩ ⟨-, -, heof⟩
  refine wp_takeFrame (wp_mono (pumpFrame_effect env false true t) fun r u hu => ?_)
  have hp := hu.pageOf ht
  match r, hu with
  | .error _, _ => exact fun v hv => ⟨hv.pageOf hp, fun hr => by cases hr⟩
  | .ok (.aborted _), _ => exact ⟨hp, fun hr => by cases hr⟩
  | .ok .idle, hu => exact ⟨hp, hu.whole (fun _ h => by cases h) ht.page hwhole heof⟩
  | .ok .done, hu => exact ⟨hp, hu.whole (fun _ h => by cases h) ht.page hwhole heof⟩

theorem Handle.Page.of_empty {h : Handle} (hn : h.nextRow = 0) (ho : h.out = [])
    (hp : h.outPos = 0) : h.Page 0 where
  queue := by
    unfold Queue
    rw [hp]
    exact Nat.zero_le _
  rows := by
    rw [hn]
    exact Nat.zero_le _
  count := by simp [pending, hn, ho]

structure Session.Started (s : Session) : Prop where
  page : s.PageOf s.host.h.params 0
  whole : s.host.h.Whole

theorem Session.PageOf.started {s : Session} {p : Parameters} (hs : s.PageOf p 0)
    (hw : s.host.h.Whole) : s.Started := ⟨by rwa [hs.params], hw⟩

theorem resumeJob_started (env : Env) {s : Session} (hv : s.host.valid = true)
    (hc : s.host.h.cancelled = false) :
    wp (resumeJob env) (fun r s' => r = .ok () → s'.Started) s := by
  unfold resumeJob
  rw [wp_bind, wp_setHandle, after_ok, wp_bind]
  set t := s.onHandle fun h => { h with
    nextRow := 0, out := [], outPos := 0, eof := false, feeding := false }
  have hp : t.PageOf s.host.h.params 0 := ⟨⟨hv, hc, rfl⟩, .of_empty rfl rfl rfl⟩
  cases hscan : t.host.h.scanning with
  | false =>
    -- Without a job no frame is read and the page stays empty.
    refine wp_mono (awaitFirstRows_of_not_waiting env fun h => ?_) ?_
    · rw [h.1] at hscan
      cases hscan
    · rintro _ _ ⟨rfl, rfl⟩ hr
      cases hr
  | true =>
    refine wp_mono (awaitFirstRows_page env hp ⟨.inl hscan, fun he => by cases he⟩)
      fun r u hu => ?_
    match r, hu with
    | .error _, _ => exact fun hr => by cases hr
    | .ok (some status), _ =>
      rw [after_ok]
      dsimp only
      refine wp_ofStatus _ (fun hg => ?_) fun _ hr => by cases hr
      split at hg
      · rename_i h0
        exact absurd hg (mapStatus_ne_good h0)
      · cases hg
    | .ok none, ⟨hpu, hwu⟩ =>
      rw [after_ok]
      dsimp only
      rw [wp_bind, wp_getHandle, after_ok, wp_ite]
      exact ⟨fun _ hr => (by cases hr), fun _ _ => hpu.started (hwu rfl)⟩

theorem runJob_started (env : Env) {s : Session} (hv : s.host.valid = true)
    (hc : s.host.h.cancelled = false) :
    wp (runJob env) (fun r s' => s'.host.valid = true ∧ s'.host.h.cancelled = false ∧
      (r = .ok none → s'.Started)) s := by
  unfold runJob
  rw [wp_bind]
  apply wp_mono (beginJob_spec s)
  intro r t ht
  match r, ht with
  | .error _, ⟨hh, _⟩ => exact ⟨by rw [hh]; exact hv, by rw [hh]; exact hc, fun hr => by cases hr⟩
  | .ok _, ⟨hh, _⟩ =>
    have hp : t.PageOf s.host.h.params 0 := by
      refine ⟨⟨?_, ?_, ?_⟩, ?_⟩ <;> rw [hh]
      · exact hv
      · exact hc
      · rfl
      · exact .of_empty rfl rfl rfl
    have hw : t.host.h.Whole := by
      rw [hh]
      exact ⟨.inl rfl, fun he => by cases he⟩
    rw [after_ok]
    exact wp_mono (awaitFirstRows_page env hp hw) fun r u ⟨hu, huw⟩ =>
      ⟨hu.valid, hu.cancelled, fun hr => hu.started (huw hr)⟩

theorem startJob_started (env : Env) {s : Session} (hv : s.host.valid = true)
    (hc : s.host.h.cancelled = false) :
    wp (startJob env) (fun r s' => r = .ok () → s'.Started) s := by
  refine wp_loop (fun _ t => t.host.valid = true ∧ t.host.h.cancelled = false) ?_
    (fun _ _ _ => ?_) 4 ⟨hv, hc⟩
  swap
  · rw [wp_fail]
    exact fun hr => by cases hr
  rintro _ t ⟨hv, hc⟩
  rw [startRound, wp_bind]
  refine wp_mono (runJob_started env hv hc) fun r u ⟨hv, hc, hs⟩ => ?_
  match r with
  | .error _ => exact fun hr => by cases hr
  | .ok none => exact fun _ => hs rfl
  | .ok (some status) =>
    rw [after_ok]
    dsimp only
    rw [wp_ite]
    refine ⟨fun _ hr => (by cases hr), fun _ => ⟨hv, hc⟩⟩

theorem saneStart_started (env : Env) (s : Session) :
    wp (saneStart env) (fun r s' => r = .ok () → s'.Started) s := by
  unfold saneStart
  rw [wp_bind, wp_read, after_ok, wp_ite]
  refine ⟨fun _ hr => (by cases hr), fun hv => ?_⟩
  have hv : s.host.valid = true := by simpa using hv
  have hstart (t : Session) (hv : t.host.valid = true) (hc : t.host.h.cancelled = false ∨
      t.host.h.feeding = false) :
      wp (do
        let h ← getHandle
        if h.feeding then resumeJob env
        else if h.scanning then fail .deviceBusy
        else do
          onHost (prepareJob env)
          startJob env) (fun r s' => r = .ok () → s'.Started) t := by
    rw [wp_bind, wp_getHandle, after_ok, wp_ite]
    refine ⟨fun hf => resumeJob_started env hv (hc.resolve_right (by rw [hf]; decide)),
      fun _ => ?_⟩
    rw [wp_ite]
    refine ⟨fun _ hr => (by cases hr), fun _ => ?_⟩
    rw [wp_bind, onHost, wp_zoom]
    apply wp_mono (prepareJob_spec env t.host)
    rintro _ u ⟨hvu, ⟨rfl, hh⟩ | ⟨rfl, hh⟩⟩
    · rw [after_ok]
      apply startJob_started env (hvu.trans hv)
      change u.h.cancelled = false
      rw [hh]
      unfold Handle.prepared setMargins
      dsimp only
      split <;> rfl
    · exact fun hr => by cases hr
  rw [wp_bind, wp_getHandle, after_ok, wp_ite]
  -- After a cancel the job is torn down first, and then nothing is left to resume.
  refine ⟨fun _ => ?_, fun hc => hstart s hv (.inl (by simpa using hc))⟩
  rw [wp_bind]
  apply wp_mono (endScan_spec s)
  rintro _ t ⟨rfl, hh, -⟩
  exact hstart t (by rw [hh]; exact hv) (.inr (by rw [hh]; rfl))

/-- What the pump loop of a read does to an open page of which `n` bytes have been delivered; `w`
is what the page is whole under. -/
structure FillPost (p : Parameters) (n : Nat) (w : Prop) (r : Except Status Bool) (s : Session) :
    Prop where
  page : s.PageOf p n
  whole : (∃ b, r = .ok b) → w → s.host.h.Whole
  drained : r = .ok false → s.host.h.outPos = s.host.h.out.length → s.host.h.eof = true
  fault : ∀ e, r = .error e → e ≠ .eof

theorem FillPost.of_error {p : Parameters} {n : Nat} {w : Prop} {e : Status} {s : Session}
    (hs : s.PageOf p n) (he : e ≠ .eof) : FillPost p n w (.error e) s where
  page := hs
  whole := fun ⟨_, h⟩ => by cases h
  drained h := by cases h
  fault _ h := by rwa [← Except.error.inj h]

theorem FillPost.of_ok {p : Parameters} {n : Nat} {w : Prop} {b : Bool} {s : Session}
    (hs : s.PageOf p n) (hw : w → s.host.h.Whole)
    (hd : b = false → s.host.h.outPos = s.host.h.out.length → s.host.h.eof = true) :
    FillPost p n w (.ok b) s where
  page := hs
  whole _ := hw
  drained h := hd (Except.ok.inj h)
  fault _ h := by cases h

theorem fillQueue_page (env : Env) {s : Session} {p : Parameters} {n : Nat} {w : Prop}
    (hs : s.PageOf p n) (hw : w → s.host.h.Whole) : wp (fillQueue env) (FillPost p n w) s := by
  refine wp_fillQueue (fun t => t.PageOf p n ∧ (w → t.host.h.Whole)) ?_ ?_ ?_
    (fun t u ht hu => .of_error (hu.pageOf ht.1) (by decide)) ⟨hs, hw⟩
  · rintro t ⟨ht, hwt⟩ ⟨-, heof⟩ -
    refine wp_takeFrame (wp_mono (wp_and (pumpFrame_effect env t.host.h.nonBlocking false t)
      (fails_pumpFrame (fun _ => Status.Broken.fault)
      (fails_jobAborted false) env t.host.h.nonBlocking t)) fun r u ⟨hu, hf⟩ => ?_)
    have hp := hu.pageOf ht
    have hwu (q : Pumped) (hq : ∀ st, q ≠ .aborted st) (hr : r = .ok q) (hw : w) :
        u.host.h.Whole := by
      subst hr
      exact hu.whole hq ht.page (hwt hw) heof
    match r, hu, hf with
    | .error e, _, hf => exact fun v hv => .of_error (hv.pageOf hp) (hf e rfl).2.1
    | .ok .idle, _, _ => exact .of_ok hp (hwu _ (fun _ h => by cases h) rfl) fun h => by cases h
    | .ok .done, _, _ => exact ⟨hp, hwu _ (fun _ h => by cases h) rfl⟩
    | .ok (.aborted _), hu, _ =>
      cases hu with
      | kept _ hr => exact absurd rfl (hr _)
      | aborted _ _ hr =>
        obtain ⟨_, hr⟩ := hr
        cases hr
      | jobEnd _ _ _ hr => obtain ⟨hr, -⟩ | ⟨_, hr⟩ := hr <;> cases hr
      | pageEnd _ _ _ _ hr => obtain ⟨hr, -⟩ | ⟨_, hr⟩ := hr <;> cases hr
  · rintro t ⟨ht, hwt⟩ ⟨-, heof⟩ hscan
    refine .of_ok (flagsOnly_eof.pageOf rfl ht) (fun hw => ?_) fun _ _ => rfl
    obtain h | h := (hwt hw).live
    · rw [h] at hscan
      cases hscan
    · exact absurd h heof
  · rintro t ⟨ht, hwt⟩ hstop
    exact .of_ok ht hwt fun _ hd => by_contra fun he => hstop ⟨hd, he⟩

structure PageReadPost (p : Parameters) (n : Nat) (w : Prop) (r : Except Status (List UInt8))
    (s : Session) : Prop where
  page : s.PageOf p (n + (r.toOption.getD []).length)
  whole : (∃ bs, r = .ok bs) → w → s.host.h.Whole
  ended : r = .error .eof → w → n = p.lines * p.bytesPerLine

theorem PageReadPost.of_error {p : Parameters} {n : Nat} {w : Prop} {e : Status} {s : Session}
    (hs : s.PageOf p n) (he : e = .eof → w → n = p.lines * p.bytesPerLine) :
    PageReadPost p n w (.error e) s where
  page := hs
  whole := fun ⟨_, h⟩ => by cases h
  ended h := he (Except.error.inj h)

theorem PageReadPost.of_ok {p : Parameters} {n : Nat} {w : Prop} {bs : List UInt8} {s : Session}
    (hs : s.PageOf p (n + bs.length)) (hw : w → s.host.h.Whole) : PageReadPost p n w (.ok bs) s where
  page := hs
  whole _ := hw
  ended h := by cases h

theorem Handle.Page.deliver {h : Handle} {n k : Nat} (hp : h.Page n)
    (hk : k ≤ h.out.length - h.outPos) :
    Handle.Page { h with outPos := h.outPos + k } (n + ((h.out.drop h.outPos).take k).length) where
  queue := by
    have hq : h.outPos ≤ h.out.length := hp.queue
    change h.outPos + k ≤ h.out.length
    omega
  rows := hp.rows
  count := by
    have hc := hp.count
    simp only [pending, List.length_drop, List.length_take] at hc ⊢
    omega

theorem saneRead_page (env : Env) (maxLength : Int) {s : Session} {p : Parameters} {n : Nat}
    {w : Prop} (hs : s.PageOf p n) (hw : w → s.host.h.Whole) :
    wp (saneRead env maxLength) (PageReadPost p n w) s := by
  unfold saneRead
  rw [wp_bind, wp_read, after_ok, wp_ite]
  refine ⟨fun _ => .of_error hs fun h => (by cases h), fun _ => ?_⟩
  rw [wp_bind, wp_getHandle, after_ok, wp_ite]
  refine ⟨fun hc => ?_, fun _ => ?_⟩
  · rw [hs.cancelled] at hc
    cases hc
  rw [wp_bind]
  apply wp_mono (fillQueue_page env hs hw)
  intro r t ht
  match r, ht with
  | .error e, ht => exact .of_error ht.page fun h => absurd h (ht.fault e rfl)
  | .ok idle, ht =>
    rw [after_ok, wp_ite]
    refine ⟨fun _ => .of_ok ht.page (ht.whole ⟨_, rfl⟩), fun hidle => ?_⟩
    have hidle : idle = false := by simpa using hidle
    subst hidle
    rw [wp_bind, wp_getHandle, after_ok]
    dsimp only
    rw [wp_ite]
    refine ⟨fun havail => .of_error ht.page fun _ hw => ?_, fun havail => ?_⟩
    -- The queue is drained and the page over, so all of it has been delivered.
    · have hpos : t.host.h.outPos = t.host.h.out.length :=
        Nat.le_antisymm ht.page.page.queue (Nat.sub_eq_zero_iff_le.mp havail)
      have hpend : t.host.h.pending.length = 0 := by
        rw [Handle.pending, List.length_drop, hpos, Nat.sub_self]
      have hcount := ht.page.page.count
      rw [hpend, (ht.whole ⟨_, rfl⟩ hw).full (ht.drained rfl hpos), ht.page.params] at hcount
      exact hcount
    · rw [wp_bind, wp_setHandle, after_ok]
      have hpage := ht.page.page.deliver (Nat.min_le_left (t.host.h.out.length - t.host.h.outPos)
        maxLength.toNat)
      exact .of_ok ⟨⟨ht.page.valid, ht.page.cancelled, ht.page.params⟩, hpage⟩ fun hw =>
        ⟨(ht.whole ⟨_, rfl⟩ hw).live, (ht.whole ⟨_, rfl⟩ hw).full⟩

theorem saneSetIoMode_page (nonBlocking : Bool) {s : Session} {p : Parameters} {n : Nat}
    (hs : s.PageOf p n) :
    wp (saneSetIoMode nonBlocking) (fun r s' => r = .ok () ∧ s'.PageOf p n ∧
      (s.host.h.Whole → s'.host.h.Whole)) s := by
  unfold saneSetIoMode
  rw [wp_bind, wp_read, after_ok, wp_ite]
  refine ⟨fun _ => ⟨rfl, ⟨⟨hs.valid, hs.cancelled, hs.params⟩, ⟨hs.page.1, hs.page.2, hs.page.3⟩⟩,
    fun hw => ⟨hw.live, hw.full⟩⟩, fun hv => absurd hs.valid hv⟩

def dataOf : Except Status Answer → List UInt8
  | .ok (.data bs) => bs
  | _ => []

def delivered (rs : List (Except Status Answer)) : List UInt8 := rs.flatMap dataOf

def Call.reads : Call → Bool
  | .read _ => true
  | .setIoMode _ => true
  | _ => false

theorem Call.run_page (env : Env) {c : Call} (hc : c.reads) {s : Session} {p : Parameters} {n : Nat}
    {w : Prop} (hs : s.PageOf p n) (hw : w → s.host.h.Whole) :
    wp (c.run env) (fun r s' => s'.PageOf p (n + (dataOf r).length) ∧
      (r.isOk → w → s'.host.h.Whole) ∧
      (r = .error .eof → w → n = p.lines * p.bytesPerLine)) s := by
  match c, hc with
  | .read m, _ =>
    rw [run, wp_bind]
    apply wp_mono (saneRead_page env m hs hw)
    intro r t ht
    match r, ht with
    | .error e, ht => exact ⟨ht.page, fun h => (by cases h),
        fun h => ht.ended (congrArg Except.error (Except.error.inj h))⟩
    | .ok bs, ht => exact ⟨ht.page, fun _ => ht.whole ⟨_, rfl⟩, fun h => by cases h⟩
  | .setIoMode b, _ =>
    rw [run, wp_bind]
    apply wp_mono (saneSetIoMode_page b hs)
    rintro _ t ⟨rfl, ht, hwt⟩
    exact ⟨ht, fun _ h => hwt (hw h), fun h => by cases h⟩

theorem runCalls_page (env : Env) (cs : List Call) (hcs : ∀ c ∈ cs, c.reads) {s : Session}
    {p : Parameters} {n : Nat} {w : Prop} (hs : s.PageOf p n) (hw : w → s.host.h.Whole) :
    (runCalls env cs s).2.PageOf p (n + (delivered (runCalls env cs s).1).length) ∧
      ((∀ r ∈ (runCalls env cs s).1, r.isOk) → w →
        (runCalls env cs s).2.host.h.Whole) := by
  induction cs generalizing s n w with
  | nil => exact ⟨hs, fun _ => hw⟩
  | cons c cs ih =>
    obtain ⟨hp, hwc, -⟩ := Call.run_page env (hcs c List.mem_cons_self) hs hw
    obtain ⟨hp', hw'⟩ := ih (fun d hd => hcs d (List.mem_cons_of_mem _ hd))
      (w := (c.run env s).1.isOk ∧ w) hp fun h => hwc h.1 h.2
    rw [Nat.add_assoc, ← List.length_append] at hp'
    refine ⟨hp', fun hall h => hw' (fun r hr => hall r (List.mem_cons_of_mem _ hr))
      ⟨hall _ List.mem_cons_self, h⟩⟩

/-- From a start that succeeded on, the page has the rows its bytes account for, and an end of file
that follows no error comes after the whole frame the parameters promise. -/
theorem saneStart_reads_page (env : Env) {s s₁ : Session} (hstart : saneStart env s = (.ok (), s₁))
    (cs : List Call) (hcs : ∀ c ∈ cs, c.reads) :
    let p := s₁.host.h.params
    let rs := (runCalls env cs s₁).1
    let h := (runCalls env cs s₁).2.host.h
    h.params = p ∧ h.nextRow ≤ p.lines ∧
      (delivered rs).length + (h.out.drop h.outPos).length = h.nextRow * p.bytesPerLine ∧
      ((∀ r ∈ rs, r.isOk) → ∀ maxLength,
        (saneRead env maxLength (runCalls env cs s₁).2).1 = .error .eof →
        (delivered rs).length = p.lines * p.bytesPerLine) := by
  have hs : s₁.Started := by
    have h := saneStart_started env s
    unfold wp at h
    rw [hstart] at h
    exact h rfl
  obtain ⟨hp, hw⟩ := runCalls_page env cs hcs (w := True) hs.page fun _ => hs.whole
  rw [Nat.zero_add] at hp
  have hcount := hp.page.count
  have hrows := hp.page.rows
  rw [hp.params] at hcount hrows
  exact ⟨hp.params, hrows, hcount, fun hall m heof =>
    (saneRead_page env m hp fun _ : True => hw hall trivial).ended heof trivial⟩

/-- An environment for small examples: the identity as tone curve, everything else zero. -/
def plainEnv : Env := ⟨fun _ v => v, fun _ => 0, fun _ => 0, 0⟩

/-- A feeder job between two pages of three rows of two pixels; the next page has its second row,
and then the device ends the job. -/
def betweenPages : Session where
  host :=
    { h := { Handle.zero with
        params := ⟨.gray, true, 8, 2, 3, 2⟩, scanning := true, locked := true, feeding := true
        gamma := id }
      valid := true, allocs := [], ditherReady := false }
  inp :=
    { inStream := HostFrame.encode ⟨evtData, [0, 1, 1, 1, 2, 0].flatMap putBe32 ++ [10, 20]⟩ ++
        HostFrame.encode ⟨evtJobEnd, []⟩
      inSched := List.replicate 8 ⟨.success, 64⟩ }
  outp := ⟨[], [], []⟩

theorem saneStart_reads_page_betweenPages :
    (delivered (runCalls plainEnv [.read 3, .read 10, .read 10]
      (saneStart plainEnv betweenPages).2).1).length = 6 := by
  have hstart : saneStart plainEnv betweenPages = (.ok (), (saneStart plainEnv betweenPages).2) :=
    eq_ok (by rfl)
  obtain ⟨-, -, -, h⟩ := saneStart_reads_page plainEnv hstart [.read 3, .read 10, .read 10] (by decide)
  exact h (by decide) 5 (by rfl)

end PantumOpen.Scan
