import PantumOpen.Scan.Rows
import PantumOpen.Scan.Schedule

/-! What each step of a job can do to the handle and which frames it sends, whatever the device
answers. -/

namespace PantumOpen.Scan
open Prog Bytes

variable {α : Type}

theorem wp_onInp {m : Prog Status Inp α} {Q : Except Status α → Session → Prop} {s : Session}
    (h : ∀ r i, Q r { s with inp := i }) : wp (onInp m) Q s := h _ _

theorem wp_onInp_ignore {m : Prog Status Inp α} {Q : Except Status Unit → Session → Prop}
    {s : Session} (h : ∀ i, Q (.ok ()) { s with inp := i }) : wp (onInp (ignore m)) Q s := h _

@[simp] theorem wp_setHandle (f : Handle → Handle) (Q : Except Status Unit → Session → Prop)
    (s : Session) : wp (setHandle f) Q s ↔ Q (.ok ()) (s.onHandle f) := Iff.rfl

@[simp] theorem wp_getHandle (Q : Except Status Handle → Session → Prop) (s : Session) :
    wp getHandle Q s ↔ Q (.ok s.host.h) s := Iff.rfl

/-- The host state is as it was and the frames `fs` were passed to `send_frame`. -/
structure Sent (s s' : Session) (fs : List HostFrame) : Prop where
  host : s'.host = s.host
  sent : s'.outp.sent = s.outp.sent ++ fs

theorem Sent.refl (s : Session) : Sent s s [] := ⟨rfl, (List.append_nil _).symm⟩

theorem Sent.trans {s t u : Session} {fs gs : List HostFrame} (a : Sent s t fs) (b : Sent t u gs) :
    Sent s u (fs ++ gs) :=
  ⟨b.host.trans a.host, by rw [b.sent, a.sent, List.append_assoc]⟩

theorem Sent.inp {s t : Session} {fs : List HostFrame} (a : Sent s t fs) (i : Inp) :
    Sent s { t with inp := i } fs := ⟨a.host, a.sent⟩

theorem bulkOut_sent (buf : List UInt8) (o : Outp) :
    wp (bulkOut buf) (fun _ o' => o'.sent = o.sent) o := by
  rcases o with ⟨_ | ⟨x, xs⟩, stream, sent⟩ <;> rfl

theorem usbWrite_sent (buf : List UInt8) (o : Outp) :
    wp (usbWrite buf) (fun _ o' => o'.sent = o.sent) o := by
  refine wp_loop (fun _ o' => o'.sent = o.sent) ?_ (fun _ o' h => (wp_pure () _ o').mpr h) _ rfl
  intro done o₁ h₁
  rw [wp_ite]
  refine ⟨fun _ => ?_, fun _ => h₁⟩
  rw [wp_bind]
  have hretry : wp (retry (bulkOut (buf.drop done)) 0 3) (fun _ o' => o'.sent = o.sent) o₁ := by
    refine wp_loop (fun _ o' => o'.sent = o.sent) ?_ (fun a o' h => (wp_pure a _ o').mpr h) _ h₁
    intro _ o₂ h₂
    rw [wp_bind]
    apply wp_mono (bulkOut_sent _ o₂)
    intro r o₃ h₃
    match r with
    | .error _ => exact h₃.trans h₂
    | .ok _ => rw [after_ok, wp_ite]; exact ⟨fun _ => h₃.trans h₂, fun _ => h₃.trans h₂⟩
  apply wp_mono hretry
  intro r o₂ h₂
  match r with
  | .error _ => exact h₂
  | .ok _ => rw [after_ok, wp_ite]; exact ⟨fun _ => h₂, fun _ => h₂⟩

theorem sendFrame_sent (cmd : Nat) (payload : List UInt8) (s : Session) :
    wp (onOutp (sendFrame cmd payload)) (fun _ s' => Sent s s' [⟨cmd, payload⟩]) s := by
  rw [onOutp, wp_zoom]
  unfold sendFrame
  rw [wp_bind, wp_modify, after_ok, wp_ite]
  exact ⟨fun _ => ⟨rfl, rfl⟩, fun _ => wp_mono (usbWrite_sent _ _) fun _ _ h => ⟨rfl, h⟩⟩

theorem commandAck_sent (cmd : Nat) (payload : List UInt8) (reply : Option Nat) (s : Session) :
    wp (commandAck cmd payload reply) (fun _ s' => Sent s s' [⟨cmd, payload⟩]) s := by
  unfold commandAck
  rw [wp_bind]
  apply wp_mono (sendFrame_sent cmd payload s)
  intro r s₁ h₁
  match r with
  | .error _ => exact h₁
  | .ok _ =>
    rw [after_ok, wp_bind]
    apply wp_onInp
    intro r i
    match r with
    | .error _ => exact h₁.inp i
    | .ok f =>
      rw [after_ok, wp_bind]
      apply wp_onInp
      intro r i
      match r with
      | .error _ => exact h₁.inp i
      | .ok _ => exact h₁.inp i

theorem wp_ofStatus {σ : Type} (st : Status) {Q : Except Status Unit → σ → Prop} {s : σ}
    (hok : st = .good → Q (.ok ()) s) (herr : st ≠ .good → Q (.error st) s) :
    wp (ofStatus st) Q s := by
  unfold ofStatus
  rw [wp_ite]
  exact ⟨hok, herr⟩

theorem command_sent (cmd : Nat) (payload : List UInt8) (reply : Option Nat) (s : Session) :
    wp (command cmd payload reply) (fun _ s' => Sent s s' [⟨cmd, payload⟩]) s := by
  unfold command
  rw [wp_bind]
  apply wp_mono (commandAck_sent cmd payload reply s)
  intro r s₁ h₁
  match r with
  | .error _ => exact h₁
  | .ok _ =>
    rw [after_ok, wp_bind]
    exact wp_ofStatus _ (fun _ => h₁) fun _ => h₁

theorem sendUnlock_sent (s : Session) :
    wp sendUnlock (fun _ s' => Sent s s' [⟨cmdUnlock, []⟩]) s := by
  unfold sendUnlock
  rw [wp_bind]
  apply wp_mono (sendFrame_sent _ _ s)
  intro r s₁ h₁
  match r with
  | .error _ => exact h₁
  | .ok _ =>
    rw [after_ok, wp_bind]
    apply wp_onInp
    intro r i
    match r with
    | .error _ => exact h₁.inp i
    | .ok f =>
      rw [after_ok]
      exact wp_onInp fun _ j => h₁.inp j

theorem checkAdf_sent (s : Session) :
    wp checkAdf (fun _ s' => Sent s s' [⟨cmdAdfStatus, []⟩]) s := by
  unfold checkAdf
  rw [wp_bind]
  apply wp_mono (sendFrame_sent _ _ s)
  intro r s₁ h₁
  match r with
  | .error _ => exact h₁
  | .ok _ =>
    rw [after_ok, wp_bind]
    apply wp_onInp
    intro r i
    match r with
    | .error _ => exact h₁.inp i
    | .ok f =>
      rw [after_ok, wp_bind]
      apply wp_onInp
      intro r j
      match r with
      | .error _ => exact h₁.inp j
      | .ok _ => rw [after_ok, wp_ite]; exact ⟨fun _ => h₁.inp j, fun _ => h₁.inp j⟩

def Handle.unlocked (h : Handle) : Handle := { h with feeding := false, locked := false }

def Handle.unlockFrames (h : Handle) : List HostFrame :=
  if h.locked then [⟨cmdUnlock, []⟩] else []

theorem unlockDevice_spec (s : Session) :
    wp unlockDevice (fun r s' => r = .ok () ∧ s'.host = s.host.onHandle Handle.unlocked ∧
      s'.outp.sent = s.outp.sent ++ s.host.h.unlockFrames) s := by
  unfold unlockDevice Handle.unlockFrames
  rw [wp_bind, wp_setHandle, after_ok, wp_bind, wp_getHandle, after_ok, wp_ite]
  refine ⟨fun hl => ?_, fun hl => ?_⟩
  · rw [wp_bind, wp_setHandle, after_ok, wp_ignore]
    refine wp_mono (sendUnlock_sent _) fun _ s₁ h₁ => ⟨rfl, h₁.host, ?_⟩
    have hl' : s.host.h.locked = true := hl
    rw [if_pos hl']
    exact h₁.sent
  · have hl' : s.host.h.locked = false := Bool.eq_false_of_not_eq_true hl
    refine ⟨rfl, ?_, ?_⟩
    · change s.host.onHandle (fun h => { h with feeding := false }) = _
      unfold Host.onHandle Handle.unlocked
      rw [← hl']
    · change s.outp.sent = _
      rw [if_neg (by rw [hl']; decide), List.append_nil]

def Handle.abandoned (h : Handle) : Handle := { h.unlocked with scanning := false }

theorem giveUp_spec (st : Status) (s : Session) :
    wp (giveUp st : Prog Status Session α) (fun r s' => r = .error st ∧
      s'.host = s.host.onHandle Handle.unlocked ∧
      s'.outp.sent = s.outp.sent ++ s.host.h.unlockFrames) s := by
  unfold giveUp
  rw [wp_bind]
  apply wp_mono (unlockDevice_spec _)
  rintro _ s₁ ⟨rfl, hh, ho⟩
  exact ⟨rfl, hh, ho⟩

structure Abandoned (s s' : Session) : Prop where
  host : s'.host = s.host.onHandle Handle.abandoned
  sent : s'.outp.sent = s.outp.sent ++ s.host.h.unlockFrames
  sched : s'.sched <:+ s.sched

theorem abandon_spec (st : Status) (s : Session) :
    wp (abandon st : Prog Status Session α) (fun r s' => r = .error st ∧ Abandoned s s') s := by
  unfold abandon
  rw [wp_bind, wp_setHandle, after_ok]
  apply wp_mono (wp_and (giveUp_spec st _) (consumes_giveUp st _))
  rintro r s' ⟨⟨hr, hh, ho⟩, hs⟩
  exact ⟨hr, hh, ho, hs⟩

/-! ### Frames from the device -/

/-- Rows were queued, at most to the end of the page; nothing else changed on the host. -/
structure Queued (s s' : Session) : Prop where
  control : SameControl s.host.h s'.host.h
  valid : s'.host.valid = s.host.valid
  outp : s'.outp = s.outp
  mono : s.host.h.nextRow ≤ s'.host.h.nextRow
  page : s'.host.h.nextRow ≤ max s.host.h.nextRow s.host.h.params.lines
  rewound : s.host.h.outPos = 0 → s'.host.h.outPos = 0
  queue : s.host.h.Queue → s'.host.h.Queue ∧ ∃ rows, s'.host.h.pending = s.host.h.pending ++ rows ∧
    rows.length = (s'.host.h.nextRow - s.host.h.nextRow) * s.host.h.params.bytesPerLine

theorem Queued.of_emits {f : Nat → List UInt8} {s s' : Session}
    (hf : ∀ r, (f r).length = s.host.h.params.bytesPerLine) (he : Emits f s.host s'.host)
    (hp : s'.host.h.nextRow ≤ max s.host.h.nextRow s.host.h.params.lines)
    (ho : s'.outp = s.outp) : Queued s s' where
  control := he.control
  valid := he.valid
  outp := ho
  mono := he.mono
  page := hp
  rewound := he.rewound
  queue hq := ⟨(he.queue hq).1, _, (he.queue hq).2, concatRange_length fun r _ _ => hf r⟩

theorem Queued.inp (s : Session) (i : Inp) : Queued s { s with inp := i } where
  control := .refl _
  valid := rfl
  outp := rfl
  mono := le_rfl
  page := Nat.le_max_left _ _
  rewound := id
  queue hq := ⟨hq, [], by simp, by simp⟩

theorem Queued.trans {s t u : Session} (a : Queued s t) (b : Queued t u) : Queued s u where
  control := a.control.trans b.control
  valid := b.valid.trans a.valid
  outp := b.outp.trans a.outp
  mono := a.mono.trans b.mono
  page := by
    have hp := b.page
    rw [a.control.params] at hp
    exact hp.trans (max_le a.page (Nat.le_max_right _ _))
  rewound h := b.rewound (a.rewound h)
  queue hq := by
    obtain ⟨ht, xs, hx, hxl⟩ := a.queue hq
    obtain ⟨hu, ys, hy, hyl⟩ := b.queue ht
    refine ⟨hu, xs ++ ys, by rw [hy, hx, List.append_assoc], ?_⟩
    rw [a.control.params] at hyl
    rw [List.length_append, hxl, hyl, ← Nat.add_mul]
    have hm := a.mono
    have hm' := b.mono
    congr 1
    omega

theorem Queued.inp_right {s t : Session} (h : Queued s t) (i : Inp) :
    Queued s { t with inp := i } := h.trans (.inp t i)

theorem blockRow_length (env : Env) (h : Handle) (b : Block) (r : Nat) :
    (blockRow env h b r).length = h.params.bytesPerLine := by
  unfold blockRow Parameters.whiteLine
  split <;> simp

theorem Block.target_le (b : Block) (lines next : Nat) : b.target lines next ≤ max next lines := by
  unfold Block.target
  omega

theorem EmitPost.queued {f : Nat → List UInt8} {target : Nat} {s s' : Session}
    {r : Except Status Unit} (h : EmitPost f target s.host r s'.host)
    (hf : ∀ r, (f r).length = s.host.h.params.bytesPerLine)
    (ht : target ≤ max s.host.h.nextRow s.host.h.params.lines) (ho : s'.outp = s.outp) :
    Queued s s' := by
  match r, h with
  | .ok _, ⟨he, hn⟩ => exact .of_emits hf he (hn.trans_le ht) ho
  | .error _, ⟨_, _, he, hn⟩ => exact .of_emits hf he (hn.trans ht) ho

theorem rawReserve_spec (f : Nat → List UInt8) (body : Nat) (s : Host) :
    wp (rawReserve body) (fun r s' => (∃ b, r = .ok b ∧ (b = false → false ∈ s.allocs)) ∧
      Emits f s s' ∧ s'.h.nextRow = s.h.nextRow) s := by
  unfold rawReserve
  rw [wp_bind, wp_gets, after_ok, wp_ite]
  refine ⟨fun _ => ?_, fun _ => ⟨⟨true, rfl, fun h => by cases h⟩, .refl f s, rfl⟩⟩
  rw [wp_bind]
  apply wp_mono (alloc_spec s)
  rintro _ ⟨h, v, as, d⟩ ⟨b, rfl, rfl, hv, hd, hs, hb⟩
  have he : Emits f s ⟨s.h, v, as, d⟩ := .of_handle rfl hv hd hs rfl id fun hq => ⟨hq, rfl⟩
  rw [after_ok, wp_ite]
  refine ⟨fun _ => ?_, fun hbf => ?_⟩
  · rw [wp_bind, wp_modify, after_ok]
    exact ⟨⟨true, rfl, fun h => by cases h⟩, he.trans
      (.of_handle rfl rfl rfl List.suffix_rfl rfl id fun hq => ⟨hq, rfl⟩), rfl⟩
  · exact ⟨⟨false, rfl, fun _ => hb (Bool.eq_false_of_not_eq_true hbf)⟩, he, rfl⟩

theorem reject_queued {s t : Session} (h : Queued s t) (n : Nat) (e : Status) :
    wp (do onInp (ignore (drainPayload n)); fail e : Prog Status Session Unit)
      (fun _ s' => Queued s s') t := by
  rw [wp_bind]
  apply wp_onInp
  intro r j
  match r with
  | .error _ => exact h.inp_right j
  | .ok _ => exact h.inp_right j

theorem handleDataBlock_queued (env : Env) (plen : Nat) (s : Session) :
    wp (handleDataBlock env plen) (fun _ s' => Queued s s') s := by
  unfold handleDataBlock
  rw [wp_ite]
  refine ⟨fun _ => reject_queued (.inp s s.inp) _ _, fun _ => ?_⟩
  rw [wp_bind]
  apply wp_onInp
  intro r i
  match r with
  | .error _ => exact .inp s i
  | .ok head =>
    rw [after_ok]
    dsimp only
    rw [wp_bind, wp_getHandle, after_ok, wp_ite]
    refine ⟨fun _ => reject_queued (.inp s i) _ _, fun _ => ?_⟩
    rw [wp_ite]
    refine ⟨fun _ => reject_queued (.inp s i) _ _, fun _ => ?_⟩
    rw [wp_ite]
    refine ⟨fun _ => reject_queued (.inp s i) _ _, fun _ => ?_⟩
    rw [wp_bind, onHost, wp_zoom]
    -- The bytes of the rows do not matter here, only that they are whole rows.
    refine wp_mono (rawReserve_spec
      (fun _ => List.replicate s.host.h.params.bytesPerLine 0) _ _) ?_
    rintro _ t ⟨⟨b, rfl, -⟩, he, hn⟩
    have hq : Queued s { s with inp := i, host := t } :=
      .of_emits (by simp) he (hn.trans_le (Nat.le_max_left _ _)) rfl
    rw [after_ok, wp_ite]
    refine ⟨fun _ => ?_, fun _ => reject_queued hq _ _⟩
    rw [wp_bind]
    apply wp_onInp
    intro r j
    match r with
    | .error _ => exact hq.inp_right j
    | .ok raw =>
      rw [after_ok, onHost, wp_zoom]
      apply wp_mono (placeBlock_spec env _ (getBe32_lt _ _) (getBe32_lt _ _) _)
      intro r u hu
      apply (hq.inp_right j).trans
      exact EmitPost.queued hu (blockRow_length env _ _) (Block.target_le _ _ _) rfl

def Handle.jobDone (h : Handle) : Handle := { h.abandoned with eof := true }

def Handle.pageDone (h : Handle) : Handle := { h with eof := true, feeding := true }

theorem SameControl.unlockFrames {h h' : Handle} (a : SameControl h h') :
    h'.unlockFrames = h.unlockFrames := (congrArg Handle.unlockFrames a.eq).trans rfl

structure Aborted (report : Bool) (s : Session) (r : Except Status Pumped) (s' : Session) :
    Prop where
  host : s'.host = s.host.onHandle Handle.abandoned
  sent : s'.outp.sent = s.outp.sent ++ s.host.h.unlockFrames
  result : if report then ∃ st, r = .ok (.aborted st) else ∃ e, r = .error e

/-- The page was filled up with white, as far as memory allowed, and `f` was done to the handle. -/
structure PageFilled (f : Handle → Handle) (s : Session) (r : Except Status Pumped)
    (s' : Session) : Prop where
  filled : ∃ u st, EmitPost (fun _ => s.host.h.params.whiteLine)
    (max s.host.h.nextRow s.host.h.params.lines) s.host st u ∧ s'.host = u.onHandle f ∧
    ((st = .ok () ∧ r = .ok .done) ∨ ∃ e, st = .error e ∧ r = .error e)

theorem PageFilled.result {f : Handle → Handle} {s s' : Session} {r : Except Status Pumped}
    (h : PageFilled f s r s') : r = .ok .done ∨ ∃ e, r = .error e := by
  obtain ⟨_, _, _, _, hr⟩ := h.filled
  exact hr.imp And.right fun ⟨e, _, he⟩ => ⟨e, he⟩

theorem fillPage_spec (env : Env) (s : Session) :
    wp (onHost (emitWhiteRows env s.host.h.params.lines)) (fun r s' => s'.inp = s.inp ∧
      s'.outp = s.outp ∧ EmitPost (fun _ => s.host.h.params.whiteLine)
        (max s.host.h.nextRow s.host.h.params.lines) s.host r s'.host) s := by
  rw [onHost, wp_zoom]
  refine wp_mono (emitWhiteRows_spec (f := fun _ => s.host.h.params.whiteLine) env _
    fun _ _ _ => rfl) fun r u hu => ⟨rfl, rfl, ?_⟩
  change EmitPost _ (max s.host.h.nextRow (min s.host.h.params.lines s.host.h.params.lines)) s.host
    r u at hu
  rwa [min_self] at hu

theorem EmitPost.control {f : Nat → List UInt8} {target : Nat} {s s' : Host}
    {r : Except Status Unit} (h : EmitPost f target s r s') : SameControl s.h s'.h := h.emits.control

theorem jobAborted_spec (report : Bool) (status : Nat) (s : Session) :
    wp (jobAborted report status) (Aborted report s) s := by
  unfold jobAborted
  rw [wp_bind, wp_setHandle, after_ok, wp_bind]
  refine wp_mono (unlockDevice_spec _) ?_
  rintro _ t ⟨rfl, hh, ho⟩
  rw [after_ok, wp_ite]
  refine ⟨fun hr => ⟨hh, ho, ?_⟩, fun hr => ?_⟩
  · rw [if_pos hr]
    exact ⟨status, rfl⟩
  · have hne : (if status ≠ 0 then mapStatus status else Status.ioError) ≠ .good := by
      split_ifs with h0
      · exact mapStatus_ne_good h0
      · decide
    rw [wp_bind]
    refine wp_ofStatus _ (fun h => absurd h hne) fun _ => ⟨hh, ho, ?_⟩
    rw [if_neg hr]
    exact ⟨_, rfl⟩

theorem jobEnded_spec (env : Env) (s : Session) :
    wp (jobEnded env) (fun r s' => PageFilled Handle.jobDone s r s' ∧
      s'.outp.sent = s.outp.sent ++ s.host.h.unlockFrames) s := by
  unfold jobEnded
  rw [wp_bind, wp_getHandle, after_ok, wp_bind, wp_attempt]
  refine wp_mono (fillPage_spec env s) fun r t ⟨_, ho, hu⟩ => ?_
  rw [after_ok, wp_bind, wp_setHandle, after_ok, wp_bind]
  refine wp_mono (unlockDevice_spec _) ?_
  rintro _ u ⟨rfl, hh, hs⟩
  have hsent : u.outp.sent = s.outp.sent ++ s.host.h.unlockFrames := by
    rw [hs, Session.onHandle_outp, ho, ← hu.control.unlockFrames]
    rfl
  rw [after_ok]
  match r, hu with
  | .ok _, hu => exact ⟨⟨t.host, .ok (), hu, hh, .inl ⟨rfl, rfl⟩⟩, hsent⟩
  | .error e, hu => exact ⟨⟨t.host, .error e, hu, hh, .inr ⟨e, rfl, rfl⟩⟩, hsent⟩

theorem pageEnded_spec (env : Env) (s : Session) :
    wp (pageEnded env) (fun r s' => s'.inp = s.inp ∧ s'.outp = s.outp ∧
      (s.host.h.val.sourceIsAdf = true → PageFilled Handle.pageDone s r s') ∧
      (s.host.h.val.sourceIsAdf = false → r = .ok .done ∧ s' = s)) s := by
  unfold pageEnded
  rw [wp_bind, wp_getHandle, after_ok, wp_ite]
  refine ⟨fun hadf => ?_, fun hadf => ⟨rfl, rfl, fun h => absurd h hadf, fun _ => ⟨rfl, rfl⟩⟩⟩
  have hflat (p : Prop) (h : s.host.h.val.sourceIsAdf = false) : p := by
    rw [hadf] at h
    cases h
  rw [wp_bind, wp_attempt]
  refine wp_mono (fillPage_spec env s) fun r t ⟨hi, ho, hu⟩ => ?_
  rw [after_ok, wp_bind, wp_setHandle, after_ok]
  match r, hu with
  | .ok _, hu => exact ⟨hi, ho, fun _ => ⟨t.host, .ok (), hu, rfl, .inl ⟨rfl, rfl⟩⟩, hflat _⟩
  | .error e, hu => exact ⟨hi, ho, fun _ => ⟨t.host, .error e, hu, rfl, .inr ⟨e, rfl, rfl⟩⟩, hflat _⟩

/-- What reading one frame does to the host, whatever the frame is. -/
inductive FrameEffect (report : Bool) (s : Session) : Except Status Pumped → Session → Prop
  | kept {r : Except Status Pumped} {s' : Session} (hq : Queued s s')
      (hr : ∀ st, r ≠ .ok (.aborted st)) : FrameEffect report s r s'
  | aborted {r : Except Status Pumped} {s' : Session}
      (hh : s'.host = s.host.onHandle Handle.abandoned)
      (ho : s'.outp.sent = s.outp.sent ++ s.host.h.unlockFrames)
      (hr : if report then ∃ st, r = .ok (.aborted st) else ∃ e, r = .error e) :
      FrameEffect report s r s'
  | jobEnd {r : Except Status Pumped} {t s' : Session} (hq : Queued s t)
      (hh : s'.host = t.host.onHandle Handle.jobDone)
      (ho : s'.outp.sent = s.outp.sent ++ s.host.h.unlockFrames)
      (hr : (r = .ok .done ∧ t.host.h.nextRow = max s.host.h.nextRow s.host.h.params.lines) ∨
        ∃ e, r = .error e) : FrameEffect report s r s'
  | pageEnd {r : Except Status Pumped} {t s' : Session} (hq : Queued s t)
      (hadf : s.host.h.val.sourceIsAdf = true)
      (hh : s'.host = t.host.onHandle Handle.pageDone)
      (ho : s'.outp = t.outp)
      (hr : (r = .ok .done ∧ t.host.h.nextRow = max s.host.h.nextRow s.host.h.params.lines) ∨
        ∃ e, r = .error e) : FrameEffect report s r s'

theorem FrameEffect.inp_left {report : Bool} {s s' : Session} {i : Inp}
    {r : Except Status Pumped} (h : FrameEffect report { s with inp := i } r s') :
    FrameEffect report s r s' := by
  cases h with
  | kept hq hr => exact .kept ((Queued.inp s i).trans hq) hr
  | aborted hh ho hr => exact .aborted hh ho hr
  | jobEnd hq hh ho hr => exact .jobEnd ((Queued.inp s i).trans hq) hh ho hr
  | pageEnd hq hadf hh ho hr => exact .pageEnd ((Queued.inp s i).trans hq) hadf hh ho hr

theorem PageFilled.queued {f : Handle → Handle} {s s' : Session} {r : Except Status Pumped}
    (h : PageFilled f s r s') : ∃ t, Queued s t ∧ t.outp = s.outp ∧ s'.host = t.host.onHandle f ∧
      ((r = .ok .done ∧ t.host.h.nextRow = max s.host.h.nextRow s.host.h.params.lines) ∨
        ∃ e, r = .error e) := by
  obtain ⟨u, st, hu, hh, hr⟩ := h.filled
  refine ⟨{ s with host := u }, EmitPost.queued hu (fun _ => by simp [Parameters.whiteLine]) le_rfl
    rfl, rfl, hh, ?_⟩
  obtain ⟨rfl, hr⟩ | ⟨e, _, hr⟩ := hr
  · exact .inl ⟨hr, hu.2⟩
  · exact .inr ⟨e, hr⟩

theorem after_done {report : Bool} {s s' : Session} (r : Except Status Unit)
    (h : Queued s s') :
    After (fun _ => pure Pumped.done) (FrameEffect report s) r s' := by
  match r with
  | .error _ => exact .kept h fun _ hr => by cases hr
  | .ok _ => exact .kept h fun _ hr => by cases hr

theorem handleFrame_effect (env : Env) (report : Bool) (f : Frame) (s : Session) :
    wp (handleFrame env report f) (FrameEffect report s) s := by
  unfold handleFrame
  rw [wp_ite]
  refine ⟨fun _ => ?_, fun _ => ?_⟩
  · rw [wp_bind]
    exact wp_mono (handleDataBlock_queued env f.plen s) fun r _ h => after_done r h
  rw [wp_ite]
  refine ⟨fun _ => ?_, fun _ => ?_⟩
  · rw [wp_bind]
    apply wp_onInp_ignore
    intro i
    rw [after_ok]
    exact wp_mono (jobAborted_spec report f.status { s with inp := i }) fun _ _ h =>
      .aborted h.host h.sent h.result
  rw [wp_ite]
  refine ⟨fun _ => ?_, fun _ => ?_⟩
  · rw [wp_bind]
    apply wp_onInp_ignore
    intro i
    rw [after_ok]
    refine wp_mono (jobEnded_spec env { s with inp := i }) fun _ _ ⟨h, ho⟩ => ?_
    obtain ⟨t, hq, _, hh, hr⟩ := h.queued
    exact (FrameEffect.jobEnd hq hh ho hr).inp_left
  rw [wp_ite]
  refine ⟨fun _ => ?_, fun _ => ?_⟩
  · rw [wp_bind]
    apply wp_onInp_ignore
    intro i
    rw [after_ok]
    refine wp_mono (pageEnded_spec env { s with inp := i }) fun r u ⟨_, ho, hfill, hflat⟩ => ?_
    -- In a feeder the end of a page fills it up; on the flatbed it is ignored.
    cases hadf : s.host.h.val.sourceIsAdf with
    | true =>
      obtain ⟨t, hq, hto, hh, hr⟩ := (hfill hadf).queued
      exact (FrameEffect.pageEnd hq hadf hh (ho.trans hto.symm) hr).inp_left
    | false =>
      obtain ⟨rfl, rfl⟩ := hflat hadf
      exact .kept (.inp s i) nofun
  rw [wp_ite]
  refine ⟨fun _ => ?_, fun _ => ?_⟩
  · rw [wp_bind]
    exact wp_onInp fun r i => after_done r (.inp s i)
  · rw [wp_bind]
    exact wp_onInp fun r i => after_done r (.inp s i)

theorem pumpFrame_effect (env : Env) (probe report : Bool) (s : Session) :
    wp (pumpFrame env probe report) (FrameEffect report s) s := by
  unfold pumpFrame
  rw [wp_bind]
  apply wp_onInp
  intro r i
  match r with
  | .error _ => exact .kept (.inp s i) fun _ hr => by cases hr
  | .ok none => exact .kept (.inp s i) fun _ hr => by cases hr
  | .ok (some f) =>
    rw [after_ok]
    exact wp_mono (handleFrame_effect env report f { s with inp := i }) fun _ _ h => h.inp_left

/-- What a transfer, a malformed frame or a lack of memory leads to. -/
def Status.Broken (e : Status) : Prop := e = .ioError ∨ e = .noMem ∨ e = .unsupported

/-- What goes wrong while a frame is read: never a status that stands for an ordinary end. -/
def Status.Fault (e : Status) : Prop := e ≠ .good ∧ e ≠ .eof ∧ e ≠ .cancelled ∧ e ≠ .inval

theorem broken_ioError : Status.Broken .ioError := .inl rfl

theorem broken_noMem : Status.Broken .noMem := .inr (.inl rfl)

theorem broken_unsupported : Status.Broken .unsupported := .inr (.inr rfl)

theorem Status.Broken.fault {e : Status} (h : e.Broken) : e.Fault := by
  unfold Fault
  obtain rfl | rfl | rfl := h <;> decide

theorem fault_mapStatus (status : Nat) (h : status ≠ 0) : (mapStatus status).Fault := by
  unfold mapStatus Status.Fault
  split <;> first | exact absurd rfl h | decide

theorem fails_usbRead (len : Nat) : Fails Status.Broken (usbRead len) := by
  refine fails_loop (fun buf => fails_ite (fails_bind ?_ fun r => ?_) (fails_pure _))
    (fun _ => fails_pure _) _ _
  · exact fails_loop (fun _ => fails_bind (fun i => by
      rcases i with ⟨_, _ | ⟨_, _⟩⟩ <;> exact fun _ he => by cases he)
      fun _ => fails_ite (fails_pure _) (fails_pure _)) (fun _ => fails_pure _) _ _
  · exact fails_ite (fails_fail broken_ioError) (fails_pure _)

theorem fails_drainPayload (plen : Nat) : Fails Status.Broken (drainPayload plen) :=
  fails_loop (fun _ => fails_ite (fails_pure _) (fails_bind (fails_usbRead _) fun _ => fails_pure _))
    (fun _ => fails_pure _) _ _

theorem fails_recvHeader (got : List UInt8) : Fails Status.Broken (recvHeader got) :=
  fails_bind (fails_usbRead _) fun _ =>
    fails_ite (fails_fail broken_ioError) (fails_ite (fails_fail broken_ioError) (fails_pure _))

theorem fails_recvFrameProbe : Fails Status.Broken recvFrameProbe := by
  refine fails_bind (fun i => ?_) fun r => fails_ite (fails_fail broken_ioError)
    (fails_ite (fails_pure _) (fails_bind (fails_recvHeader _) fun _ => fails_pure _))
  rcases i with ⟨_, _ | ⟨_, _⟩⟩ <;> exact fun _ he => by cases he

theorem fails_emitPost {m : Prog Status Host Unit}
    (h : ∀ s, ∃ f target, wp m (EmitPost f target s) s) : Fails Status.Broken m := by
  intro s
  obtain ⟨_, _, hm⟩ := h s
  apply wp_mono hm
  intro r _ hr e he
  subst he
  rw [hr.1]
  exact broken_noMem

theorem fails_fillPage (env : Env) (upto : Nat) : Fails Status.Broken (emitWhiteRows env upto) :=
  fails_emitPost fun s => ⟨_, _, emitWhiteRows_spec (f := fun _ => s.h.params.whiteLine) env upto
    fun _ _ _ => rfl⟩

theorem fails_handleDataBlock (env : Env) (plen : Nat) :
    Fails Status.Broken (handleDataBlock env plen) := by
  have hreject (n : Nat) {e : Status} (he : e.Broken) :
      Fails Status.Broken (do onInp (ignore (drainPayload n)); fail e : Prog Status Session Unit) :=
    fails_bind (fails_zoom _ (fails_ignore _)) fun _ => fails_fail he
  refine fails_ite (hreject _ broken_ioError) (fails_bind (fails_zoom _ (fails_usbRead _))
    fun head => fails_bind (fails_gets _) fun h => ?_)
  refine fails_ite (hreject _ broken_unsupported) (fails_ite (hreject _ broken_ioError)
    (fails_ite (hreject _ broken_ioError) (fails_bind (fails_zoom _ ?_) fun b => fails_ite ?_
      (hreject _ broken_noMem))))
  · intro s
    apply wp_mono (rawReserve_spec (fun _ => []) _ s)
    rintro _ _ ⟨⟨b, rfl, -⟩, -⟩ e he
    cases he
  · exact fails_bind (fails_zoom _ (fails_usbRead _)) fun raw => fails_zoom _ (fails_emitPost
      fun s => ⟨_, _, placeBlock_spec env _ (getBe32_lt _ _) (getBe32_lt _ _) s⟩)

theorem fails_unlockDevice {P : Status → Prop} : Fails P unlockDevice :=
  fails_bind (fails_modify _) fun _ => fails_bind (fails_gets _) fun _ =>
    fails_ite (fails_bind (fails_modify _) fun _ => fails_ignore _) (fails_pure _)

theorem fails_ofStatus {σ : Type} {P : Status → Prop} {st : Status} (h : st ≠ .good → P st) :
    Fails P (ofStatus st : Prog Status σ Unit) := by
  unfold ofStatus
  split
  · exact fails_pure _
  · rename_i hne
    exact fails_fail (h hne)

theorem fails_pass {P : Status → Prop} (r : Except Status Unit) : (∀ e, r = .error e → P e) →
    Fails P (match r with
      | .ok _ => pure Pumped.done
      | .error e => fail e : Prog Status Session Pumped) := by
  cases r with
  | ok _ => exact fun _ => fails_pure _
  | error e => exact fun hr => fails_fail (hr e rfl)

theorem fails_jobAborted (report : Bool) (status : Nat) :
    Fails Status.Fault (jobAborted report status) := by
  refine fails_bind (fails_modify _) fun _ => fails_bind fails_unlockDevice fun _ =>
    fails_ite (fails_pure _) (fails_bind (fails_ofStatus fun _ => ?_) fun _ => fails_pure _)
  split_ifs with h0
  · exact fault_mapStatus _ h0
  · exact broken_ioError.fault

/-- A caller that asks for aborts is told of them without an error. -/
theorem fails_jobAborted_report {P : Status → Prop} (status : Nat) :
    Fails P (jobAborted true status) :=
  fails_bind (fails_modify _) fun _ => fails_bind fails_unlockDevice fun _ => fails_pure _

theorem fails_jobEnded (env : Env) : Fails Status.Broken (jobEnded env) :=
  fails_bind (fails_gets _) fun _ => fails_bind_attempt (fails_zoom _ (fails_fillPage env _))
    fun r hr => fails_bind (fails_modify _) fun _ => fails_bind fails_unlockDevice fun _ =>
      fails_pass r hr

theorem fails_pageEnded (env : Env) : Fails Status.Broken (pageEnded env) :=
  fails_bind (fails_gets _) fun _ => fails_ite
    (fails_bind_attempt (fails_zoom _ (fails_fillPage env _)) fun r hr =>
      fails_bind (fails_modify _) fun _ => fails_pass r hr) (fails_pure _)

section
variable {P : Status → Prop} (hP : ∀ e : Status, e.Broken → P e) {report : Bool}
  (hA : ∀ status, Fails P (jobAborted report status)) (env : Env)
include hP hA

theorem fails_handleFrame (f : Frame) : Fails P (handleFrame env report f) := by
  have hdrop : Fails P (onInp (ignore (drainPayload f.plen))) := fails_zoom _ (fails_ignore _)
  exact fails_ite (fails_bind ((fails_handleDataBlock env _).mono hP) fun _ => fails_pure _)
    (fails_ite (fails_bind hdrop fun _ => hA _) (fails_ite
      (fails_bind hdrop fun _ => (fails_jobEnded env).mono hP) (fails_ite
        (fails_bind hdrop fun _ => (fails_pageEnded env).mono hP) (fails_ite
          (fails_bind (fails_zoom _ (fails_ite ((fails_drainPayload _).mono hP)
            (fails_bind ((fails_usbRead _).mono hP) fun _ => fails_pure _))) fun _ => fails_pure _)
          (fails_bind (fails_zoom _ ((fails_drainPayload _).mono hP)) fun _ => fails_pure _)))))

theorem fails_pumpFrame (probe : Bool) : Fails P (pumpFrame env probe report) := by
  refine fails_bind (fails_zoom _ ?_) fun f => ?_
  · split
    · exact fails_recvFrameProbe.mono hP
    · exact fails_bind ((fails_recvHeader []).mono hP) fun _ => fails_pure _
  · match f with
    | none => exact fails_pure _
    | some f => exact fails_handleFrame hP hA env f

end

/-! ### The handshake of a job and its end -/

/-- Whether the last lock or unlock request in `sent` is a lock. -/
def lockOwed (sent : List HostFrame) : Bool :=
  sent.foldl (fun owed f => if f.cmd = cmdLock then true else if f.cmd = cmdUnlock then false
    else owed) false

theorem lockOwed_append (sent : List HostFrame) (f : HostFrame) :
    lockOwed (sent ++ [f]) = if f.cmd = cmdLock then true else if f.cmd = cmdUnlock then false
      else lockOwed sent := by
  simp only [lockOwed, List.foldl_append, List.foldl_cons, List.foldl_nil]

/-- `locked` tells what the device was asked last. -/
def Session.LockSent (s : Session) : Prop := s.host.h.locked = lockOwed s.outp.sent

theorem Handle.lockOwed_unlockFrames {h : Handle} {sent : List HostFrame}
    (hl : h.locked = lockOwed sent) : lockOwed (sent ++ h.unlockFrames) = false := by
  unfold unlockFrames
  split
  · rw [lockOwed_append]
    rfl
  · rename_i hf
    rw [List.append_nil, ← hl]
    exact Bool.eq_false_of_not_eq_true hf

theorem Session.LockSent.of_unlock {s s' : Session} (f : Handle → Handle)
    (hf : ∀ h, (f h).locked = false) (hs : s.LockSent) (hh : s'.host = s.host.onHandle f)
    (ho : s'.outp.sent = s.outp.sent ++ s.host.h.unlockFrames) : s'.LockSent := by
  unfold Session.LockSent
  rw [ho, hh, Handle.lockOwed_unlockFrames hs]
  exact hf _

theorem giveUp_lockSent (st : Status) (s : Session) :
    wp (giveUp st : Prog Status Session α) (fun r s' => r = .error st ∧
      s'.host = s.host.onHandle Handle.unlocked ∧ (s.LockSent → s'.LockSent)) s :=
  wp_mono (giveUp_spec st s) fun _ _ ⟨hr, hh, ho⟩ =>
    ⟨hr, hh, fun hs => .of_unlock _ (fun _ => rfl) hs hh ho⟩

theorem Abandoned.lockSent {s s' : Session} (h : Abandoned s s') (hs : s.LockSent) : s'.LockSent :=
  .of_unlock Handle.abandoned (fun _ => rfl) hs h.host h.sent

def Harmless (cmd : Nat) : Prop := cmd ≠ cmdLock ∧ cmd ≠ cmdUnlock

theorem Sent.lockSent {s s' : Session} {cmd : Nat} {payload : List UInt8}
    (h : Sent s s' [⟨cmd, payload⟩]) (hc : Harmless cmd) (hs : s.LockSent) : s'.LockSent := by
  unfold Session.LockSent
  rw [h.host, h.sent, lockOwed_append, if_neg hc.1, if_neg hc.2]
  exact hs

def Handle.withLock (h : Handle) : Handle := { h with locked := true }

theorem commandAck_lock_lockSent (s : Session) :
    wp (commandAck cmdLock [] none) (fun _ s' => s'.host = s.host.onHandle Handle.withLock ∧
      s'.LockSent) (s.onHandle Handle.withLock) := by
  refine wp_mono (commandAck_sent _ _ _ _) fun _ s' h => ⟨h.host, ?_⟩
  unfold Session.LockSent
  rw [h.host, h.sent, lockOwed_append, if_pos rfl]
  rfl

/-- A step of the handshake that succeeds with `f`, or fails with the lock given back. -/
def HandshakePost (f : Handle → Handle) (s : Session) : Except Status Unit → Session → Prop
  | .ok _, s' => s'.host = s.host.onHandle f ∧ (s.LockSent → s'.LockSent)
  | .error _, s' => s'.host = s.host.onHandle Handle.unlocked ∧ (s.LockSent → s'.LockSent)

theorem giveUp_handshake (f : Handle → Handle) (st : Status) {s t : Session}
    (hl : s.LockSent → t.LockSent) (ht : t.host = s.host) :
    wp (giveUp st) (HandshakePost f s) t := by
  apply wp_mono (giveUp_lockSent st t)
  rintro _ u ⟨rfl, hu, hlu⟩
  exact ⟨by rw [hu, ht], hlu ∘ hl⟩

theorem lockDevice_spec (s : Session) : wp lockDevice (HandshakePost Handle.withLock s) s := by
  refine wp_loop (fun _ t => (s.LockSent → t.LockSent) ∧ (t.host = s.host ∨
    t.host = s.host.onHandle Handle.withLock)) ?_ (fun _ t ⟨hl, ht⟩ => ?_) 5 ⟨id, .inl rfl⟩
  · rintro _ t ⟨-, ht⟩
    have hlock : t.host.onHandle Handle.withLock = s.host.onHandle Handle.withLock := by
      rcases ht with ht | ht <;> rw [ht]
      rfl
    rw [wp_bind, wp_setHandle, after_ok, wp_bind, wp_attempt]
    refine wp_mono (commandAck_lock_lockSent t) fun r u ⟨hu, hl⟩ => ?_
    rw [hlock] at hu
    have hround (e : Status) : wp (giveUp e : Prog Status Session (Unit ⊕ Unit))
        (Round (fun _ t => (s.LockSent → t.LockSent) ∧ (t.host = s.host ∨
          t.host = s.host.onHandle Handle.withLock)) (HandshakePost Handle.withLock s)) u := by
      apply wp_mono (giveUp_lockSent e u)
      rintro _ v ⟨rfl, hv, hlv⟩
      exact ⟨by rw [hv, hu]; rfl, fun _ => hlv hl⟩
    rw [after_ok]
    match r with
    | .error e => exact hround e
    | .ok (f, _) =>
      dsimp only
      rw [wp_ite]
      refine ⟨fun _ => ⟨hu, fun _ => hl⟩, fun _ => ?_⟩
      rw [wp_ite]
      exact ⟨fun _ => hround _, fun _ => ⟨fun _ => hl, .inr hu⟩⟩
  · apply wp_mono (giveUp_lockSent .deviceBusy t)
    rintro _ u ⟨rfl, hh, hu⟩
    refine ⟨?_, hu ∘ hl⟩
    rcases ht with ht | ht <;> rw [hh, ht]
    rfl

theorem setupJob_sent (s : Session) :
    wp setupJob (fun _ s' => s'.host = s.host ∧ (s.LockSent → s'.LockSent)) s := by
  unfold setupJob
  rw [wp_bind]
  apply wp_mono (command_sent cmdSetDefaults _ _ s)
  intro r s₁ h₁
  have hs₁ := h₁.lockSent (by unfold Harmless; decide)
  match r with
  | .error _ => exact ⟨h₁.host, hs₁⟩
  | .ok _ =>
    rw [after_ok, wp_bind]
    apply wp_mono (command_sent cmdGetSettings _ _ s₁)
    intro r s₂ h₂
    have hs₂ := h₂.lockSent (by unfold Harmless; decide) ∘ hs₁
    match r with
    | .error _ => exact ⟨h₂.host.trans h₁.host, hs₂⟩
    | .ok settings =>
      rw [after_ok, wp_bind, wp_getHandle, after_ok, wp_bind]
      apply wp_mono (command_sent cmdSetSettings _ _ s₂)
      intro r s₃ h₃
      have hs₃ := h₃.lockSent (by unfold Harmless; decide) ∘ hs₂
      have hh₃ := h₃.host.trans (h₂.host.trans h₁.host)
      match r with
      | .error _ => exact ⟨hh₃, hs₃⟩
      | .ok _ =>
        rw [after_ok, wp_bind]
        apply wp_mono (command_sent cmdStart _ _ s₃)
        intro r s₄ h₄
        have hs₄ := h₄.lockSent (by unfold Harmless; decide) ∘ hs₃
        match r with
        | .error _ => exact ⟨h₄.host.trans hh₃, hs₄⟩
        | .ok _ => exact ⟨h₄.host.trans hh₃, hs₄⟩

def Handle.emptyPage (h : Handle) : Handle :=
  { h with nextRow := 0, out := [], outPos := 0, eof := false }

def Handle.running (h : Handle) : Handle := { h with scanning := true }

theorem requireFeeder_spec (s : Session) : wp requireFeeder (HandshakePost id s) s := by
  unfold requireFeeder
  rw [wp_bind, wp_attempt]
  apply wp_mono (checkAdf_sent s)
  intro r t ht
  have hl := ht.lockSent (by unfold Harmless; decide)
  rw [after_ok]
  match r with
  | .error e => exact giveUp_handshake id e hl ht.host
  | .ok (present, loaded) =>
    dsimp only
    rw [wp_ite]
    exact ⟨fun _ => giveUp_handshake id _ hl ht.host, fun _ => ⟨ht.host, hl⟩⟩

theorem submitJob_spec (s : Session) : wp submitJob (HandshakePost Handle.running s) s := by
  unfold submitJob
  rw [wp_bind, wp_attempt]
  refine wp_mono (setupJob_sent s) fun r t ⟨ht, hl⟩ => ?_
  rw [after_ok]
  match r with
  | .error e => exact giveUp_handshake _ e hl ht
  | .ok _ =>
    have hh : (t.onHandle Handle.running).host = s.host.onHandle Handle.running := by
      rw [← ht]
      rfl
    exact ⟨hh, hl⟩

def Handle.refused (h : Handle) : Handle := h.emptyPage.unlocked

def Handle.accepted (h : Handle) : Handle := h.emptyPage.withLock.running

def BeginPost (s : Session) : Except Status Unit → Session → Prop
  | .ok _, s' => s'.host = s.host.onHandle Handle.accepted ∧ (s.LockSent → s'.LockSent)
  | .error _, s' => s'.host = s.host.onHandle Handle.refused ∧ (s.LockSent → s'.LockSent)

theorem beginJob_spec (s : Session) : wp beginJob (BeginPost s) s := by
  unfold beginJob
  rw [wp_bind, wp_setHandle, after_ok, wp_bind]
  apply wp_mono (lockDevice_spec _)
  intro r s₁ h₁
  match r, h₁ with
  | .error _, ⟨hh, hl⟩ => exact ⟨hh, hl⟩
  | .ok _, ⟨hh, hl⟩ =>
    have hsubmit (t : Session) (hl : s.LockSent → t.LockSent) (ht : t.host = s₁.host) :
        wp submitJob (BeginPost s) t := by
      apply wp_mono (submitJob_spec t)
      intro r u hu
      match r, hu with
      | .ok _, ⟨hu, hlu⟩ => exact ⟨by rw [hu, ht, hh]; rfl, hlu ∘ hl⟩
      | .error _, ⟨hu, hlu⟩ => exact ⟨by rw [hu, ht, hh]; rfl, hlu ∘ hl⟩
    rw [after_ok, wp_bind, wp_getHandle, after_ok, wp_ite]
    refine ⟨fun _ => ?_, fun _ => hsubmit s₁ hl rfl⟩
    rw [wp_bind]
    apply wp_mono (requireFeeder_spec s₁)
    intro r t ht
    match r, ht with
    | .error e, ⟨ht, hlt⟩ => exact ⟨by rw [ht, hh]; rfl, hlt ∘ hl⟩
    | .ok _, ⟨ht, hlt⟩ => exact hsubmit t (hlt ∘ hl) ht

theorem endScan_spec (s : Session) :
    wp endScan (fun r s' => r = .ok () ∧ s'.host = s.host.onHandle Handle.abandoned ∧
      (s.LockSent → s'.LockSent)) s := by
  unfold endScan
  rw [wp_bind, wp_getHandle, after_ok, wp_ite]
  refine ⟨fun _ => ?_, fun hscan => ?_⟩
  · rw [wp_bind, wp_ignore]
    apply wp_mono (sendFrame_sent cmdAbort [] s)
    intro _ t ht
    have hl := ht.lockSent (by unfold Harmless; decide)
    rw [after_ok, wp_bind, wp_ignore]
    apply wp_onInp
    intro _ i
    rw [after_ok, wp_bind, wp_setHandle, after_ok]
    refine wp_mono (unlockDevice_spec _) fun r u ⟨hr, hh, ho⟩ => ⟨hr, ?_⟩
    have hu : u.host = s.host.onHandle Handle.abandoned := by
      rw [hh, ← ht.host]
      rfl
    exact ⟨hu, fun hs => .of_unlock Handle.abandoned (fun _ => rfl) (hl hs) (by rw [hu, ht.host]) ho⟩
  · refine wp_mono (unlockDevice_spec s) fun r u ⟨hr, hh, ho⟩ => ⟨hr, ?_⟩
    have hu : u.host = s.host.onHandle Handle.abandoned := by
      have hf : s.host.h.scanning = false := Bool.eq_false_of_not_eq_true hscan
      rw [hh]
      unfold Host.onHandle Handle.abandoned Handle.unlocked
      rw [← hf]
    exact ⟨hu, fun hs => .of_unlock Handle.abandoned (fun _ => rfl) hs hu ho⟩

/-! ### The two loops over frames -/

def TakeStep (Q : Except Status Pumped → Session → Prop) : Except Status Pumped → Session → Prop
  | .error e, s => ∀ s', Abandoned s s' → Q (.error e) s'
  | .ok p, s => Q (.ok p) s

theorem wp_takeFrame {env : Env} {probe report : Bool} {Q : Except Status Pumped → Session → Prop}
    {s : Session} (h : wp (pumpFrame env probe report) (TakeStep Q) s) :
    wp (takeFrame env probe report) Q s := by
  unfold takeFrame
  rw [wp_bind, wp_attempt]
  apply wp_mono h
  intro r u hu
  rw [after_ok]
  match r, hu with
  | .error e, hu =>
    apply wp_mono (abandon_spec e u)
    rintro _ v ⟨rfl, hv⟩
    exact hu v hv
  | .ok p, hu => exact hu

def Handle.Waiting (h : Handle) : Prop := h.scanning = true ∧ h.out = [] ∧ ¬ h.eof = true

instance (h : Handle) : Decidable h.Waiting := inferInstanceAs (Decidable (_ ∧ _))

def AwaitStep (I : Session → Prop) (Q : Except Status (Option Nat) → Session → Prop) :
    Except Status Pumped → Session → Prop
  | .error e, s => Q (.error e) s
  | .ok (.aborted status), s => Q (.ok (some status)) s
  | .ok .idle, s => I s
  | .ok .done, s => I s

/-- The rule of the wait for the first rows, when `P` is known of the states its rounds begin in. -/
theorem wp_awaitFirstRows_rounds {env : Env} {Q : Except Status (Option Nat) → Session → Prop}
    {P : Session → Prop} (I : Session → Prop)
    (htake : ∀ s, I s → s.host.h.Waiting → P s → wp (takeFrame env false true) (AwaitStep I Q) s)
    (hexit : ∀ s, I s → ¬ s.host.h.Waiting → Q (.ok none) s)
    (hout : ∀ s s', I s → Abandoned s s' → Q (.error .ioError) s') {s : Session}
    (hP : ∀ x ∈ rounds (fun _ => awaitRound env) (s.inp.inSched.length + 1) () s, P x.2)
    (h : I s) : wp (awaitFirstRows env) Q s := by
  unfold awaitFirstRows
  rw [wp_bind, wp_read, after_ok]
  refine wp_loop_rounds (fun _ t => I t) (fun _ t ht hPt => ?_) (fun _ t ht => ?_) _ hP h
  · unfold awaitRound
    rw [wp_bind, wp_getHandle, after_ok, wp_ite]
    refine ⟨fun hw => ?_, fun hw => hexit t ht hw⟩
    rw [wp_bind]
    apply wp_mono (htake t ht hw hPt)
    intro r u hu
    match r, hu with
    | .error e, hu => exact hu
    | .ok (.aborted status), hu => exact hu
    | .ok .idle, hu => exact hu
    | .ok .done, hu => exact hu
  · apply wp_mono (abandon_spec .ioError t)
    rintro _ u ⟨rfl, hu⟩
    exact hout t u ht hu

theorem wp_awaitFirstRows {env : Env} {Q : Except Status (Option Nat) → Session → Prop}
    (I : Session → Prop)
    (htake : ∀ s, I s → s.host.h.Waiting → wp (takeFrame env false true) (AwaitStep I Q) s)
    (hexit : ∀ s, I s → ¬ s.host.h.Waiting → Q (.ok none) s)
    (hout : ∀ s s', I s → Abandoned s s' → Q (.error .ioError) s') {s : Session} (h : I s) :
    wp (awaitFirstRows env) Q s :=
  wp_awaitFirstRows_rounds (P := fun _ => True) I (fun t ht hw _ => htake t ht hw) hexit hout
    (fun _ _ => trivial) h

def Handle.Starved (h : Handle) : Prop := h.outPos = h.out.length ∧ ¬ h.eof = true

instance (h : Handle) : Decidable h.Starved := inferInstanceAs (Decidable (_ ∧ _))

def FillStep (I : Session → Prop) (Q : Except Status Bool → Session → Prop) :
    Except Status Pumped → Session → Prop
  | .error e, s => Q (.error e) s
  | .ok .idle, s => Q (.ok true) s
  | .ok .done, s => I s
  | .ok (.aborted _), s => I s

/-- The rule of the pump loop of a read, when `P` is known of the states its rounds begin in. -/
theorem wp_fillQueue_rounds {env : Env} {Q : Except Status Bool → Session → Prop}
    {P : Session → Prop} (I : Session → Prop)
    (htake : ∀ s, I s → s.host.h.Starved → s.host.h.scanning = true → P s →
      wp (takeFrame env s.host.h.nonBlocking false) (FillStep I Q) s)
    (hquiet : ∀ s, I s → s.host.h.Starved → s.host.h.scanning = false →
      Q (.ok false) (s.onHandle fun h => { h with eof := true }))
    (hexit : ∀ s, I s → ¬ s.host.h.Starved → Q (.ok false) s)
    (hout : ∀ s s', I s → Abandoned s s' → Q (.error .ioError) s') {s : Session}
    (hP : ∀ x ∈ rounds (fun _ => fillRound env) (s.inp.inSched.length + 1) () s, P x.2)
    (h : I s) : wp (fillQueue env) Q s := by
  unfold fillQueue
  rw [wp_bind, wp_read, after_ok]
  refine wp_loop_rounds (fun _ t => I t) (fun _ t ht hPt => ?_) (fun _ t ht => ?_) _ hP h
  · unfold fillRound
    rw [wp_bind, wp_getHandle, after_ok, wp_ite]
    refine ⟨fun hw => ?_, fun hw => hexit t ht hw⟩
    rw [wp_ite]
    refine ⟨fun hs => hquiet t ht hw (by simpa using hs), fun hs => ?_⟩
    rw [wp_bind]
    apply wp_mono (htake t ht hw (by simpa using hs) hPt)
    intro r u hu
    match r, hu with
    | .error e, hu => exact hu
    | .ok (.aborted status), hu => exact hu
    | .ok .idle, hu => exact hu
    | .ok .done, hu => exact hu
  · apply wp_mono (abandon_spec .ioError t)
    rintro _ u ⟨rfl, hu⟩
    exact hout t u ht hu

theorem wp_fillQueue {env : Env} {Q : Except Status Bool → Session → Prop} (I : Session → Prop)
    (htake : ∀ s, I s → s.host.h.Starved → s.host.h.scanning = true →
      wp (takeFrame env s.host.h.nonBlocking false) (FillStep I Q) s)
    (hquiet : ∀ s, I s → s.host.h.Starved → s.host.h.scanning = false →
      Q (.ok false) (s.onHandle fun h => { h with eof := true }))
    (hexit : ∀ s, I s → ¬ s.host.h.Starved → Q (.ok false) s)
    (hout : ∀ s s', I s → Abandoned s s' → Q (.error .ioError) s') {s : Session} (h : I s) :
    wp (fillQueue env) Q s :=
  wp_fillQueue_rounds (P := fun _ => True) I (fun t ht hw hs _ => htake t ht hw hs) hquiet hexit hout
    (fun _ _ => trivial) h

section
variable {P : Status → Prop}

theorem fails_abandon {α : Type} {st : Status} (h : P st) :
    Fails P (abandon st : Prog Status Session α) :=
  fails_bind (fails_modify _) fun _ => fails_bind fails_unlockDevice fun _ => fails_fail h

theorem fails_takeFrame (hP : ∀ e : Status, e.Broken → P e) {report : Bool}
    (hA : ∀ status, Fails P (jobAborted report status)) (env : Env) (probe : Bool) :
    Fails P (takeFrame env probe report) :=
  fails_bind_attempt (fails_pumpFrame hP hA env probe) fun r hr => by
    match r, hr with
    | .error e, hr => exact fails_abandon (hr e rfl)
    | .ok p, _ => exact fails_pure p

theorem fails_awaitFirstRows (env : Env) : Fails Status.Broken (awaitFirstRows env) :=
  fails_bind (fun _ _ he => by cases he) fun s => fails_loop
    (fun _ => fails_bind (fails_gets _) fun _ => fails_ite
      (fails_bind (fails_takeFrame (fun _ => id) fails_jobAborted_report env false) fun p => by
        cases p <;> exact fails_pure _) (fails_pure _))
    (fun _ => fails_abandon broken_ioError) _ _

theorem fails_fillQueue (env : Env) : Fails Status.Fault (fillQueue env) :=
  fails_bind (fun _ _ he => by cases he) fun s => fails_loop
    (fun _ => fails_bind (fails_gets _) fun h => fails_ite (fails_ite
      (fails_bind (fails_modify _) fun _ => fails_pure _)
      (fails_bind (fails_takeFrame (fun _ => Status.Broken.fault) (fails_jobAborted false) env _)
        fun p => by cases p <;> exact fails_pure _)) (fails_pure _))
    (fun _ => fails_abandon broken_ioError.fault) _ _

end

def Handle.derived (h : Handle) : Handle :=
  { h with
    cancelled := false
    eof := false
    params := h.val.computeParameters
    threshold := h.val.lineartThreshold
    halftone := h.val.modeIs .halftone }

def Handle.prepared (env : Env) (h : Handle) : Handle :=
  setMargins { h.derived with gamma := env.toneCurve (h.derived.params.format == .rgb) }

theorem buildDitherMask_spec (s : Host) :
    wp buildDitherMask (fun r s' => s'.h = s.h ∧ s'.valid = s.valid ∧
      (∀ e, r = .error e → e = .noMem)) s := by
  unfold buildDitherMask
  rw [wp_bind, wp_read, after_ok, wp_ite]
  refine ⟨fun _ => ⟨rfl, rfl, fun _ h => by cases h⟩, fun _ => ?_⟩
  rw [wp_bind]
  apply wp_mono (alloc_spec s)
  rintro _ s₁ ⟨b₁, rfl, hh₁, hv₁, -⟩
  rw [after_ok, wp_bind]
  apply wp_mono (alloc_spec s₁)
  rintro _ s₂ ⟨b₂, rfl, hh₂, hv₂, -⟩
  rw [after_ok, wp_bind]
  apply wp_mono (alloc_spec s₂)
  rintro _ s₃ ⟨b₃, rfl, hh₃, hv₃, -⟩
  rw [after_ok, wp_bind]
  apply wp_mono (alloc_spec s₃)
  rintro _ s₄ ⟨b₄, rfl, hh₄, hv₄, -⟩
  have hh : s₄.h = s.h := by rw [hh₄, hh₃, hh₂, hh₁]
  have hv : s₄.valid = s.valid := by rw [hv₄, hv₃, hv₂, hv₁]
  rw [after_ok, wp_ite]
  exact ⟨fun _ => ⟨hh, hv, fun _ h => by cases h⟩, fun _ => ⟨hh, hv, fun _ h => by cases h; rfl⟩⟩

theorem prepareJob_spec (env : Env) (s : Host) :
    wp (prepareJob env) (fun r s' => s'.valid = s.valid ∧
      ((r = .ok () ∧ s'.h = s.h.prepared env) ∨ (r = .error .noMem ∧ s'.h = s.h.derived))) s := by
  unfold prepareJob
  rw [wp_bind, wp_modify, after_ok, wp_bind, wp_gets, after_ok, wp_ite]
  refine ⟨fun _ => ?_, fun _ => ⟨rfl, .inl ⟨rfl, rfl⟩⟩⟩
  rw [wp_bind]
  refine wp_mono (buildDitherMask_spec _) fun r t ⟨hh, hv, he⟩ => ?_
  match r, he with
  | .error e, he =>
    rw [he e rfl]
    exact ⟨hv, .inr ⟨rfl, hh⟩⟩
  | .ok _, _ =>
    rw [after_ok, wp_modify]
    refine ⟨hv, .inl ⟨rfl, ?_⟩⟩
    change setMargins { t.h with gamma := env.toneCurve (t.h.params.format == .rgb) } = _
    rw [hh]
    rfl

end PantumOpen.Scan
