import PantumOpen.Scan.Api
import PantumOpen.Scan.Transfer

/-! How the calls use up the transfers to come. Every frame that is read costs at least one, which
is why the loops over frames end before their rounds do. -/

namespace PantumOpen.Scan
open Prog Bytes

variable {α : Type}

def Session.sched (s : Session) : List Xfer := s.inp.inSched

theorem consumes_onInp {m : Prog Status Inp α} (h : Consumes Inp.inSched m) :
    Consumes Session.sched (onInp m) := consumes_zoom (fun _ => rfl) h

theorem consumes_onOutp (m : Prog Status Outp α) : Consumes Session.sched (onOutp m) :=
  consumes_zoom_of_set (fun _ _ => rfl) m

theorem consumes_onHost (m : Prog Status Host α) : Consumes Session.sched (onHost m) :=
  consumes_zoom_of_set (fun _ _ => rfl) m

theorem consumes_setHandle (f : Handle → Handle) : Consumes Session.sched (setHandle f) :=
  consumes_modify fun _ => rfl

theorem consumes_ofStatus (st : Status) : Consumes Session.sched (ofStatus st) :=
  consumes_ite (consumes_pure _) (consumes_fail _)

theorem consumes_unlockDevice : Consumes Session.sched unlockDevice :=
  consumes_bind (consumes_setHandle _) fun _ => consumes_bind (consumes_gets _) fun _ =>
    consumes_ite (consumes_bind (consumes_setHandle _) fun _ => consumes_ignore
      (consumes_bind (consumes_onOutp _) fun _ => consumes_bind
        (consumes_onInp (consumes_recvHeader [])) fun _ =>
          consumes_onInp (consumes_drainPayload _))) (consumes_pure _)

theorem consumes_giveUp (st : Status) :
    Consumes Session.sched (giveUp st : Prog Status Session α) :=
  consumes_bind consumes_unlockDevice fun _ => consumes_fail _

theorem consumes_abandon (st : Status) :
    Consumes Session.sched (abandon st : Prog Status Session α) :=
  consumes_bind (consumes_setHandle _) fun _ => consumes_giveUp st

theorem consumes_endScan : Consumes Session.sched endScan :=
  consumes_bind (consumes_gets _) fun _ => consumes_ite
    (consumes_bind (consumes_ignore (consumes_onOutp _)) fun _ =>
      consumes_bind (consumes_ignore (consumes_onInp consumes_drainJob)) fun _ =>
        consumes_bind (consumes_setHandle _) fun _ => consumes_unlockDevice)
    (consumes_unlockDevice)

theorem consumes_handleDataBlock (env : Env) (plen : Nat) :
    Consumes Session.sched (handleDataBlock env plen) := by
  have hreject (n : Nat) (e : Status) : Consumes Session.sched
      (do onInp (ignore (drainPayload n)); fail e : Prog Status Session Unit) :=
    consumes_bind (consumes_onInp (consumes_ignore (consumes_drainPayload _))) fun _ =>
      consumes_fail _
  exact consumes_ite (hreject _ _) (consumes_bind (consumes_onInp (consumes_usbRead _)) fun head =>
    consumes_bind (consumes_gets _) fun h => consumes_ite (hreject _ _) (consumes_ite (hreject _ _)
      (consumes_ite (hreject _ _) (consumes_bind (consumes_onHost _) fun b => consumes_ite
        (consumes_bind (consumes_onInp (consumes_usbRead _)) fun _ => consumes_onHost _)
        (hreject _ _)))))

theorem consumes_pass (r : Except Status Unit) : Consumes Session.sched (match r with
    | .ok _ => pure Pumped.done
    | .error e => fail e : Prog Status Session Pumped) := by
  cases r with
  | ok _ => exact consumes_pure _
  | error _ => exact consumes_fail _

theorem consumes_jobAborted (report : Bool) (status : Nat) :
    Consumes Session.sched (jobAborted report status) :=
  consumes_bind (consumes_setHandle _) fun _ => consumes_bind consumes_unlockDevice fun _ =>
    consumes_ite (consumes_pure _) (consumes_bind (consumes_ofStatus _) fun _ => consumes_pure _)

theorem consumes_jobEnded (env : Env) : Consumes Session.sched (jobEnded env) :=
  consumes_bind (consumes_gets _) fun _ => consumes_bind (consumes_attempt (consumes_onHost _))
    fun r => consumes_bind (consumes_setHandle _) fun _ => consumes_bind consumes_unlockDevice
      fun _ => consumes_pass r

theorem consumes_pageEnded (env : Env) : Consumes Session.sched (pageEnded env) :=
  consumes_bind (consumes_gets _) fun _ => consumes_ite
    (consumes_bind (consumes_attempt (consumes_onHost _)) fun r => consumes_bind
      (consumes_setHandle _) fun _ => consumes_pass r) (consumes_pure _)

theorem consumes_handleFrame (env : Env) (report : Bool) (f : Frame) :
    Consumes Session.sched (handleFrame env report f) := by
  have hdrop : Consumes Session.sched (onInp (ignore (drainPayload f.plen))) :=
    consumes_onInp (consumes_ignore (consumes_drainPayload _))
  exact consumes_ite (consumes_bind (consumes_handleDataBlock env _) fun _ => consumes_pure _)
    (consumes_ite (consumes_bind hdrop fun _ => consumes_jobAborted report _) (consumes_ite
      (consumes_bind hdrop fun _ => consumes_jobEnded env) (consumes_ite
        (consumes_bind hdrop fun _ => consumes_pageEnded env) (consumes_ite
          (consumes_bind (consumes_onInp (consumes_ite (consumes_drainPayload _)
            (consumes_bind (consumes_usbRead _) fun _ => consumes_pure _))) fun _ => consumes_pure _)
          (consumes_bind (consumes_onInp (consumes_drainPayload _)) fun _ => consumes_pure _)))))

theorem consumes_commandAck (cmd : Nat) (payload : List UInt8) (reply : Option Nat) :
    Consumes Session.sched (commandAck cmd payload reply) :=
  consumes_bind (consumes_onOutp _) fun _ => consumes_bind (consumes_onInp (consumes_loop
    (fun _ => consumes_bind (consumes_recvHeader []) fun _ => consumes_ite (consumes_pure _)
      (consumes_bind (consumes_drainPayload _) fun _ => consumes_pure _))
    (fun _ => consumes_fail _) _ _)) fun _ =>
      consumes_bind (consumes_onInp (consumes_ackPayload _ _)) fun _ => consumes_pure _

theorem consumes_command (cmd : Nat) (payload : List UInt8) (reply : Option Nat) :
    Consumes Session.sched (command cmd payload reply) :=
  consumes_bind (consumes_commandAck _ _ _) fun _ => consumes_bind (consumes_ofStatus _) fun _ =>
    consumes_pure _

theorem consumes_lockDevice : Consumes Session.sched lockDevice := by
  refine consumes_loop (fun _ => consumes_bind (consumes_setHandle _) fun _ =>
    consumes_bind (consumes_attempt (consumes_commandAck _ _ _)) fun a => ?_)
    (fun _ => consumes_giveUp _) _ _
  cases a with
  | ok a => exact consumes_ite (consumes_pure _) (consumes_ite (consumes_giveUp _) (consumes_pure _))
  | error e => exact consumes_giveUp _

theorem consumes_requireFeeder : Consumes Session.sched requireFeeder := by
  refine consumes_bind (consumes_attempt (consumes_bind (consumes_onOutp _) fun _ =>
    consumes_bind (consumes_onInp (consumes_recvHeader [])) fun _ => consumes_bind
      (consumes_onInp (consumes_ignore (consumes_drainPayload _))) fun _ =>
        consumes_ite (consumes_fail _) (consumes_pure _))) fun a => ?_
  cases a with
  | ok a => exact consumes_ite (consumes_giveUp _) (consumes_pure _)
  | error e => exact consumes_giveUp _

theorem consumes_submitJob : Consumes Session.sched submitJob := by
  refine consumes_bind (consumes_attempt (consumes_bind (consumes_command _ _ _) fun _ =>
    consumes_bind (consumes_command _ _ _) fun _ => consumes_bind (consumes_gets _) fun _ =>
      consumes_bind (consumes_command _ _ _) fun _ => consumes_bind (consumes_command _ _ _)
        fun _ => consumes_pure _)) fun a => ?_
  cases a with
  | ok a => exact consumes_setHandle _
  | error e => exact consumes_giveUp _

theorem consumes_beginJob : Consumes Session.sched beginJob :=
  consumes_bind (consumes_setHandle _) fun _ => consumes_bind consumes_lockDevice fun _ =>
    consumes_bind (consumes_gets _) fun _ => consumes_ite
      (consumes_bind consumes_requireFeeder fun _ => consumes_submitJob) consumes_submitJob

theorem usbRead_uses (len : Nat) (hlen : 0 < len) (i : Inp) :
    wp (usbRead len) (fun r j => (∃ bs, r = .ok bs) →
      j.inSched.length < i.inSched.length) i := by
  -- A transfer that succeeds is an entry of the schedule that is used up.
  have hbulk (n : Nat) (j : Inp) : wp (bulkIn n) (fun r k => ∀ x, r = .ok x → x.1 = .success →
      k.inSched.length < j.inSched.length) j := by
    rcases j with ⟨_, _ | ⟨x, xs⟩⟩
    · intro _ hx hg
      cases hx
      cases hg
    · exact fun _ _ _ => Nat.lt_succ_self _
  have hretry (n m : Nat) (j : Inp) : wp (retry (bulkIn n) [] m) (fun r k => ∀ x, r = .ok x →
      x.1 = .success → k.inSched.length < j.inSched.length) j := by
    refine wp_loop (fun r k => r.1 ≠ .success ∧ k.inSched.length ≤ j.inSched.length) ?_ ?_ m
      (by exact ⟨nofun, le_rfl⟩)
    · rintro r k ⟨-, hk⟩
      rw [wp_bind]
      refine wp_mono (wp_and (hbulk n k) (consumes_bulkIn n k)) fun r l ⟨hl, hs⟩ => ?_
      match r, hl with
      | .ok x, hl =>
        rw [after_ok, wp_ite]
        refine ⟨fun _ y hy hg => ?_, fun hx => ⟨fun h => hx (.inl h), hs.length_le.trans hk⟩⟩
        cases hy
        exact (hl _ rfl hg).trans_le hk
      | .error _, _ => exact fun _ h => by cases h
    · intro r k ⟨hr, _⟩
      rw [wp_pure]
      intro y hy hg
      cases hy
      exact absurd hg hr
  refine wp_loop_of_measure (fun buf j => j.inSched.length ≤ i.inSched.length ∧
    (0 < buf.length → j.inSched.length < i.inSched.length)) (fun buf _ => len - buf.length) ?_
    ⟨le_rfl, fun h => absurd h (by simp)⟩ (by simp)
  rintro buf j ⟨hj, hb⟩
  rw [wp_ite]
  refine ⟨fun hlt => ?_, fun hge _ => hb (by omega)⟩
  rw [wp_bind]
  apply wp_mono (hretry _ 3 j)
  intro r k hk
  match r, hk with
  | .error _, _ => exact fun ⟨_, h⟩ => by cases h
  | .ok x, hk =>
    rw [after_ok, wp_ite]
    refine ⟨fun _ ⟨_, h⟩ => (by cases h), fun hx => ?_⟩
    obtain ⟨hs, hne⟩ := not_or.mp hx
    have hk := (hk x rfl (not_not.mp hs)).trans_le hj
    have hpos : 0 < x.2.length := List.length_pos_iff.mpr hne
    refine ⟨⟨hk.le, fun _ => hk⟩, ?_⟩
    rw [List.length_append]
    omega

theorem recvHeader_uses (got : List UInt8) (h : got.length < pantumHeaderLen) (i : Inp) :
    wp (recvHeader got) (fun r j => (∃ f, r = .ok f) → j.inSched.length < i.inSched.length) i := by
  unfold recvHeader
  rw [wp_bind]
  apply wp_mono (usbRead_uses _ (Nat.sub_pos_of_lt h) i)
  intro r j hr
  match r, hr with
  | .error _, _ => exact fun ⟨_, h⟩ => by cases h
  | .ok bs, hr =>
    have hlt := hr ⟨bs, rfl⟩
    rw [after_ok, wp_ite]
    refine ⟨fun _ _ => hlt, fun _ => ?_⟩
    rw [wp_ite]
    exact ⟨fun _ _ => hlt, fun _ _ => hlt⟩

theorem recvFrameProbe_uses (i : Inp) :
    wp recvFrameProbe (fun r j => (∃ f, r = .ok (some f)) →
      j.inSched.length < i.inSched.length) i := by
  unfold recvFrameProbe
  rcases i with ⟨stream, _ | ⟨x, xs⟩⟩
  · rintro ⟨_, h⟩
    cases h
  · have hxs : ∀ bs, wp (recvHeader bs) (fun _ j => j.inSched.length < (x :: xs).length)
        ⟨stream.drop (min x.n pantumHeaderLen), xs⟩ := fun bs =>
      wp_mono (consumes_recvHeader bs _) fun _ _ h => Nat.lt_succ_of_le h.length_le
    have hbulk : bulkIn pantumHeaderLen ⟨stream, x :: xs⟩ =
        (.ok (x.rc, stream.take (min x.n pantumHeaderLen)),
          ⟨stream.drop (min x.n pantumHeaderLen), xs⟩) := rfl
    rw [wp_bind, wp, hbulk, after_ok, wp_ite]
    refine ⟨fun _ ⟨_, h⟩ => (by cases h), fun _ => ?_⟩
    rw [wp_ite]
    refine ⟨fun _ ⟨_, h⟩ => (by cases h), fun _ => ?_⟩
    rw [wp_map]
    apply wp_mono (hxs _)
    intro r j hj
    match r with
    | .error _ => exact fun _ => hj
    | .ok _ => exact fun _ => hj

theorem pumpFrame_uses (env : Env) (probe report : Bool) (s : Session) :
    wp (pumpFrame env probe report) (fun r t => t.sched <:+ s.sched ∧
      ((∃ p, r = .ok p ∧ (probe = true → p ≠ .idle)) → t.sched.length < s.sched.length)) s := by
  have hrecv : wp (onInp (if probe then recvFrameProbe else some <$> recvFrame)) (fun r t =>
      t.sched <:+ s.sched ∧ ((∃ f, r = .ok f ∧ (probe = true → f ≠ none)) →
        t.sched.length < s.sched.length)) s := by
    rw [onInp, wp_zoom, wp_ite]
    refine ⟨fun hp => ?_, fun hp => ?_⟩
    · refine wp_mono (wp_and (consumes_recvFrameProbe s.inp) (recvFrameProbe_uses s.inp))
        fun r t ⟨hs, hlt⟩ => ⟨hs, fun ⟨f, hr, hf⟩ => hlt ?_⟩
      obtain ⟨g, rfl⟩ := Option.ne_none_iff_exists'.mp (hf hp)
      exact ⟨g, hr⟩
    · rw [wp_map]
      refine wp_mono (wp_and (consumes_recvHeader [] _) (recvHeader_uses [] (by decide) _))
        fun r t ⟨hs, hlt⟩ => ?_
      match r, hlt with
      | .error _, _ => exact ⟨hs, fun ⟨_, h, _⟩ => by cases h⟩
      | .ok f, hlt => exact ⟨hs, fun _ => hlt ⟨f, rfl⟩⟩
  unfold pumpFrame
  rw [wp_bind]
  refine wp_mono hrecv fun r t ⟨hs, hlt⟩ => ?_
  match r, hlt with
  | .error _, _ => exact ⟨hs, fun ⟨_, h, _⟩ => by cases h⟩
  | .ok none, hlt =>
    exact ⟨hs, fun ⟨_, h, hp⟩ => hlt ⟨none, rfl, fun hb => absurd (Except.ok.inj h).symm (hp hb)⟩⟩
  | .ok (some f), hlt =>
    rw [after_ok]
    refine wp_mono (consumes_handleFrame env report f t) fun _ u hu => ⟨hu.trans hs, fun _ => ?_⟩
    exact hu.length_le.trans_lt (hlt ⟨some f, rfl, nofun⟩)

theorem takeFrame_uses (env : Env) (probe report : Bool) (s : Session) :
    wp (takeFrame env probe report) (fun r t => t.sched <:+ s.sched ∧
      ((∃ p, r = .ok p ∧ (probe = true → p ≠ .idle)) → t.sched.length < s.sched.length)) s := by
  unfold takeFrame
  rw [wp_bind, wp_attempt]
  refine wp_mono (pumpFrame_uses env probe report s) fun r t ⟨hs, hlt⟩ => ?_
  rw [after_ok]
  match r, hlt with
  | .ok p, hlt => exact ⟨hs, fun ⟨q, hq, hp⟩ => hlt ⟨q, hq, hp⟩⟩
  | .error e, _ =>
    have herr : wp (abandon e : Prog Status Session Pumped) (fun r _ => ¬ ∃ p, r = .ok p) t := by
      unfold abandon giveUp
      rw [wp_bind, setHandle, wp_modify, after_ok, wp_bind]
      generalize hu : unlockDevice _ = u
      rw [wp, hu]
      match u with
      | (.ok _, _) => exact fun ⟨_, h⟩ => by cases h
      | (.error _, _) => exact fun ⟨_, h⟩ => by cases h
    exact wp_mono (wp_and (consumes_abandon e t) herr) fun r u ⟨hu, hr⟩ =>
      ⟨hu.trans hs, fun ⟨p, hp, _⟩ => absurd ⟨p, hp⟩ hr⟩

theorem awaitRound_uses (env : Env) (s : Session) :
    wp (awaitRound env) (Round (fun _ t => t.sched.length < s.sched.length) fun _ _ => True) s := by
  unfold awaitRound
  rw [wp_bind, getHandle, wp_gets, after_ok, wp_ite]
  refine ⟨fun _ => ?_, fun _ => trivial⟩
  rw [wp_bind]
  refine wp_mono (takeFrame_uses env false true s) fun r t ⟨_, hlt⟩ => ?_
  match r, hlt with
  | .error _, _ => trivial
  | .ok (.aborted _), _ => trivial
  | .ok .idle, hlt => exact hlt ⟨.idle, rfl, nofun⟩
  | .ok .done, hlt => exact hlt ⟨.done, rfl, nofun⟩

theorem fillRound_uses (env : Env) (s : Session) :
    wp (fillRound env) (Round (fun _ t => t.sched.length < s.sched.length) fun _ _ => True) s := by
  unfold fillRound
  rw [wp_bind, getHandle, wp_gets, after_ok, wp_ite]
  refine ⟨fun _ => ?_, fun _ => trivial⟩
  rw [wp_ite]
  refine ⟨fun _ => trivial, fun _ => ?_⟩
  rw [wp_bind]
  refine wp_mono (takeFrame_uses env _ false s) fun r t ⟨_, hlt⟩ => ?_
  match r, hlt with
  | .error _, _ => trivial
  | .ok .idle, _ => trivial
  | .ok (.aborted _), hlt => exact hlt ⟨_, rfl, fun _ => nofun⟩
  | .ok .done, hlt => exact hlt ⟨_, rfl, fun _ => nofun⟩

/-- The wait for the first rows ends by itself: more rounds change nothing. -/
theorem awaitFirstRows_rounds (env : Env) {n : Nat} {s : Session} (hn : s.sched.length < n) :
    loop (fun _ => awaitRound env) (fun _ => abandon .ioError) n () s = awaitFirstRows env s :=
  loop_congr_of_measure (fun _ t => t.sched.length) (fun _ t => awaitRound_uses env t) hn
    (Nat.lt_succ_self _)

theorem fillQueue_rounds (env : Env) {n : Nat} {s : Session} (hn : s.sched.length < n) :
    loop (fun _ => fillRound env) (fun _ => abandon .ioError) n () s = fillQueue env s :=
  loop_congr_of_measure (fun _ t => t.sched.length) (fun _ t => fillRound_uses env t) hn
    (Nat.lt_succ_self _)

end PantumOpen.Scan
