import PantumOpen.Scan.SideBySide
import PantumOpen.Scan.Wire

/-! Frames that an earlier session left in the IN endpoint: the first command of the next one steps
over them, and from there on nothing tells that they were there. -/

namespace PantumOpen.Scan
open Prog Bytes

variable {i j : Inp}

/-- Every transfer moves something as long as there is something to move, and there are enough of
them for the stream. -/
structure Inp.Flowing (i : Inp) : Prop where
  moves : ∀ x ∈ i.inSched, x.rc = .success ∧ 0 < x.n
  lasts : i.inStream.length ≤ i.inSched.length

def FlowPost (len : Nat) (i : Inp) : Except Status (Rc × List UInt8) → Inp → Prop
  | .ok (rc, bs), j => j.Flowing ∧ i.inStream = bs ++ j.inStream ∧ bs.length ≤ len ∧
      (rc = .success ∨ rc = .timeout) ∧ (rc = .timeout ∨ bs = [] → i.inStream = [])
  | .error _, _ => False

theorem bulkIn_flowing {len : Nat} (hlen : 0 < len) (hi : i.Flowing) :
    wp (bulkIn len) (FlowPost len i) i := by
  rcases i with ⟨stream, _ | ⟨x, xs⟩⟩
  · have hnil : stream = [] := List.length_eq_zero_iff.mp (Nat.le_zero.mp hi.lasts)
    exact ⟨hi, rfl, Nat.zero_le _, .inr rfl, fun _ => hnil⟩
  · obtain ⟨hrc, hn⟩ := hi.moves x List.mem_cons_self
    have hm : 0 < min x.n len := Nat.lt_min.mpr ⟨hn, hlen⟩
    refine ⟨⟨fun y hy => hi.moves y (List.mem_cons_of_mem _ hy), ?_⟩, (List.take_append_drop _ _).symm,
      (List.length_take_le _ _).trans (Nat.min_le_right _ _), .inl hrc, fun h => ?_⟩
    · have hl : stream.length ≤ xs.length + 1 := hi.lasts
      change (stream.drop _).length ≤ xs.length
      rw [List.length_drop]
      omega
    · rcases h with h | h
      · rw [hrc] at h
        cases h
      · exact (List.take_eq_nil_iff.mp h).resolve_left hm.ne'

theorem retry_bulkIn_flowing {len n : Nat} (hlen : 0 < len) (hi : i.Flowing) :
    wp (retry (bulkIn len) [] (n + 1)) (FlowPost len i) i := by
  unfold retry
  rw [loop, wp_bind, wp_bind]
  apply wp_mono (bulkIn_flowing hlen hi)
  intro r j hr
  obtain _ | ⟨rc, bs⟩ := r
  · exact hr.elim
  · have hrc : rc = .success ∨ rc = .timeout := hr.2.2.2.1
    rw [after_ok, if_pos hrc]
    exact hr

theorem usbRead_flowing (len : Nat) (hi : i.Flowing) :
    wp (usbRead len) (fun r j => j.Flowing ∧ j.inStream = i.inStream.drop len ∧
      r = if len ≤ i.inStream.length then .ok (i.inStream.take len) else .error .ioError) i := by
  refine wp_loop_of_measure
    (fun buf j => j.Flowing ∧ i.inStream = buf ++ j.inStream ∧ buf.length ≤ len)
    (fun buf _ => len - buf.length) ?_ ⟨hi, rfl, Nat.zero_le _⟩ (by simp)
  rintro buf j ⟨hj, hs, hl⟩
  rw [wp_ite]
  refine ⟨fun hlt => ?_, fun hge => ?_⟩
  · rw [wp_bind]
    apply wp_mono (retry_bulkIn_flowing (by omega) hj)
    intro r k hr
    match r, hr with
    | .ok (rc, bs), ⟨hk, hbs, hbl, hrc, hnil⟩ =>
      rw [after_ok, wp_ite, wp_pure]
      -- A flowing transfer only comes back empty when the device has no more bytes.
      refine ⟨fun hbad => ?_, fun hgood => ⟨⟨hk, ?_, ?_⟩, ?_⟩⟩
      · have hempty : j.inStream = [] := hnil (hbad.imp hrc.resolve_left id)
        rw [hempty, List.append_nil] at hs
        rw [hempty] at hbs
        obtain ⟨-, hk0⟩ := List.append_eq_nil_iff.mp hbs.symm
        rw [wp_fail, hs, if_neg (by omega)]
        exact ⟨hk, by rw [hk0, List.drop_eq_nil_of_le hl], rfl⟩
      · rw [List.append_assoc, ← hbs, hs]
      · rw [List.length_append]
        change buf.length + bs.length ≤ len
        omega
      · obtain ⟨-, hne⟩ := not_or.mp hgood
        have hpos : 0 < bs.length := List.length_pos_iff.mpr hne
        change len - (buf ++ bs).length < _
        rw [List.length_append]
        omega
  · have hlen : buf.length = len := by omega
    rw [wp_pure]
    refine ⟨hj, ?_, ?_⟩
    · rw [hs, List.drop_left' hlen]
    · rw [hs, if_pos (by rw [List.length_append]; omega), List.take_left' hlen]

theorem drainPayload_flowing (plen : Nat) (hi : i.Flowing) :
    wp (drainPayload plen) (fun r j => j.Flowing ∧ j.inStream = i.inStream.drop plen ∧
      (plen ≤ i.inStream.length → r = .ok ())) i := by
  refine wp_loop_of_measure
    (fun left j => j.Flowing ∧ left ≤ plen ∧ j.inStream = i.inStream.drop (plen - left))
    (fun left _ => left) ?_ ⟨hi, le_rfl, by rw [Nat.sub_self]; rfl⟩ (by simp)
  rintro left j ⟨hj, hl, hs⟩
  rw [wp_ite]
  refine ⟨fun h0 => (wp_pure _ _ _).mpr ⟨hj, by rw [hs, h0, Nat.sub_zero], fun _ => rfl⟩, fun h0 => ?_⟩
  rw [wp_bind]
  apply wp_mono (usbRead_flowing _ hj)
  rintro r k ⟨hk, hks, rfl⟩
  have hdrop : k.inStream = i.inStream.drop (plen - (left - min left 512)) := by
    rw [hks, hs, List.drop_drop]
    congr 1
    omega
  by_cases hfit : min left 512 ≤ j.inStream.length
  · rw [if_pos hfit, after_ok]
    exact ⟨⟨hk, by omega, hdrop⟩, by omega⟩
  · have hshort : i.inStream.length < plen := by
      rw [hs, List.length_drop] at hfit
      omega
    rw [if_neg hfit]
    refine ⟨hk, ?_, fun h => absurd h (by omega)⟩
    rw [hdrop, List.drop_eq_nil_of_le, List.drop_eq_nil_of_le hshort.le]
    rw [hs, List.length_drop] at hfit
    omega

def headerOf (bs : List UInt8) : Except Status Frame :=
  if bs.length < pantumHeaderLen then .error .ioError
  else if getBe32 (bs.take pantumHeaderLen) 0 ≠ pantumMagic then .error .ioError
  else if pantumMaxPayload < (Frame.ofHeader (bs.take pantumHeaderLen)).plen then .error .ioError
  else .ok (Frame.ofHeader (bs.take pantumHeaderLen))

theorem recvHeader_flowing {got : List UInt8} (hgot : got.length ≤ pantumHeaderLen) (hi : i.Flowing) :
    wp (recvHeader got) (fun r j => j.Flowing ∧
      j.inStream = (got ++ i.inStream).drop pantumHeaderLen ∧ r = headerOf (got ++ i.inStream)) i := by
  unfold recvHeader headerOf
  rw [wp_bind]
  apply wp_mono (usbRead_flowing _ hi)
  rintro r j ⟨hj, hs, rfl⟩
  have hrest : j.inStream = (got ++ i.inStream).drop pantumHeaderLen := by
    rw [hs, List.drop_append, List.drop_eq_nil_of_le hgot, List.nil_append]
  have htake : got ++ i.inStream.take (pantumHeaderLen - got.length) =
      (got ++ i.inStream).take pantumHeaderLen := by
    rw [List.take_append, List.take_of_length_le hgot]
  have hlen : (got ++ i.inStream).length = got.length + i.inStream.length := List.length_append
  by_cases hshort : (got ++ i.inStream).length < pantumHeaderLen
  · have hcut : ¬ pantumHeaderLen - got.length ≤ i.inStream.length := by omega
    rw [if_pos hshort, if_neg hcut]
    exact ⟨hj, hrest, rfl⟩
  · have hwhole : pantumHeaderLen - got.length ≤ i.inStream.length := by omega
    rw [if_neg hshort, if_pos hwhole, after_ok, htake]
    split_ifs <;> exact ⟨hj, hrest, rfl⟩

theorem recvFrameProbe_flowing (hi : i.Flowing) :
    wp recvFrameProbe (fun r j => j.Flowing ∧ j.inStream = i.inStream.drop pantumHeaderLen ∧
      r = if i.inStream = [] then .ok none else some <$> headerOf i.inStream) i := by
  unfold recvFrameProbe
  rw [wp_bind]
  apply wp_mono (bulkIn_flowing (by decide) hi)
  intro r j hr
  match r, hr with
  | .ok (rc, bs), ⟨hj, hs, hl, hrc, hnil⟩ =>
    have hgood : ¬ ((rc, bs).1 ≠ .success ∧ (rc, bs).1 ≠ .timeout) := fun h => hrc.elim h.1 h.2
    rw [after_ok, if_neg hgood, wp_ite]
    refine ⟨fun hb => ?_, fun hb => ?_⟩
    · have hempty : i.inStream = [] := hnil (.inr hb)
      obtain ⟨-, hj0⟩ := List.append_eq_nil_iff.mp (hs.symm.trans hempty)
      rw [wp_pure, hj0, hempty]
      exact ⟨hj, rfl, rfl⟩
    · have hne : i.inStream ≠ [] := fun h => hb (List.append_eq_nil_iff.mp (hs.symm.trans h)).1
      rw [wp_map, if_neg hne]
      apply wp_mono (recvHeader_flowing hl hj)
      rintro r k ⟨hk, hks, rfl⟩
      rw [← hs] at hks ⊢
      match headerOf i.inStream with
      | .ok f => exact ⟨hk, hks, rfl⟩
      | .error e => exact ⟨hk, hks, rfl⟩

/-- The same bytes flow from both endpoints, whatever the transfers look like. -/
structure SameFlow (i i' : Inp) : Prop where
  flowing : i.Flowing
  flowing' : i'.Flowing
  stream : i'.inStream = i.inStream

theorem sim_sameFlow {α : Type} {m : Prog Status Inp α} (rest : List UInt8 → List UInt8)
    (result : List UInt8 → Except Status α) (h : ∀ i : Inp, i.Flowing →
      wp m (fun r j => j.Flowing ∧ j.inStream = rest i.inStream ∧ r = result i.inStream) i) :
    Sim SameFlow SameFlow Eq m m := by
  intro i i' hi
  obtain ⟨hj, hs, hr⟩ := h i hi.flowing
  obtain ⟨hj', hs', hr'⟩ := h i' hi.flowing'
  rw [hr, hr', hi.stream]
  exact ⟨alike_refl _, hj, hj', by rw [hs, hs', hi.stream]⟩

theorem readers_sameFlow : Readers SameFlow where
  read len := sim_sameFlow (fun bs => bs.drop len)
    (fun bs => if len ≤ bs.length then .ok (bs.take len) else .error .ioError)
    fun _ => usbRead_flowing len
  poll := sim_sameFlow (fun bs => bs.drop pantumHeaderLen)
    (fun bs => if bs = [] then .ok none else some <$> headerOf bs)
    fun _ => recvFrameProbe_flowing

theorem recvFrame_flowing (f : WireFrame) {bs : List UInt8} (hi : i.Flowing)
    (hs : i.inStream = f.encode ++ bs) :
    wp recvFrame (fun r j => r = .ok f.frame ∧ j.Flowing ∧ j.inStream = f.payload ++ bs) i := by
  apply wp_mono (recvHeader_flowing (Nat.zero_le _) hi)
  rintro _ j ⟨hj, hjs, rfl⟩
  have hs : i.inStream = f.header ++ (f.payload ++ bs) := by rw [hs, WireFrame.encode, List.append_assoc]
  rw [List.nil_append, hs] at hjs ⊢
  have htake : (f.header ++ (f.payload ++ bs)).take pantumHeaderLen = f.header :=
    List.take_left' f.header_length
  refine ⟨?_, hj, hjs.trans (List.drop_left' f.header_length)⟩
  unfold headerOf
  rw [htake, if_neg (by rw [List.length_append, f.header_length]; omega),
    if_neg (not_not.mpr f.magic), if_neg]
  · rfl
  · change ¬ pantumMaxPayload < f.frame.plen
    rw [f.plen_eq]
    exact not_lt.mpr f.bounded

/-- Fewer frames than the command may skip are stepped over; the answer behind them is found. -/
theorem skipToAck_leftovers {cmd n : Nat} {fs : List WireFrame} (hfs : ∀ f ∈ fs, f.cmd ≠ cmd)
    {ack : WireFrame} (hack : ack.cmd = cmd) {bs : List UInt8} (hn : fs.length < n) (hi : i.Flowing)
    (hs : i.inStream = encodeAll fs ++ (ack.encode ++ bs)) :
    wp (skipToAck cmd n) (fun r j => r = .ok ack.frame ∧ j.Flowing ∧ j.inStream = ack.payload ++ bs)
      i := by
  unfold skipToAck
  induction fs generalizing n i with
  | nil =>
    obtain ⟨n, rfl⟩ := Nat.exists_eq_add_one.mpr hn
    rw [loop, wp_bind, wp_bind]
    apply wp_mono (recvFrame_flowing ack hi hs)
    rintro _ j ⟨rfl, hj⟩
    have hack : ack.frame.cmd = cmd := hack
    rw [after_ok, if_pos hack]
    exact ⟨rfl, hj⟩
  | cons f fs ih =>
    obtain ⟨n, rfl⟩ := Nat.exists_eq_add_one.mpr (Nat.zero_lt_of_lt hn)
    have hf : f.frame.cmd ≠ cmd := hfs f List.mem_cons_self
    rw [loop, wp_bind, wp_bind]
    have hs : i.inStream = f.encode ++ (encodeAll fs ++ (ack.encode ++ bs)) := by
      simp only [hs, encodeAll_cons, WireFrame.encode, List.append_assoc]
    apply wp_mono (recvFrame_flowing f hi hs)
    rintro _ j ⟨rfl, hj, hjs⟩
    rw [after_ok, if_neg hf, wp_bind]
    apply wp_mono (drainPayload_flowing _ hj)
    rintro r k ⟨hk, hks, hr⟩
    rw [hr (by rw [hjs, f.plen_eq, List.length_append]; exact Nat.le_add_right _ _), after_ok, wp_pure,
      after_ok]
    refine ih (fun g hg => hfs g (List.mem_cons_of_mem _ hg)) (Nat.lt_of_succ_lt_succ hn) hk ?_
    rw [hks, hjs, f.plen_eq, List.drop_left]

/-- The frames `fs` are left over in front of a stream that begins with `ack`. -/
structure Leftover (fs : List WireFrame) (ack : WireFrame) (i i' : Inp) : Prop where
  flowing : i.Flowing
  flowing' : i'.Flowing
  stream : i.inStream = encodeAll fs ++ i'.inStream
  answered : ∃ bs, i'.inStream = ack.encode ++ bs

/-- Two sessions about to lock the device, the first with leftovers in front of the answer; the
request goes out. -/
structure Session.Facing (fs : List WireFrame) (ack : WireFrame) (b b' : Outp) (s s' : Session) :
    Prop where
  pair : Session.Paired Eq (Leftover fs ack) b b' s s'
  out : (sendFrame cmdLock [] s.outp).1 = .ok ()

theorem companions_eq (env : Env) : Companions env env Eq where
  dbgLevel := rfl
  flags hs := hs ▸ rfl
  source hs := hs ▸ rfl
  settings hs := hs ▸ rfl
  format hs := hs ▸ rfl
  lines hs := hs ▸ rfl
  update _ hs := hs ▸ rfl
  reserve _ := sim_refl _
  fill _ := sim_refl _
  place _ _ _ := sim_refl _

section
variable {fs : List WireFrame} {ack : WireFrame} {b b' : Outp}

theorem Session.Facing.onHandle {s s' : Session} (hs : Session.Facing fs ack b b' s s')
    (f : Handle → Handle) : Session.Facing fs ack b b' (s.onHandle f) (s'.onHandle f) :=
  ⟨⟨congrArg (Host.onHandle f) hs.pair.host, hs.pair.inp, hs.pair.outp⟩, hs.out⟩

variable (hfs : ∀ f ∈ fs, f.cmd ≠ cmdLock) (hlen : fs.length < commandMaxSkip)
  (hack : ack.cmd = cmdLock)
include hfs hlen hack

theorem sim_skipToAck :
    Sim (Leftover fs ack) SameFlow Eq (skipToAck cmdLock commandMaxSkip)
      (skipToAck cmdLock commandMaxSkip) := by
  rintro i i' ⟨hi, hi', hs, bs, hbs⟩
  obtain ⟨hr, hj, hjs⟩ := skipToAck_leftovers hfs hack hlen hi (hs.trans (by rw [hbs]))
  have hnone : ∀ f ∈ ([] : List WireFrame), f.cmd ≠ cmdLock := fun _ h => absurd h List.not_mem_nil
  have hroom : ([] : List WireFrame).length < commandMaxSkip := by decide
  obtain ⟨hr', hj', hjs'⟩ := skipToAck_leftovers hnone hack hroom hi' hbs
  rw [hr, hr']
  exact ⟨rfl, hj, hj', hjs'.trans hjs.symm⟩

theorem sim_firstCommand :
    Sim (Session.Facing fs ack b b') (Session.Paired Eq SameFlow b b') Eq
      (commandAck cmdLock [] none) (commandAck cmdLock [] none) := by
  rintro s s' ⟨hs, hout⟩
  obtain ⟨hr, ht⟩ := paired_sendFrame cmdLock [] s s' hs
  have hsent : (onOutp (sendFrame cmdLock []) s).1 = .ok () := hout
  have hsent' : (onOutp (sendFrame cmdLock []) s').1 = .ok () := (alike_eq hr).trans hsent
  unfold commandAck
  rw [bind_ok (eq_ok hsent), bind_ok (eq_ok hsent')]
  exact sim_bind_eq (paired_onInp (sim_skipToAck hfs hlen hack)) (fun f => sim_bind_eq
    (paired_onInp (readers_sameFlow.ack f none)) fun _ => sim_pure rfl) _ _ ht

theorem sim_probeAdf_facing :
    Sim (Session.Facing fs ack b b') (Session.Paired Eq SameFlow b b') Eq probeAdf probeAdf := by
  have hcommand : Sim (Session.Facing fs ack b b') (Session.Paired Eq SameFlow b b') Eq
      (command cmdLock [] none) (command cmdLock [] none) :=
    sim_bind_eq (sim_firstCommand hfs hlen hack) fun _ =>
      sim_bind_eq (paired_ofStatus _) fun _ => sim_pure rfl
  have hunlock : Sim (Session.Paired Eq SameFlow b b') (Session.Paired Eq SameFlow b b') Eq
      unlockDevice unlockDevice := (companions_eq plainEnv).unlockDevice readers_sameFlow
  refine sim_modify_bind (fun _ _ hs => hs.onHandle _) (sim_attempt_eq hcommand fun r => ?_)
  match r with
  | .error _ => exact hunlock
  | .ok _ =>
    apply sim_attempt_eq readers_sameFlow.checkAdf
    intro r
    match r with
    | .error _ => exact hunlock
    | .ok (present, _) =>
      exact sim_bind_eq (paired_setHandle fun _ _ hs => congrArg (Host.onHandle _) hs) fun _ => hunlock

theorem sim_runJob_facing (env : Env) :
    Sim (Session.Facing fs ack b b') (Session.Paired Eq SameFlow b b') Eq (runJob env)
      (runJob env) :=
  have hK := companions_eq env
  sim_bind_eq (hK.beginJob readers_sameFlow (fun _ _ hs => hs.onHandle _)
    (hK.lockDevice_from readers_sameFlow (fun _ _ hs => hs.onHandle _) (sim_firstCommand hfs hlen hack)))
    fun _ => hK.awaitFirstRows readers_sameFlow fun _ _ hs => hs ▸ Iff.rfl

end

/-- Two runs that ended alike: the result, the host and the device's view of it are the same, and so
is what the device still has to say. -/
structure SameEnd {α : Type} (x y : Except Status α × Session) : Prop where
  result : y.1 = x.1
  host : y.2.host = x.2.host
  outp : y.2.outp = x.2.outp
  unread : y.2.inp.inStream = x.2.inp.inStream

theorem sameEnd_of_sim {α : Type} {P : Session → Session → Prop} {o : Outp}
    {m : Prog Status Session α} (h : Sim P (Session.Paired Eq SameFlow o o) Eq m m)
    {s s' : Session} (hs : P s s') : SameEnd (m s) (m s') := by
  obtain ⟨hr, ht⟩ := h s s' hs
  obtain ⟨hsched, ⟨fs, hf, hf'⟩, bs, hb, hb'⟩ := ht.outp
  refine ⟨alike_eq hr, ht.host.symm, ?_, ht.inp.stream⟩
  cases hm : (m s).2.outp
  cases hm' : (m s').2.outp
  rw [hm, hm'] at hsched
  rw [hm] at hf hb
  rw [hm'] at hf' hb'
  exact congr (congr (congrArg Outp.mk hsched) (hb'.trans hb.symm)) (hf'.trans hf.symm)

/-- At most three frames that answer something else, left over in front of the answer to the lock
command, change nothing: neither what the session does nor where it leaves the stream. -/
theorem leftovers_unseen (env : Env) {fs : List WireFrame} (hlen : fs.length ≤ commandMaxSkip - 1)
    (hfs : ∀ f ∈ fs, f.cmd ≠ cmdLock) {ack : WireFrame} (hack : ack.cmd = cmdLock) {bs : List UInt8}
    {s s' : Session} (hhost : s'.host = s.host) (houtp : s'.outp = s.outp)
    (hstream : s.inp.inStream = encodeAll fs ++ (ack.encode ++ bs))
    (hstream' : s'.inp.inStream = ack.encode ++ bs) (hflow : s.inp.Flowing)
    (hflow' : s'.inp.Flowing) (hout : (sendFrame cmdLock [] s.outp).1 = .ok ()) :
    SameEnd (probeAdf s) (probeAdf s') ∧ SameEnd (runJob env s) (runJob env s') := by
  have hlen : fs.length < commandMaxSkip := Nat.lt_of_le_of_lt hlen (by decide)
  have hfacing : Session.Facing fs ack s.outp s.outp s s' := by
    refine ⟨⟨hhost.symm, ⟨hflow, hflow', by rw [hstream, hstream'], bs, hstream'⟩, ?_⟩, hout⟩
    rw [houtp]
    exact .refl rfl
  exact ⟨sameEnd_of_sim (sim_probeAdf_facing hfs hlen hack) hfacing,
    sameEnd_of_sim (sim_runJob_facing hfs hlen hack env) hfacing⟩

def facing (fs : List HostFrame) : Session :=
  .fresh ⟨fs.flatMap HostFrame.encode, List.replicate 150 ⟨.success, 512⟩⟩
    (List.replicate 4 ⟨.success, 200⟩) [] true

theorem facing_flowing {fs : List HostFrame} (h : (fs.flatMap HostFrame.encode).length ≤ 150) :
    (facing fs).inp.Flowing := by
  refine ⟨fun x hx => ?_, h.trans_eq List.length_replicate.symm⟩
  obtain ⟨-, rfl⟩ := List.mem_replicate.mp hx
  exact ⟨rfl, by decide⟩

theorem leftovers_unseen_pageEnd :
    let fs := [⟨evtPageEnd, []⟩, ⟨cmdUnlock, [1, 2, 3]⟩]
    let answers := [⟨cmdLock, []⟩, ⟨cmdAdfStatus, []⟩]
    SameEnd (probeAdf (facing (fs ++ answers))) (probeAdf (facing answers)) ∧
      SameEnd (runJob plainEnv (facing (fs ++ answers))) (runJob plainEnv (facing answers)) := by
  intro fs answers
  let left : List WireFrame :=
    [.ofHost ⟨evtPageEnd, []⟩ (by decide), .ofHost ⟨cmdUnlock, [1, 2, 3]⟩ (by decide)]
  let ack : WireFrame := .ofHost ⟨cmdLock, []⟩ (by decide)
  let rest : List UInt8 := HostFrame.encode ⟨cmdAdfStatus, []⟩
  have hlen : left.length ≤ commandMaxSkip - 1 := by decide
  have hleft : ∀ f ∈ left, f.cmd ≠ cmdLock := by decide
  have hack : ack.cmd = cmdLock := by decide
  have hstream : (facing (fs ++ answers)).inp.inStream = encodeAll left ++ (ack.encode ++ rest) := by
    decide
  have hstream' : (facing answers).inp.inStream = ack.encode ++ rest := by decide
  exact leftovers_unseen plainEnv hlen hleft hack rfl rfl hstream hstream'
    (facing_flowing (by decide +kernel)) (facing_flowing (by decide +kernel)) (by decide +kernel)

end PantumOpen.Scan
