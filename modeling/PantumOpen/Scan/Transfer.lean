import PantumOpen.Scan.Job

/-! What the read functions take off the IN stream when a transfer that fails moves no byte. -/

namespace PantumOpen.Scan
open Prog Bytes

/-- A timeout or a failed transfer leaves the stream where it was. -/
def Inp.Clean (i : Inp) : Prop := ∀ x ∈ i.inSched, x.rc ≠ .success → x.n = 0

/-- Exactly `bs` went from the stream to the host. -/
structure Moved (i i' : Inp) (bs : List UInt8) : Prop where
  stream : i.inStream = bs ++ i'.inStream
  sched : i'.inSched <:+ i.inSched

theorem Moved.refl (i : Inp) : Moved i i [] := ⟨rfl, List.suffix_rfl⟩

theorem Moved.trans {i j k : Inp} {as bs : List UInt8} (h : Moved i j as) (h' : Moved j k bs) :
    Moved i k (as ++ bs) :=
  ⟨by rw [h.stream, h'.stream, List.append_assoc], h'.sched.trans h.sched⟩

theorem Moved.clean {i j : Inp} {bs : List UInt8} (h : Moved i j bs) (hc : i.Clean) : j.Clean :=
  fun x hx => hc x (h.sched.mem hx)

theorem Moved.sched_le {i j : Inp} {bs : List UInt8} (h : Moved i j bs) :
    j.inSched.length ≤ i.inSched.length := h.sched.length_le

theorem Moved.eq_of_length {i j : Inp} {bs p rest : List UInt8} (h : Moved i j bs)
    (hp : i.inStream = p ++ rest) (hl : bs.length = p.length) : bs = p ∧ j.inStream = rest :=
  List.append_inj (h.stream.symm.trans hp) hl

def XferPost (len : Nat) (i : Inp) : Except Status (Rc × List UInt8) → Inp → Prop
  | .ok (rc, bs), i' =>
    Moved i i' bs ∧ bs.length ≤ len ∧ (rc ≠ .success → bs = []) ∧
      (rc = .success → i'.inSched.length < i.inSched.length)
  | .error _, _ => False

theorem bulkIn_spec (len : Nat) {i : Inp} (hc : i.Clean) : wp (bulkIn len) (XferPost len i) i := by
  rcases i with ⟨stream, _ | ⟨x, xs⟩⟩
  · exact ⟨Moved.refl _, Nat.zero_le _, fun _ => rfl, fun h => by cases h⟩
  · refine ⟨⟨(List.take_append_drop _ _).symm, List.suffix_cons x xs⟩, ?_, fun h => ?_, fun _ => ?_⟩
    · exact (List.length_take_le _ _).trans (Nat.min_le_right _ _)
    · change stream.take (min x.n len) = []
      rw [hc x List.mem_cons_self h]
      simp
    · exact Nat.lt_succ_self _

theorem retry_bulkIn_spec (len n : Nat) {i : Inp} (hc : i.Clean) :
    wp (retry (bulkIn len) [] n) (XferPost len i) i := by
  -- Every failed try leaves the stream as it was.
  refine wp_loop (fun r j => Moved i j [] ∧ r = (.other, [])) ?_ ?_ n ⟨Moved.refl i, rfl⟩
  · rintro _ j ⟨hj, -⟩
    rw [wp_bind]
    apply wp_mono (bulkIn_spec len (hj.clean hc))
    intro r k hr
    match r, hr with
    | .ok (rc, bs), ⟨hm, hl, he, hs⟩ =>
      rw [after_ok, wp_ite]
      refine ⟨fun _ => ⟨hj.trans hm, hl, he, fun h => (hs h).trans_le hj.sched_le⟩, fun h => ?_⟩
      have hrc : rc = .other := by
        cases rc
        · exact absurd (Or.inl rfl) h
        · exact absurd (Or.inr rfl) h
        · rfl
      have hbs : bs = [] := he (by rw [hrc]; decide)
      subst hrc hbs
      exact ⟨hj.trans hm, rfl⟩
  · rintro _ j ⟨hj, rfl⟩
    exact ⟨hj, Nat.zero_le _, fun _ => rfl, fun h => by cases h⟩

def ReadPost (len : Nat) (i : Inp) : Except Status (List UInt8) → Inp → Prop
  | .ok bs, i' => Moved i i' bs ∧ bs.length = len ∧ (0 < len → i'.inSched.length < i.inSched.length)
  | .error e, i' => e = .ioError ∧ ∃ bs, Moved i i' bs ∧ bs.length < len

theorem usbRead_spec (len : Nat) {i : Inp} (hc : i.Clean) : wp (usbRead len) (ReadPost len i) i := by
  refine wp_loop_of_measure
    (fun buf j => Moved i j buf ∧ buf.length ≤ len ∧
      (0 < buf.length → j.inSched.length < i.inSched.length))
    (fun buf _ => len - buf.length) ?_ ⟨Moved.refl i, Nat.zero_le _, fun h => absurd h (by simp)⟩
    (by simp)
  rintro buf j ⟨hj, hl, hs⟩
  rw [wp_ite]
  refine ⟨fun hlt => ?_, fun hge => ⟨hj, by omega, fun h0 => hs (by omega)⟩⟩
  rw [wp_bind]
  apply wp_mono (retry_bulkIn_spec _ 3 (hj.clean hc))
  intro r k hr
  match r, hr with
  | .ok (rc, bs), ⟨hm, hbl, he, hks⟩ =>
    rw [after_ok, wp_ite]
    refine ⟨fun hbad => ?_, fun hgood => ?_⟩
    · have hnil : bs = [] := hbad.elim he id
      subst hnil
      rw [wp_fail]
      exact ⟨rfl, buf, by simpa using hj.trans hm, hlt⟩
    · obtain ⟨hrc, hne⟩ := not_or.mp hgood
      have hpos : 0 < bs.length := List.length_pos_iff.mpr hne
      have hk : k.inSched.length < i.inSched.length :=
        (hks (not_not.mp hrc)).trans_le hj.sched_le
      refine ⟨⟨hj.trans hm, ?_, fun _ => hk⟩, ?_⟩ <;> simp only [List.length_append] <;> omega

theorem retry_bulkIn_length (len n : Nat) (i : Inp) :
    wp (retry (bulkIn len) [] n) (fun r _ => ∀ a, r = .ok a → a.2.length ≤ len) i := by
  refine wp_loop (fun r _ => r.2.length ≤ len) ?_ (fun r j hr => ?_) n (Nat.zero_le len)
  · intro _ j _
    have hbulk : wp (bulkIn len) (fun r _ => ∃ a, r = .ok a ∧ a.2.length ≤ len) j := by
      rcases j with ⟨stream, _ | ⟨x, xs⟩⟩
      · exact ⟨_, rfl, Nat.zero_le _⟩
      · exact ⟨_, rfl, (List.length_take_le _ _).trans (Nat.min_le_right _ _)⟩
    rw [wp_bind]
    apply wp_mono hbulk
    rintro _ k ⟨a, rfl, ha⟩
    rw [after_ok, wp_ite]
    exact ⟨fun _ _ he => (by cases he; exact ha), fun _ => ha⟩
  · exact fun _ he => (by cases he; exact hr)

theorem usbRead_length (len : Nat) (i : Inp) :
    wp (usbRead len) (fun r _ => ∀ bs, r = .ok bs → bs.length = len) i := by
  refine wp_loop_of_measure (fun buf _ => buf.length ≤ len) (fun buf _ => len - buf.length) ?_
    (Nat.zero_le len) (Nat.lt_succ_of_le (Nat.sub_le _ _))
  intro buf j hbuf
  rw [wp_ite]
  refine ⟨fun hlt => ?_, fun hlt => ?_⟩
  · rw [wp_bind]
    apply wp_mono (retry_bulkIn_length _ 3 j)
    intro r k hr
    match r with
    | .error _ => exact fun _ he => by cases he
    | .ok a =>
      rw [after_ok, wp_ite]
      refine ⟨fun _ _ he => (by cases he), fun hgood => ?_⟩
      have hle := hr a rfl
      have hpos := List.length_pos_iff.mpr (not_or.mp hgood).2
      change (buf ++ a.2).length ≤ len ∧ len - (buf ++ a.2).length < len - buf.length
      rw [List.length_append]
      omega
  · rintro _ he
    cases he
    omega

def DrainPost (plen : Nat) (i : Inp) : Except Status Unit → Inp → Prop
  | .ok _, i' => ∃ bs, Moved i i' bs ∧ bs.length = plen
  | .error e, i' => e = .ioError ∧ ∃ bs, Moved i i' bs ∧ bs.length < plen

theorem drainPayload_spec (plen : Nat) {i : Inp} (hc : i.Clean) :
    wp (drainPayload plen) (DrainPost plen i) i := by
  refine wp_loop_of_measure
    (fun left j => left ≤ plen ∧ ∃ bs, Moved i j bs ∧ bs.length = plen - left)
    (fun left _ => left) ?_ ⟨Nat.le_refl _, [], Moved.refl i, by simp⟩ (by simp)
  rintro left j ⟨hl, bs, hj, hbs⟩
  rw [wp_ite]
  refine ⟨fun h0 => ⟨bs, hj, by omega⟩, fun h0 => ?_⟩
  rw [wp_bind]
  apply wp_mono (usbRead_spec _ (hj.clean hc))
  intro r k hr
  match r, hr with
  | .ok cs, ⟨hm, hcl, _⟩ =>
    refine ⟨⟨by omega, bs ++ cs, hj.trans hm, ?_⟩, by omega⟩
    rw [List.length_append]
    omega
  | .error e, ⟨he, cs, hm, hcl⟩ =>
    refine ⟨he, bs ++ cs, hj.trans hm, ?_⟩
    rw [List.length_append]
    omega

def HeaderPost (got : List UInt8) (i : Inp) : Except Status Frame → Inp → Prop
  | .ok f, i' => ∃ bs, Moved i i' bs ∧ (got ++ bs).length = max got.length pantumHeaderLen ∧
      getBe32 (got ++ bs) 0 = pantumMagic ∧ f = Frame.ofHeader (got ++ bs) ∧
      f.plen ≤ pantumMaxPayload ∧
      (got.length < pantumHeaderLen → i'.inSched.length < i.inSched.length)
  | .error e, i' => e = .ioError ∧
      ∃ bs, Moved i i' bs ∧ (got ++ bs).length ≤ max got.length pantumHeaderLen

theorem recvHeader_spec (got : List UInt8) {i : Inp} (hc : i.Clean) :
    wp (recvHeader got) (HeaderPost got i) i := by
  unfold recvHeader
  rw [wp_bind]
  apply wp_mono (usbRead_spec _ hc)
  intro r j hr
  match r, hr with
  | .error e, ⟨he, bs, hm, hl⟩ =>
    refine ⟨he, bs, hm, ?_⟩
    rw [List.length_append]
    omega
  | .ok bs, ⟨hm, hl, hs⟩ =>
    have hlen : (got ++ bs).length = max got.length pantumHeaderLen := by
      rw [List.length_append]
      omega
    rw [after_ok, wp_ite]
    refine ⟨fun _ => ⟨rfl, bs, hm, hlen.le⟩, fun hmagic => ?_⟩
    rw [wp_ite]
    exact ⟨fun _ => ⟨rfl, bs, hm, hlen.le⟩, fun hplen =>
      ⟨bs, hm, hlen, not_not.mp hmagic, rfl, not_lt.mp hplen, fun h => hs (by omega)⟩⟩

def ProbePost (i : Inp) : Except Status (Option Frame) → Inp → Prop
  | .ok none, i' => Moved i i' []
  | .ok (some f), i' => ∃ bs, Moved i i' bs ∧ bs.length = pantumHeaderLen ∧
      getBe32 bs 0 = pantumMagic ∧ f = Frame.ofHeader bs ∧ f.plen ≤ pantumMaxPayload ∧
      i'.inSched.length < i.inSched.length
  | .error e, i' => e = .ioError ∧ ∃ bs, Moved i i' bs ∧ bs.length ≤ pantumHeaderLen

theorem recvFrame_spec {i : Inp} (hc : i.Clean) :
    wp (some <$> recvFrame) (ProbePost i) i := by
  rw [wp_map]
  apply wp_mono (recvHeader_spec [] hc)
  intro r j hr
  match r, hr with
  | .error e, ⟨he, bs, hm, hl⟩ => exact ⟨he, bs, hm, by simpa using hl⟩
  | .ok f, ⟨bs, hm, hl, hmagic, hf, hp, hs⟩ =>
    exact ⟨bs, hm, by simpa using hl, by simpa using hmagic, by simpa using hf, hp,
      hs (by decide)⟩

theorem recvFrameProbe_spec {i : Inp} (hc : i.Clean) : wp recvFrameProbe (ProbePost i) i := by
  unfold recvFrameProbe
  rw [wp_bind]
  apply wp_mono (bulkIn_spec _ hc)
  intro r j hr
  match r, hr with
  | .ok (rc, got), ⟨hm, hl, he, hs⟩ =>
    rw [after_ok, wp_ite]
    refine ⟨fun _ => ⟨rfl, got, hm, hl⟩, fun _ => ?_⟩
    rw [wp_ite]
    refine ⟨fun hnil => ?_, fun hne => ?_⟩
    · rwa [show got = [] from hnil] at hm
    have hrc : rc = .success := by
      by_contra hrc
      exact hne (he hrc)
    rw [wp_map]
    apply wp_mono (recvHeader_spec got (hm.clean hc))
    intro r k hr
    match r, hr with
    | .error e, ⟨he, bs, hk, hlen⟩ =>
      exact ⟨he, got ++ bs, hm.trans hk, by simpa [Nat.max_eq_right hl] using hlen⟩
    | .ok f, ⟨bs, hk, hlen, hmagic, hf, hp, _⟩ =>
      exact ⟨got ++ bs, hm.trans hk, by simpa [Nat.max_eq_right hl] using hlen, hmagic, hf, hp,
        hk.sched_le.trans_lt (hs hrc)⟩

/-! Whatever the transfers do, the functions only take them off the front of the schedule. -/

theorem consumes_bulkIn (len : Nat) : Consumes Inp.inSched (bulkIn len) := by
  rintro ⟨_, _ | ⟨x, xs⟩⟩
  · exact List.suffix_rfl
  · exact List.suffix_cons x xs

theorem consumes_usbRead (len : Nat) : Consumes Inp.inSched (usbRead len) :=
  consumes_loop (fun _ => consumes_ite (consumes_bind
    (consumes_loop (fun _ => consumes_bind (consumes_bulkIn _) fun _ =>
      consumes_ite (consumes_pure _) (consumes_pure _)) (fun _ => consumes_pure _) _ _)
    fun _ => consumes_ite (consumes_fail _) (consumes_pure _)) (consumes_pure _))
    (fun _ => consumes_pure _) _ _

theorem consumes_drainPayload (plen : Nat) : Consumes Inp.inSched (drainPayload plen) :=
  consumes_loop (fun _ => consumes_ite (consumes_pure _)
    (consumes_bind (consumes_usbRead _) fun _ => consumes_pure _)) (fun _ => consumes_pure _) _ _

theorem consumes_recvHeader (got : List UInt8) : Consumes Inp.inSched (recvHeader got) :=
  consumes_bind (consumes_usbRead _) fun _ =>
    consumes_ite (consumes_fail _) (consumes_ite (consumes_fail _) (consumes_pure _))

theorem consumes_recvFrameProbe : Consumes Inp.inSched recvFrameProbe :=
  consumes_bind (consumes_bulkIn _) fun _ => consumes_ite (consumes_fail _)
    (consumes_ite (consumes_pure _) (consumes_bind (consumes_recvHeader _) fun _ => consumes_pure _))

theorem consumes_drainJob : Consumes Inp.inSched drainJob :=
  consumes_loop (fun _ => consumes_bind (consumes_recvHeader _) fun _ =>
    consumes_bind (consumes_drainPayload _) fun _ =>
      consumes_ite (consumes_pure _) (consumes_pure _)) (fun _ => consumes_pure _) _ _

theorem consumes_ackPayload (f : Frame) (reply : Option Nat) :
    Consumes Inp.inSched (ackPayload f reply) := by
  match reply with
  | none => exact consumes_bind (consumes_drainPayload _) fun _ => consumes_pure _
  | some _ => exact consumes_ite (consumes_fail _) (consumes_ite
      (consumes_bind (consumes_ignore (consumes_drainPayload _)) fun _ => consumes_fail _)
      (consumes_usbRead _))

end PantumOpen.Scan
