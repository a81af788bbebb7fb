import PantumOpen.Scan.PageRun

/-! The output queue and the block of memory behind it, when allocations may fail. -/

namespace PantumOpen.Scan
open Prog

/-- The positions lie in order, and the recorded capacity is not more than what was allocated. -/
structure Handle.QueueSafe (h : Handle) : Prop where
  pos : h.outPos ≤ h.out.length
  len : h.out.length ≤ h.outCap
  cap : h.outCap ≤ h.outAlloc

/-- The pending bytes and `extra` more do not fit, even after a compaction. -/
def Handle.MustGrow (h : Handle) (extra : Nat) : Prop := h.outCap < h.pending.length + extra

instance (h : Handle) (extra : Nat) : Decidable (h.MustGrow extra) := inferInstanceAs (Decidable (_ < _))

/-- The capacities that doubling from 64 KiB leads to. -/
def PowerCap (cap : Nat) : Prop := cap = 0 ∨ ∃ k ≤ 47, cap = 2 ^ (16 + k)

/-- The reservation finds room, or its doubling loop comes to an end. -/
def Handle.ReserveEnds (h : Handle) (extra : Nat) : Prop :=
  ((if h.outPos ≠ 0 ∧ h.outPos = h.out.length then 0 else h.out.length) + extra) % 2 ^ 64 ≤ h.outCap ∨
    ∃ n, (h.pending.length + extra) % 2 ^ 64 ≤ growCap ((h.pending.length + extra) % 2 ^ 64) n h.outCap

theorem PowerCap.next {cap : Nat} (h : PowerCap cap) :
    PowerCap (if cap = 0 then 65536 else cap * 2 % 2 ^ 64) := by
  obtain rfl | ⟨k, hk, rfl⟩ := h
  · exact .inr ⟨0, Nat.zero_le _, rfl⟩
  · rw [if_neg (Nat.two_pow_pos _).ne', ← Nat.pow_succ]
    rcases hk.lt_or_eq with hk | rfl
    · have hlt : 2 ^ (16 + k + 1) < 2 ^ 64 := Nat.pow_lt_pow_right (by decide) (by omega)
      rw [Nat.mod_eq_of_lt hlt]
      exact .inr ⟨k + 1, hk, rfl⟩
    · exact .inl rfl

theorem PowerCap.le {cap : Nat} (h : PowerCap cap) : cap ≤ 2 ^ 63 := by
  obtain rfl | ⟨k, hk, rfl⟩ := h
  · exact Nat.zero_le _
  · exact Nat.pow_le_pow_right (by decide) (by omega)

theorem growCap_power {cap : Nat} (need n : Nat) (h : PowerCap cap) : PowerCap (growCap need n cap) := by
  induction n generalizing cap with
  | zero => exact h
  | succ n ih =>
    rw [growCap]
    split
    · exact ih h.next
    · exact h

theorem growCap_reaches {need n cap : Nat} (hneed : need ≤ 2 ^ 63) (h : need ≤ cap * 2 ^ n) :
    need ≤ growCap need n cap := by
  induction n generalizing cap with
  | zero => rwa [Nat.pow_zero, Nat.mul_one] at h
  | succ n ih =>
    rw [growCap]
    split
    · rename_i hlt
      have hpos : cap ≠ 0 := by
        rintro rfl
        rw [Nat.zero_mul] at h
        omega
      have hmod : cap * 2 % 2 ^ 64 = cap * 2 := Nat.mod_eq_of_lt (by omega)
      rw [if_neg hpos, hmod]
      exact ih (by rwa [Nat.mul_assoc, ← Nat.pow_succ'])
    · omega

theorem growCap_ge {need cap : Nat} (hneed : need ≤ 2 ^ 63) (h : PowerCap cap) :
    need ≤ growCap need 65 cap := by
  obtain rfl | ⟨k, hk, rfl⟩ := h
  · rw [growCap]
    split
    · exact growCap_reaches hneed (hneed.trans (by decide))
    · omega
  · apply growCap_reaches hneed (hneed.trans _)
    calc 2 ^ 63 ≤ 2 ^ 65 := by decide
      _ ≤ 2 ^ (16 + k) * 2 ^ 65 := Nat.le_mul_of_pos_left _ (Nat.two_pow_pos _)

/-- More than half of the address space is never reached: the capacity wraps to 0. -/
theorem growCap_endless {need cap : Nat} (hneed : 2 ^ 63 < need) (n : Nat) (h : PowerCap cap) :
    growCap need n cap < need :=
  (growCap_power need n h).le.trans_lt hneed

/-- What one reservation does to the queue and its block; `got` is the outcome of the allocation it
would make. -/
structure Reserved (got : Bool) (extra : Nat) (h : Handle) (r : Except Status Unit) (h' : Handle) :
    Prop where
  pending : h'.pending = h.pending
  pos : h'.outPos ≤ h'.out.length
  power : PowerCap h'.outCap
  fits : ¬ h.MustGrow extra → h.ReserveEnds extra ∧ r = .ok () ∧ h'.out.length + extra ≤ h'.outCap ∧
    h'.outCap = h.outCap ∧ h'.outAlloc = h.outAlloc
  grows : h.MustGrow extra → h.pending.length + extra ≤ 2 ^ 63 → got = true → h.ReserveEnds extra ∧
    r = .ok () ∧ h'.out.length + extra ≤ h'.outCap ∧ h'.outAlloc = h'.outCap
  fails : h.MustGrow extra → h.pending.length + extra ≤ 2 ^ 63 → got = false →
    r = .error .noMem ∧ h.outCap < h'.outCap ∧ h'.outAlloc = h.outAlloc
  wraps : 2 ^ 63 < h.pending.length + extra →
    ¬ h.ReserveEnds extra ∨ (r = .ok () ∧ h'.outCap < h'.out.length + extra)

theorem rewind_queue {h h' : Handle} (hq : h.Queue)
    (hh : h' = if h.outPos ≠ 0 ∧ h.outPos = h.out.length then { h with out := [], outPos := 0 } else h) :
    h'.pending = h.pending ∧ h'.outPos ≤ h'.out.length ∧ h'.outCap = h.outCap ∧
      h'.outAlloc = h.outAlloc ∧ h'.out.length ≤ h.out.length ∧
      h'.out.length = (if h.outPos ≠ 0 ∧ h.outPos = h.out.length then 0 else h.out.length) ∧
      (h'.out.length = 0 ∨ 0 < h.pending.length) := by
  rw [hh]
  split
  · rename_i hd
    refine ⟨?_, le_rfl, rfl, rfl, Nat.zero_le _, rfl, .inl rfl⟩
    rw [Handle.pending, Handle.pending, hd.2, List.drop_length]
    rfl
  · rename_i hd
    refine ⟨rfl, hq, rfl, rfl, le_rfl, rfl, ?_⟩
    unfold Handle.Queue at hq
    rw [Handle.pending, List.length_drop]
    omega

/-- A reservation that finds no room comes to its end exactly up to half of the address space. -/
theorem reserveEnds_growing {h : Handle} {extra : Nat} (hcap : PowerCap h.outCap)
    (hfirst : ¬ ((if h.outPos ≠ 0 ∧ h.outPos = h.out.length then 0 else h.out.length) + extra) % 2 ^ 64 ≤
      h.outCap)
    (hexact : (h.pending.length + extra) % 2 ^ 64 = h.pending.length + extra) :
    h.ReserveEnds extra ↔ h.pending.length + extra ≤ 2 ^ 63 := by
  unfold Handle.ReserveEnds
  rw [hexact]
  constructor
  · rintro (hfit | ⟨n, hn⟩)
    · exact absurd hfit hfirst
    · by_contra hs
      exact absurd hn (not_le.mpr (growCap_endless (not_le.mp hs) n hcap))
  · exact fun hs => .inr ⟨65, growCap_ge hs hcap⟩

theorem outReserve_memory {extra : Nat} (hextra : extra < 2 ^ 64) {s : Host} (hq : s.h.Queue)
    (hlen : s.h.out.length ≤ s.h.outCap) (hcap : PowerCap s.h.outCap) :
    wp (outReserve extra) (fun r s' => Reserved (s.allocs.headD true) extra s.h r s'.h) s := by
  have hmax := hcap.le
  unfold outReserve
  rw [wp_bind, wp_modify, after_ok]
  set s₁ := s.onHandle fun h =>
    if h.outPos ≠ 0 ∧ h.outPos = h.out.length then { h with out := [], outPos := 0 } else h
  obtain ⟨hpending, hpos, hcap₁, halloc, hshort, hrewound, hlast⟩ := rewind_queue hq (rfl : s₁.h = _)
  have hle : s.h.pending.length ≤ s₁.h.out.length := by
    rw [← hpending, Handle.pending, List.length_drop]
    exact Nat.sub_le _ _
  have hends (h : (s₁.h.out.length + extra) % 2 ^ 64 ≤ s₁.h.outCap) : s.h.ReserveEnds extra := by
    left
    rwa [← hrewound, ← hcap₁]
  rw [wp_bind, wp_gets, after_ok, wp_ite]
  refine ⟨fun hfit => ?_, fun hfirst => ?_⟩
  · -- Room in front: the sum is what it says, or it has wrapped around.
    have hroom (hsum : s.h.pending.length + extra ≤ 2 ^ 63) : s₁.h.out.length + extra ≤ s₁.h.outCap := by
      omega
    have hgrow (hsum : s.h.pending.length + extra ≤ 2 ^ 63) : ¬ s.h.MustGrow extra := by
      have := hroom hsum
      unfold Handle.MustGrow
      omega
    refine ⟨hpending, hpos, hcap₁ ▸ hcap, fun h => ?_, fun h hs => absurd h (hgrow hs),
      fun h hs => absurd h (hgrow hs), fun hs => .inr ⟨rfl, ?_⟩⟩
    · have hsum : s.h.pending.length + extra ≤ 2 ^ 63 := by
        unfold Handle.MustGrow at h
        omega
      exact ⟨hends hfit, rfl, hroom hsum, hcap₁, halloc⟩
    · change s₁.h.outCap < s₁.h.out.length + extra
      omega
  rw [wp_bind, wp_modify, after_ok]
  set s₂ := s₁.onHandle fun h => { h with out := h.out.drop h.outPos, outPos := 0 }
  have hout : s₂.h.out = s.h.pending := hpending
  have hcap₂ : s₂.h.outCap = s.h.outCap := hcap₁
  -- The first sum would have been small if it had wrapped around.
  have hexact : (s₂.h.out.length + extra) % 2 ^ 64 = s.h.pending.length + extra := by
    rw [hout]
    apply Nat.mod_eq_of_lt
    omega
  rw [wp_bind, wp_gets, after_ok]
  dsimp only
  rw [hexact, wp_ite]
  refine ⟨fun hfit => ?_, fun hfull => ?_⟩
  · have hgrow : ¬ s.h.MustGrow extra := by
      unfold Handle.MustGrow
      omega
    refine ⟨hout, Nat.zero_le _, hcap₂ ▸ hcap, fun _ => ⟨.inr ⟨0, ?_⟩, rfl, ?_, hcap₂, halloc⟩,
      fun h => absurd h hgrow, fun h => absurd h hgrow, fun hs => ?_⟩
    · rw [← hout, hexact, ← hcap₂]
      exact hfit
    · change s₂.h.out.length + extra ≤ s₂.h.outCap
      rwa [hout]
    · omega
  have hgrow : s.h.MustGrow extra := by
    unfold Handle.MustGrow
    omega
  have hpower := growCap_power (s.h.pending.length + extra) 65 (hcap₂ ▸ hcap)
  have hneed (hs : s.h.pending.length + extra ≤ 2 ^ 63) :
      s.h.pending.length + extra ≤ growCap (s.h.pending.length + extra) 65 s₂.h.outCap :=
    growCap_ge hs (hcap₂ ▸ hcap)
  have hends : s.h.ReserveEnds extra ↔ s.h.pending.length + extra ≤ 2 ^ 63 := by
    rw [hrewound, hcap₁] at hfirst
    rw [hout] at hexact
    exact reserveEnds_growing hcap hfirst hexact
  have hnever (hs : 2 ^ 63 < s.h.pending.length + extra) : ¬ s.h.ReserveEnds extra :=
    fun h => absurd (hends.mp h) (not_le.mpr hs)
  have hallocs₂ : s₂.allocs = s.allocs := rfl
  rw [wp_bind, wp_modify, after_ok, wp_bind]
  unfold alloc Host.onHandle wp
  dsimp only
  rw [hallocs₂]
  have hgranted {t : Handle} (ho : t.out = s₂.h.out) (hp : t.outPos = 0)
      (hc : t.outCap = growCap (s.h.pending.length + extra) 65 s₂.h.outCap) (ha : t.outAlloc = t.outCap) :
      Reserved true extra s.h (.ok ()) t := by
    refine ⟨?_, ?_, hc ▸ hpower, fun h => absurd hgrow h, fun _ hs _ => ⟨hends.mpr hs, rfl, ?_, ha⟩,
      fun _ _ h => (by cases h), fun hs => .inl (hnever hs)⟩
    · rw [Handle.pending, ho, hp, hout]
      rfl
    · rw [hp]
      exact Nat.zero_le _
    · rw [ho, hout, hc]
      exact hneed hs
  rcases s.allocs with _ | ⟨_ | _, _⟩
  · exact hgranted rfl rfl rfl rfl
  · refine ⟨hout, Nat.zero_le _, hpower, fun h => absurd hgrow h, fun _ _ h => (by cases h),
      fun _ hs _ => ⟨rfl, ?_, halloc⟩, fun hs => .inl (hnever hs)⟩
    exact lt_of_lt_of_le hgrow (hneed hs)
  · exact hgranted rfl rfl rfl rfl

/-- What happens to a queue. Only bytes that were reserved are appended. -/
inductive QueueOp
  | reserve (extra : UInt64)
  | append (row : List UInt8)
  | deliver (n : Nat)
  | reset
  deriving DecidableEq, Repr

/-- The host and how many reserved bytes have not been written yet. -/
structure QueueState where
  host : Host
  room : Nat

def QueueOp.step (q : QueueState) : QueueOp → QueueState
  | .reserve extra =>
    ⟨(outReserve extra.toNat q.host).2, if (outReserve extra.toNat q.host).1.isOk then extra.toNat else 0⟩
  | .append row =>
    if row.length ≤ q.room then
      ⟨q.host.onHandle fun h => { h with out := h.out ++ row }, q.room - row.length⟩
    else q
  | .deliver n => ⟨q.host.onHandle fun h => h.advance (min n h.pending.length), q.room⟩
  | .reset => ⟨q.host.onHandle fun h => { h with out := [], outPos := 0 }, 0⟩

/-- A step leaves a safe queue with the reserved bytes inside the block, and a reservation comes to an
end and neither loses a pending byte nor makes less room than was asked for. -/
structure QueueStepOk (op : QueueOp) (q q' : QueueState) : Prop where
  safe : q'.host.h.QueueSafe
  room : q'.host.h.out.length + q'.room ≤ q'.host.h.outCap
  ends : ∀ extra, op = .reserve extra → q.host.h.ReserveEnds extra.toNat
  pending : ∀ extra, op = .reserve extra → q'.host.h.pending = q.host.h.pending
  granted : ∀ extra, op = .reserve extra → (outReserve extra.toNat q.host).1 = .ok () →
    q'.room = extra.toNat

def QueueRunOk : List QueueOp → QueueState → Prop
  | [], _ => True
  | op :: ops, q => QueueStepOk op q (op.step q) ∧ QueueRunOk ops (op.step q)

/-- A reservation that has to grow the block keeps within half of the address space and gets the
memory. -/
def QueueOp.Granted (q : QueueState) : QueueOp → Prop
  | .reserve extra => q.host.h.MustGrow extra.toNat →
    q.host.h.pending.length + extra.toNat ≤ 2 ^ 63 ∧ q.host.allocs.headD true = true
  | _ => True

def GrowthGranted : List QueueOp → QueueState → Prop
  | [], _ => True
  | op :: ops, q => op.Granted q ∧ GrowthGranted ops (op.step q)

structure QueueState.Sound (q : QueueState) : Prop where
  safe : q.host.h.QueueSafe
  exact : q.host.h.outCap = q.host.h.outAlloc
  power : PowerCap q.host.h.outCap
  room : q.host.h.out.length + q.room ≤ q.host.h.outCap

theorem QueueState.Sound.reserved {q : QueueState} (hq : q.Sound) (extra : UInt64) :
    Reserved (q.host.allocs.headD true) extra.toNat q.host.h (outReserve extra.toNat q.host).1
      (outReserve extra.toNat q.host).2.h :=
  outReserve_memory extra.toNat_lt hq.safe.pos hq.safe.len hq.power

theorem QueueOp.reserve_room {q : QueueState} {extra : UInt64}
    (h : (outReserve extra.toNat q.host).1 = .ok ()) :
    (QueueOp.step q (.reserve extra)).room = extra.toNat := by
  change (if (outReserve extra.toNat q.host).1.isOk then extra.toNat else 0) = extra.toNat
  rw [h]
  rfl

theorem QueueOp.step_sound {q : QueueState} (hq : q.Sound) {op : QueueOp} (hop : op.Granted q) :
    (op.step q).Sound ∧ QueueStepOk op q (op.step q) := by
  have hlen := hq.room
  have hpos := hq.safe.pos
  cases op with
  | reserve extra =>
    have hspec := hq.reserved extra
    have hexact := hq.exact
    obtain ⟨hends, hok, hroom, hcap⟩ : q.host.h.ReserveEnds extra.toNat ∧
        (outReserve extra.toNat q.host).1 = .ok () ∧
        (outReserve extra.toNat q.host).2.h.out.length + extra.toNat ≤
          (outReserve extra.toNat q.host).2.h.outCap ∧
        (outReserve extra.toNat q.host).2.h.outCap = (outReserve extra.toNat q.host).2.h.outAlloc := by
      by_cases hgrow : q.host.h.MustGrow extra.toNat
      · obtain ⟨hends, hok, hroom, hcap⟩ := hspec.grows hgrow (hop hgrow).1 (hop hgrow).2
        exact ⟨hends, hok, hroom, hcap.symm⟩
      · obtain ⟨hends, hok, hroom, hcap, halloc⟩ := hspec.fits hgrow
        exact ⟨hends, hok, hroom, hcap.trans (hexact.trans halloc.symm)⟩
    have hextra := QueueOp.reserve_room hok
    have hsafe : (outReserve extra.toNat q.host).2.h.QueueSafe :=
      ⟨hspec.pos, (Nat.le_add_right _ _).trans hroom, hcap.le⟩
    have hroom : (outReserve extra.toNat q.host).2.h.out.length +
        (QueueOp.step q (.reserve extra)).room ≤ (outReserve extra.toNat q.host).2.h.outCap :=
      hextra.symm ▸ hroom
    refine ⟨⟨hsafe, hcap, hspec.power, hroom⟩, hsafe, hroom, fun n h => ?_, fun _ _ => hspec.pending,
      fun n h _ => ?_⟩
    · rwa [← QueueOp.reserve.inj h]
    · rw [hextra, QueueOp.reserve.inj h]
  | append row =>
    -- Only as much is appended as was reserved; a longer row is no operation of the run.
    by_cases hrow : row.length ≤ q.room
    · have hstep : QueueOp.step q (.append row) =
          ⟨q.host.onHandle fun h => { h with out := h.out ++ row }, q.room - row.length⟩ := if_pos hrow
      rw [hstep]
      have hroom : (q.host.h.out ++ row).length + (q.room - row.length) ≤ q.host.h.outCap := by
        rw [List.length_append]
        omega
      have hsafe : Handle.QueueSafe { q.host.h with out := q.host.h.out ++ row } :=
        ⟨hpos.trans (by simp), (Nat.le_add_right _ _).trans hroom, hq.safe.cap⟩
      exact ⟨⟨hsafe, hq.exact, hq.power, hroom⟩, hsafe, hroom, by simp, by simp, by simp⟩
    · have hstep : QueueOp.step q (.append row) = q := if_neg hrow
      rw [hstep]
      exact ⟨hq, hq.safe, hq.room, by simp, by simp, by simp⟩
  | deliver n =>
    have hsafe : (q.host.h.advance (min n q.host.h.pending.length)).QueueSafe := by
      refine ⟨?_, hq.safe.len, hq.safe.cap⟩
      change q.host.h.outPos + min n q.host.h.pending.length ≤ q.host.h.out.length
      rw [Handle.pending, List.length_drop]
      omega
    exact ⟨⟨hsafe, hq.exact, hq.power, hq.room⟩, hsafe, hq.room, by simp, by simp, by simp⟩
  | reset =>
    have hsafe : Handle.QueueSafe { q.host.h with out := [], outPos := 0 } :=
      ⟨le_rfl, Nat.zero_le _, hq.safe.cap⟩
    exact ⟨⟨hsafe, hq.exact, hq.power, Nat.zero_le _⟩, hsafe, Nat.zero_le _, by simp, by simp, by simp⟩

/-- A growth that is refused has already raised the recorded capacity, and one beyond half of the
address space wraps around: it finds room that is not there, or never ends. -/
theorem QueueOp.step_unsafe {q : QueueState} (hq : q.Sound) {op : QueueOp} (hop : ¬ op.Granted q) :
    ¬ QueueStepOk op q (op.step q) := by
  intro hok
  cases op with
  | reserve extra =>
    obtain ⟨hgrow, hrefused⟩ := Classical.not_imp.mp hop
    have hspec := hq.reserved extra
    rcases le_or_gt (q.host.h.pending.length + extra.toNat) (2 ^ 63) with hsum | hsum
    · have hgot : q.host.allocs.headD true = false := Bool.eq_false_iff.mpr fun h => hrefused ⟨hsum, h⟩
      obtain ⟨-, hcap, halloc⟩ := hspec.fails hgrow hsum hgot
      have hle : (outReserve extra.toNat q.host).2.h.outCap ≤
          (outReserve extra.toNat q.host).2.h.outAlloc := hok.safe.cap
      have hexact := hq.exact
      omega
    · rcases hspec.wraps hsum with hnever | ⟨hgood, hless⟩
      · exact hnever (hok.ends extra rfl)
      · have hroom := hok.room
        rw [QueueOp.reserve_room hgood] at hroom
        exact absurd hroom (not_le.mpr hless)
  | append _ => exact hop trivial
  | deliver _ => exact hop trivial
  | reset => exact hop trivial

theorem queueRunOk_iff_of_sound (ops : List QueueOp) {q : QueueState} (hq : q.Sound) :
    QueueRunOk ops q ↔ GrowthGranted ops q := by
  induction ops generalizing q with
  | nil => exact Iff.rfl
  | cons op ops ih =>
    by_cases hop : op.Granted q
    · obtain ⟨hs, hok⟩ := QueueOp.step_sound hq hop
      exact and_congr (iff_of_true hok hop) (ih hs)
    · exact iff_of_false (fun h => QueueOp.step_unsafe hq hop h.1) fun h => hop h.1

def newQueue (allocs : List Bool) (ditherReady : Bool) : QueueState :=
  ⟨⟨Handle.zero, true, allocs, ditherReady⟩, 0⟩

/-- The queue of a handle is what it should be throughout a run exactly when every reservation of the
run that has to grow the block asks for at most 2 ^ 63 bytes in all and is given the memory. -/
theorem queueRunOk_iff (allocs : List Bool) (ditherReady : Bool) (ops : List QueueOp) :
    QueueRunOk ops (newQueue allocs ditherReady) ↔ GrowthGranted ops (newQueue allocs ditherReady) :=
  queueRunOk_iff_of_sound ops ⟨⟨le_rfl, le_rfl, le_rfl⟩, rfl, .inl rfl, le_rfl⟩

/-- The first reservation of a handle is refused: 64 KiB are recorded and none allocated, so that the
next one is granted without memory. -/
theorem newQueue_unsafe : ¬ ∀ allocs ops, QueueRunOk ops (newQueue allocs true) := by
  intro h
  have hcap := (h [false] [.reserve 1]).1.safe.cap
  exact absurd hcap (by decide +kernel)

example : (outReserve 1 (QueueOp.step (newQueue [false] true) (.reserve 1)).host).1 = .ok () := by
  decide +kernel

-- With one byte pending the sum wraps to 0, and all of the address space is granted.
example : (outReserve (2 ^ 64 - 1)
    (QueueOp.step (QueueOp.step (newQueue [] true) (.reserve 1)) (.append [0])).host).1 = .ok () := by
  decide +kernel

end PantumOpen.Scan
