import PantumOpen.Lib.Sim
import PantumOpen.Scan.PageRun

/-! Two jobs side by side. `K` relates the two hosts and `I` the two IN endpoints; from what these
relations have to give for a few functions follows that the jobs go on alike. -/

namespace PantumOpen.Scan
open Prog Bytes

/-- What two OUT endpoints were given since they were `b` and `b'` is the same. -/
structure Outp.Twin (b b' o o' : Outp) : Prop where
  sched : o'.outSched = o.outSched
  sent : ∃ fs, o.sent = b.sent ++ fs ∧ o'.sent = b'.sent ++ fs
  stream : ∃ bs, o.outStream = b.outStream ++ bs ∧ o'.outStream = b'.outStream ++ bs

theorem Outp.Twin.refl {o o' : Outp} (h : o'.outSched = o.outSched) : Outp.Twin o o' o o' :=
  ⟨h, ⟨[], (List.append_nil _).symm, (List.append_nil _).symm⟩,
    [], (List.append_nil _).symm, (List.append_nil _).symm⟩

structure Flags where
  scanning : Bool
  locked : Bool
  cancelled : Bool
  eof : Bool
  nonBlocking : Bool
  feeding : Bool

def Handle.flags (h : Handle) : Flags :=
  ⟨h.scanning, h.locked, h.cancelled, h.eof, h.nonBlocking, h.feeding⟩

def Handle.withFlags (h : Handle) (fl : Flags) : Handle :=
  { h with
    scanning := fl.scanning, locked := fl.locked, cancelled := fl.cancelled, eof := fl.eof
    nonBlocking := fl.nonBlocking, feeding := fl.feeding }

def FlagUpdate (f : Handle → Handle) : Prop := ∃ g : Flags → Flags, ∀ h, f h = h.withFlags (g h.flags)

/-- What a relation between two hosts must give for two jobs to go on alike. -/
structure Companions (env env' : Env) (K : Host → Host → Prop) : Prop where
  dbgLevel : env'.dbgLevel = env.dbgLevel
  flags : ∀ {s s'}, K s s' → s'.h.flags = s.h.flags
  source : ∀ {s s'}, K s s' → s'.h.val.sourceIsAdf = s.h.val.sourceIsAdf
  settings : ∀ {s s'}, K s s' → s'.h.val.editSettings = s.h.val.editSettings
  format : ∀ {s s'}, K s s' → s'.h.params.format = s.h.params.format
  lines : ∀ {s s'}, K s s' → s'.h.params.lines = s.h.params.lines
  update : ∀ {s s'} fl, K s s' → K (s.onHandle (·.withFlags fl)) (s'.onHandle (·.withFlags fl))
  reserve : ∀ body, Sim K K Eq (rawReserve body) (rawReserve body)
  fill : ∀ upto, Sim K K Eq (emitWhiteRows env upto) (emitWhiteRows env' upto)
  place : ∀ k : Block, k.first < 2 ^ 32 → k.rows < 2 ^ 32 →
    Sim K K Eq (placeBlock env k) (placeBlock env' k)

structure Readers (I : Inp → Inp → Prop) : Prop where
  read : ∀ len, Sim I I Eq (usbRead len) (usbRead len)
  poll : Sim I I Eq recvFrameProbe recvFrameProbe

structure Session.Paired (K : Host → Host → Prop) (I : Inp → Inp → Prop) (b b' : Outp)
    (s s' : Session) : Prop where
  host : K s.host s'.host
  inp : I s.inp s'.inp
  outp : Outp.Twin b b' s.outp s'.outp

namespace Readers
variable {I : Inp → Inp → Prop} (hI : Readers I)
include hI

theorem drain (plen : Nat) : Sim I I Eq (drainPayload plen) (drainPayload plen) :=
  sim_loop_eq (fun _ _ => id) (fun _ => sim_ite (fun _ => sim_pure rfl) fun _ =>
    sim_bind_eq (hI.read _) fun _ => sim_pure rfl) (fun _ => sim_pure rfl) _ _

theorem header (got : List UInt8) : Sim I I Eq (recvHeader got) (recvHeader got) :=
  sim_bind_eq (hI.read _) fun _ => sim_ite (fun _ => sim_fail _) fun _ =>
    sim_ite (fun _ => sim_fail _) fun _ => sim_pure rfl

theorem skip (cmd n : Nat) : Sim I I Eq (skipToAck cmd n) (skipToAck cmd n) :=
  sim_loop_eq (fun _ _ => id) (fun _ => sim_bind_eq (hI.header _) fun _ =>
    sim_ite (fun _ => sim_pure rfl) fun _ => sim_bind_eq (hI.drain _) fun _ => sim_pure rfl)
    (fun _ => sim_fail _) _ _

theorem ack (f : Frame) (reply : Option Nat) : Sim I I Eq (ackPayload f reply) (ackPayload f reply) := by
  match reply with
  | none => exact sim_bind_eq (hI.drain _) fun _ => sim_pure rfl
  | some len =>
    refine sim_ite (fun _ => sim_fail _) fun _ => sim_ite (fun _ => ?_) fun _ => hI.read _
    exact sim_bind_eq (sim_ignore (hI.drain _)) fun _ => sim_fail _

theorem echo {env env' : Env} (hdbg : env'.dbgLevel = env.dbgLevel) (plen : Nat) :
    Sim I I Eq (logSettingsEcho env plen) (logSettingsEcho env' plen) := by
  have hecho : logSettingsEcho env' plen = logSettingsEcho env plen := by
    unfold logSettingsEcho
    rw [hdbg]
  rw [hecho]
  exact sim_ite (fun _ => hI.drain _) fun _ => sim_bind_eq (hI.read _) fun _ => sim_pure rfl

theorem drainJob : Sim I I Eq drainJob drainJob :=
  sim_loop_eq (fun _ _ => id) (fun _ => sim_bind_eq (hI.header _) fun _ =>
    sim_bind_eq (hI.drain _) fun _ => sim_ite (fun _ => sim_pure rfl) fun _ => sim_pure rfl)
    (fun _ => sim_pure rfl) _ _

end Readers

theorem readers_eq : Readers Eq := ⟨fun _ => sim_refl _, sim_refl _⟩

section
variable {b b' : Outp}

theorem sim_bulkOut (buf : List UInt8) :
    Sim (Outp.Twin b b') (Outp.Twin b b') Eq (bulkOut buf) (bulkOut buf) := by
  rintro ⟨sched, stream, sent⟩ ⟨sched', stream', sent'⟩ ⟨hsched, hsent, bs, hs, hs'⟩
  change sched' = sched at hsched
  subst hsched
  match sched' with
  | [] => exact ⟨rfl, rfl, hsent, bs, hs, hs'⟩
  | x :: xs =>
    refine ⟨rfl, rfl, hsent, bs ++ buf.take (min x.n buf.length), ?_, ?_⟩
    · rw [← List.append_assoc, ← hs]
      rfl
    · rw [← List.append_assoc, ← hs']
      rfl

theorem sim_usbWrite (buf : List UInt8) :
    Sim (Outp.Twin b b') (Outp.Twin b b') Eq (usbWrite buf) (usbWrite buf) :=
  sim_loop_eq (fun _ _ => id) (fun _ => sim_ite (fun _ => sim_bind_eq (sim_loop_eq (fun _ _ => id)
      (fun _ => sim_bind_eq (sim_bulkOut _) fun _ =>
        sim_ite (fun _ => sim_pure rfl) fun _ => sim_pure rfl) (fun _ => sim_pure rfl) _ _)
    fun _ => sim_ite (fun _ => sim_fail _) fun _ => sim_pure rfl) fun _ => sim_pure rfl)
    (fun _ => sim_pure rfl) _ _

theorem sim_send (cmd : Nat) (payload : List UInt8) :
    Sim (Outp.Twin b b') (Outp.Twin b b') Eq (sendFrame cmd payload) (sendFrame cmd payload) := by
  refine sim_bind_eq (sim_modify fun o o' ⟨hsched, ⟨fs, hs, hs'⟩, hstream⟩ =>
    ⟨hsched, ⟨fs ++ [⟨cmd, payload⟩], ?_, ?_⟩, hstream⟩) fun _ =>
    sim_ite (fun _ => sim_fail _) fun _ => sim_usbWrite _
  · rw [← List.append_assoc, ← hs]
  · rw [← List.append_assoc, ← hs']

end

structure Host.Along (H : Handle → Handle → Prop) (s s' : Host) : Prop where
  handle : H s.h s'.h
  valid : s'.valid = s.valid
  allocs : false ∉ s.allocs ∧ false ∉ s'.allocs

theorem Host.Along.emits {H : Handle → Handle → Prop} {f f' : Nat → List UInt8} {s s' t t' : Host}
    (hs : Host.Along H s s') (he : Emits f s t) (he' : Emits f' s' t') (hH : H t.h t'.h) :
    Host.Along H t t' where
  handle := hH
  valid := (he'.valid.trans hs.valid).trans he.valid.symm
  allocs := ⟨fun hf => hs.allocs.1 (he.allocs.mem hf), fun hf => hs.allocs.2 (he'.allocs.mem hf)⟩

theorem sim_of_emits {H : Handle → Handle → Prop} {m m' : Prog Status Host Unit}
    (h : ∀ s s', Host.Along H s s' → ∃ f f' target, wp m (EmitPost f target s) s ∧
      wp m' (EmitPost f' target s') s' ∧ ∀ t t', Emits f s t → Emits f' s' t' →
        t.h.nextRow = target → t'.h.nextRow = target → H t.h t'.h) :
    Sim (Host.Along H) (Host.Along H) Eq m m' := by
  intro s s' hs
  obtain ⟨f, f', target, hm, hm', hH⟩ := h s s' hs
  unfold wp at hm hm'
  match (m s).1, (m s).2, hm, (m' s').1, (m' s').2, hm' with
  | .error _, _, hm, _, _, _ => exact absurd hm.2.1 hs.allocs.1
  | .ok _, _, _, .error _, _, hm' => exact absurd hm'.2.1 hs.allocs.2
  | .ok _, t, ⟨he, hn⟩, .ok _, t', ⟨he', hn'⟩ => exact ⟨rfl, hs.emits he he' (hH t t' he he' hn hn')⟩

theorem sim_rawReserve {H : Handle → Handle → Prop} (hH : ∀ s s' t t', H s.h s'.h →
      Emits (fun _ => []) s t → Emits (fun _ => []) s' t' → t.h.nextRow = s.h.nextRow →
      t'.h.nextRow = s'.h.nextRow → H t.h t'.h) (body : Nat) :
    Sim (Host.Along H) (Host.Along H) Eq (rawReserve body) (rawReserve body) := by
  intro s s' hs
  obtain ⟨⟨r, hr, hf⟩, he, hn⟩ := rawReserve_spec (fun _ => []) body s
  obtain ⟨⟨r', hr', hf'⟩, he', hn'⟩ := rawReserve_spec (fun _ => []) body s'
  have hroom : r = true := eq_true_of_ne_false fun h => hs.allocs.1 (hf h)
  have hroom' : r' = true := eq_true_of_ne_false fun h => hs.allocs.2 (hf' h)
  rw [hr, hr', hroom, hroom']
  exact ⟨rfl, hs.emits he he' (hH _ _ _ _ hs.handle he he' hn hn')⟩

section
variable {K : Host → Host → Prop} {I : Inp → Inp → Prop} {b b' : Outp} {α β γ δ : Type}

theorem paired_onInp {I' : Inp → Inp → Prop} {m : Prog Status Inp α} {m' : Prog Status Inp β}
    {V : α → β → Prop} (h : Sim I I' V m m') :
    Sim (Session.Paired K I b b') (Session.Paired K I' b b') V (onInp m) (onInp m') := fun _ _ hs =>
  have ht := h _ _ hs.inp
  ⟨ht.1, hs.host, ht.2, hs.outp⟩

theorem paired_onHost {K' : Host → Host → Prop} {m : Prog Status Host α} {m' : Prog Status Host β}
    {V : α → β → Prop} (h : Sim K K' V m m') :
    Sim (Session.Paired K I b b') (Session.Paired K' I b b') V (onHost m) (onHost m') := fun _ _ hs =>
  have ht := h _ _ hs.host
  ⟨ht.1, ht.2, hs.inp, hs.outp⟩

theorem paired_sendFrame (cmd : Nat) (payload : List UInt8) :
    Sim (Session.Paired K I b b') (Session.Paired K I b b') Eq (onOutp (sendFrame cmd payload))
      (onOutp (sendFrame cmd payload)) := fun _ _ hs =>
  have ht := sim_send cmd payload _ _ hs.outp
  ⟨ht.1, hs.host, hs.inp, ht.2⟩

theorem paired_getHandle {V : γ → δ → Prop} {f : Handle → Prog Status Session γ}
    {f' : Handle → Prog Status Session δ} {R : Session → Session → Prop}
    (hf : ∀ s s', K s s' → Sim (Session.Paired K I b b') R V (f s.h) (f' s'.h)) :
    Sim (Session.Paired K I b b') R V (getHandle >>= f) (getHandle >>= f') := by
  intro s s' hs
  rw [bind_ok (a := s.host.h) (by rfl), bind_ok (a := s'.host.h) (by rfl)]
  exact hf _ _ hs.host s s' hs

theorem paired_setHandle {K' : Host → Host → Prop} {f f' : Handle → Handle}
    (hf : ∀ s s', K s s' → K' (s.onHandle f) (s'.onHandle f')) :
    Sim (Session.Paired K I b b') (Session.Paired K' I b b') Eq (setHandle f) (setHandle f') :=
  sim_modify fun _ _ hs => ⟨hf _ _ hs.host, hs.inp, hs.outp⟩

theorem paired_ofStatus (st : Status) :
    Sim (Session.Paired K I b b') (Session.Paired K I b b') Eq (ofStatus st) (ofStatus st) :=
  sim_ite (fun _ => sim_pure rfl) fun _ => sim_fail st

theorem sim_attempt_eq {ε σ τ : Type} {P R : σ → τ → Prop} {m : Prog ε σ α} {m' : Prog ε τ α}
    {f : Except ε α → Prog ε σ β} {f' : Except ε α → Prog ε τ β} (h : Sim P R Eq m m')
    (hf : ∀ r, Sim R R Eq (f r) (f' r)) : Sim P R Eq (attempt m >>= f) (attempt m' >>= f') :=
  sim_bind (sim_attempt h) fun r _ hr => alike_eq hr ▸ hf r

end

namespace Readers
variable {K : Host → Host → Prop} {I : Inp → Inp → Prop} {b b' : Outp} (hI : Readers I)
include hI

theorem commandAck (cmd : Nat) (payload : List UInt8) (reply : Option Nat) :
    Sim (Session.Paired K I b b') (Session.Paired K I b b') Eq (commandAck cmd payload reply)
      (commandAck cmd payload reply) :=
  sim_bind_eq (paired_sendFrame _ _) fun _ => sim_bind_eq (paired_onInp (hI.skip _ _)) fun _ =>
    sim_bind_eq (paired_onInp (hI.ack _ _)) fun _ => sim_pure rfl

theorem command (cmd : Nat) (payload : List UInt8) (reply : Option Nat) :
    Sim (Session.Paired K I b b') (Session.Paired K I b b') Eq (command cmd payload reply)
      (command cmd payload reply) :=
  sim_bind_eq (hI.commandAck _ _ _) fun _ => sim_bind_eq (paired_ofStatus _) fun _ => sim_pure rfl

theorem checkAdf : Sim (Session.Paired K I b b') (Session.Paired K I b b') Eq checkAdf checkAdf :=
  sim_bind_eq (paired_sendFrame _ _) fun _ => sim_bind_eq (paired_onInp (hI.header _)) fun _ =>
    sim_bind_eq (paired_onInp (sim_ignore (hI.drain _))) fun _ =>
      sim_ite (fun _ => sim_fail _) fun _ => sim_pure rfl

end Readers

namespace Companions
variable {env env' : Env} {K : Host → Host → Prop} {I : Inp → Inp → Prop} {b b' : Outp} {α : Type}
  (hK : Companions env env' K) (hI : Readers I)
include hK

theorem setFlags {f : Handle → Handle} (hf : FlagUpdate f) :
    Sim (Session.Paired K I b b') (Session.Paired K I b b') Eq (setHandle f) (setHandle f) := by
  obtain ⟨g, hg⟩ := hf
  apply paired_setHandle
  intro s s' hs
  have hu := hK.update (g s.h.flags) hs
  unfold Host.onHandle at hu ⊢
  rwa [hg, hg, hK.flags hs]

include hI

theorem unlockDevice :
    Sim (Session.Paired K I b b') (Session.Paired K I b b') Eq unlockDevice unlockDevice := by
  refine sim_bind_eq (hK.setFlags ⟨fun fl => { fl with feeding := false }, fun _ => rfl⟩) fun _ =>
    paired_getHandle fun s s' hs => ?_
  rw [show s'.h.locked = s.h.locked from congrArg Flags.locked (hK.flags hs)]
  exact sim_ite (fun _ => sim_bind_eq
    (hK.setFlags ⟨fun fl => { fl with locked := false }, fun _ => rfl⟩) fun _ =>
    sim_ignore (sim_bind_eq (paired_sendFrame _ _) fun _ => sim_bind_eq (paired_onInp (hI.header _))
      fun _ => paired_onInp (hI.drain _))) fun _ => sim_pure rfl

theorem giveUp (st : Status) : Sim (Session.Paired K I b b') (Session.Paired K I b b') Eq
    (giveUp st : Prog Status Session α) (giveUp st) :=
  sim_bind_eq (hK.unlockDevice hI) fun _ => sim_fail st

theorem abandon (st : Status) : Sim (Session.Paired K I b b') (Session.Paired K I b b') Eq
    (abandon st : Prog Status Session α) (abandon st) :=
  sim_bind_eq (hK.setFlags ⟨fun fl => { fl with scanning := false }, fun _ => rfl⟩) fun _ =>
    hK.giveUp hI st

theorem lockDevice_from {P P' : Session → Session → Prop}
    (hset : ∀ s s', P s s' → P' (s.onHandle fun h => { h with locked := true })
      (s'.onHandle fun h => { h with locked := true }))
    (hask : Sim P' (Session.Paired K I b b') Eq (Scan.commandAck cmdLock [] none)
      (Scan.commandAck cmdLock [] none)) :
    Sim P (Session.Paired K I b b') Eq lockDevice lockDevice := by
  unfold lockDevice
  refine sim_loop_first (sim_modify_bind hset (sim_attempt_eq hask fun r => ?_))
    (fun _ => sim_bind_eq (hK.setFlags ⟨fun fl => { fl with locked := true }, fun _ => rfl⟩) fun _ =>
      sim_attempt_eq (hI.commandAck _ _ _) fun r => ?_) (fun _ => hK.giveUp hI _)
  all_goals
    match r with
    | .error _ => exact hK.giveUp hI _
    | .ok _ => exact sim_ite (fun _ => sim_pure rfl) fun _ =>
        sim_ite (fun _ => hK.giveUp hI _) fun _ => sim_pure rfl

theorem lockDevice :
    Sim (Session.Paired K I b b') (Session.Paired K I b b') Eq lockDevice lockDevice :=
  have hset : Sim (Session.Paired K I b b') (Session.Paired K I b b') Eq
      (setHandle fun h => { h with locked := true }) (setHandle fun h => { h with locked := true }) :=
    hK.setFlags ⟨fun fl => { fl with locked := true }, fun _ => rfl⟩
  hK.lockDevice_from hI (fun s s' hs => (hset s s' hs).2) (hI.commandAck _ _ _)

theorem requireFeeder :
    Sim (Session.Paired K I b b') (Session.Paired K I b b') Eq requireFeeder requireFeeder := by
  apply sim_attempt_eq (hI.checkAdf)
  intro r
  match r with
  | .error _ => exact hK.giveUp hI _
  | .ok _ => exact sim_ite (fun _ => hK.giveUp hI _) fun _ => sim_pure rfl

theorem setupJob :
    Sim (Session.Paired K I b b') (Session.Paired K I b b') Eq setupJob setupJob :=
  sim_bind_eq (hI.command _ _ _) fun _ => sim_bind_eq (hI.command _ _ _) fun _ =>
    paired_getHandle fun s s' hs => by
      rw [hK.settings hs]
      exact sim_bind_eq (hI.command _ _ _) fun _ => sim_bind_eq (hI.command _ _ _) fun _ =>
        sim_pure rfl

theorem submitJob :
    Sim (Session.Paired K I b b') (Session.Paired K I b b') Eq submitJob submitJob := by
  apply sim_attempt_eq (hK.setupJob hI)
  intro r
  match r with
  | .error _ => exact hK.giveUp hI _
  | .ok _ => exact hK.setFlags ⟨fun fl => { fl with scanning := true }, fun _ => rfl⟩

theorem beginJob {P P' : Session → Session → Prop}
    (hreset : ∀ s s', P s s' → P' (s.onHandle Handle.emptyPage) (s'.onHandle Handle.emptyPage))
    (hlock : Sim P' (Session.Paired K I b b') Eq Scan.lockDevice Scan.lockDevice) :
    Sim P (Session.Paired K I b b') Eq beginJob beginJob :=
  sim_modify_bind hreset <| sim_bind_eq hlock fun _ =>
    paired_getHandle fun s s' hs => by
      rw [hK.source hs]
      exact sim_ite (fun _ => sim_bind_eq (hK.requireFeeder hI) fun _ => hK.submitJob hI)
        fun _ => hK.submitJob hI

theorem endScan : Sim (Session.Paired K I b b') (Session.Paired K I b b') Eq endScan endScan := by
  apply paired_getHandle
  intro s s' hs
  rw [show s'.h.scanning = s.h.scanning from congrArg Flags.scanning (hK.flags hs)]
  exact sim_ite (fun _ => sim_bind_eq (sim_ignore (paired_sendFrame _ _)) fun _ =>
    sim_bind_eq (sim_ignore (paired_onInp hI.drainJob)) fun _ => sim_bind_eq
      (hK.setFlags ⟨fun fl => { fl with scanning := false }, fun _ => rfl⟩) fun _ =>
      hK.unlockDevice hI) fun _ => hK.unlockDevice hI

theorem handleDataBlock (plen : Nat) :
    Sim (Session.Paired K I b b') (Session.Paired K I b b') Eq (handleDataBlock env plen)
      (handleDataBlock env' plen) := by
  have hreject (n : Nat) (e : Status) : Sim (Session.Paired K I b b') (Session.Paired K I b b') Eq
      (do onInp (ignore (drainPayload n)); fail e : Prog Status Session Unit)
      (do onInp (ignore (drainPayload n)); fail e) :=
    sim_bind_eq (paired_onInp (sim_ignore (hI.drain _))) fun _ => sim_fail e
  refine sim_ite (fun _ => hreject _ _) fun _ => sim_bind_eq (paired_onInp (hI.read _)) fun head =>
    paired_getHandle fun s s' hs => ?_
  rw [hK.format hs]
  refine sim_ite (fun _ => hreject _ _) fun _ => sim_ite (fun _ => hreject _ _) fun _ =>
    sim_ite (fun _ => hreject _ _) fun _ => sim_bind_eq (paired_onHost (hK.reserve _)) fun room =>
      sim_ite (fun _ => ?_) fun _ => hreject _ _
  exact sim_bind_eq (paired_onInp (hI.read _)) fun raw =>
    paired_onHost (hK.place _ (getBe32_lt _ _) (getBe32_lt _ _))

theorem jobAborted (report : Bool) (status : Nat) :
    Sim (Session.Paired K I b b') (Session.Paired K I b b') Eq (jobAborted report status)
      (jobAborted report status) :=
  sim_bind_eq (hK.setFlags ⟨fun fl => { fl with scanning := false }, fun _ => rfl⟩) fun _ =>
    sim_bind_eq (hK.unlockDevice hI) fun _ => sim_ite (fun _ => sim_pure rfl) fun _ =>
      sim_bind_eq (paired_ofStatus _) fun _ => sim_pure rfl

theorem jobEnded :
    Sim (Session.Paired K I b b') (Session.Paired K I b b') Eq (jobEnded env) (jobEnded env') := by
  apply paired_getHandle
  intro s s' hs
  rw [hK.lines hs]
  refine sim_attempt_eq (paired_onHost (hK.fill _)) fun r => sim_bind_eq
    (hK.setFlags ⟨fun fl => { fl with eof := true, scanning := false }, fun _ => rfl⟩) fun _ =>
    sim_bind_eq (hK.unlockDevice hI) fun _ => ?_
  match r with
  | .ok _ => exact sim_pure rfl
  | .error e => exact sim_fail e

omit hI in
theorem pageEnded :
    Sim (Session.Paired K I b b') (Session.Paired K I b b') Eq (pageEnded env) (pageEnded env') := by
  apply paired_getHandle
  intro s s' hs
  rw [hK.lines hs, hK.source hs]
  refine sim_ite (fun _ => sim_attempt_eq (paired_onHost (hK.fill _)) fun r => sim_bind_eq
    (hK.setFlags ⟨fun fl => { fl with eof := true, feeding := true }, fun _ => rfl⟩) fun _ => ?_)
    fun _ => sim_pure rfl
  match r with
  | .ok _ => exact sim_pure rfl
  | .error e => exact sim_fail e

theorem handleFrame (report : Bool) (f : Frame) :
    Sim (Session.Paired K I b b') (Session.Paired K I b b') Eq (handleFrame env report f)
      (handleFrame env' report f) :=
  have hdrain : Sim (Session.Paired K I b b') (Session.Paired K I b b') Eq
      (onInp (ignore (drainPayload f.plen))) (onInp (ignore (drainPayload f.plen))) :=
    paired_onInp (sim_ignore (hI.drain f.plen))
  sim_ite (fun _ => sim_bind_eq (hK.handleDataBlock hI _) fun _ => sim_pure rfl) fun _ =>
    sim_ite (fun _ => sim_bind_eq hdrain fun _ => hK.jobAborted hI report _) fun _ =>
    sim_ite (fun _ => sim_bind_eq hdrain fun _ => hK.jobEnded hI) fun _ =>
    sim_ite (fun _ => sim_bind_eq hdrain fun _ => hK.pageEnded) fun _ =>
    sim_ite (fun _ => sim_bind_eq (paired_onInp (hI.echo hK.dbgLevel _)) fun _ => sim_pure rfl)
      fun _ => sim_bind_eq (paired_onInp (hI.drain _)) fun _ => sim_pure rfl

theorem pumpFrame (probe report : Bool) :
    Sim (Session.Paired K I b b') (Session.Paired K I b b') Eq (pumpFrame env probe report)
      (pumpFrame env' probe report) := by
  have hrecv : Sim I I Eq (if probe then recvFrameProbe else some <$> recvFrame)
      (if probe then recvFrameProbe else some <$> recvFrame) :=
    sim_ite (fun _ => hI.poll) fun _ => sim_bind_eq (hI.header []) fun _ => sim_pure rfl
  apply sim_bind_eq (paired_onInp hrecv)
  intro f
  match f with
  | none => exact sim_pure rfl
  | some f => exact hK.handleFrame hI report f

theorem takeFrame (probe report : Bool) :
    Sim (Session.Paired K I b b') (Session.Paired K I b b') Eq (takeFrame env probe report)
      (takeFrame env' probe report) := by
  apply sim_attempt_eq (hK.pumpFrame hI probe report)
  intro r
  match r with
  | .error e => exact hK.abandon hI e
  | .ok _ => exact sim_pure rfl

theorem awaitFirstRows (hout : ∀ s s', K s s' → (s'.h.out = [] ↔ s.h.out = [])) :
    Sim (Session.Paired K I b b') (Session.Paired K I b b') Eq (awaitFirstRows env)
      (awaitFirstRows env') := by
  have hround : Sim (Session.Paired K I b b') (Session.Paired K I b b') Eq (awaitRound env)
      (awaitRound env') := by
    apply paired_getHandle
    intro s s' hs
    rw [show s'.h.scanning = s.h.scanning from congrArg Flags.scanning (hK.flags hs),
      show s'.h.eof = s.h.eof from congrArg Flags.eof (hK.flags hs)]
    refine sim_ite_iff (and_congr_right' (and_congr_left' (hout s s' hs)))
      (fun _ => sim_bind_eq (hK.takeFrame hI _ _) fun p => ?_) fun _ => sim_pure rfl
    cases p <;> exact sim_pure rfl
  intro s s' hs
  -- Neither side runs out of rounds, so both may be given the same number.
  have hn := Nat.lt_succ_of_le (Nat.le_max_left s.sched.length s'.sched.length)
  have hn' := Nat.lt_succ_of_le (Nat.le_max_right s.sched.length s'.sched.length)
  rw [← awaitFirstRows_rounds env hn, ← awaitFirstRows_rounds env' hn']
  exact sim_loop_eq (fun _ _ => id) (fun _ => hround) (fun _ => hK.abandon hI _) _ _ s s' hs

theorem fillQueue
    (hdrained : ∀ s s', K s s' → (s'.h.outPos = s'.h.out.length ↔ s.h.outPos = s.h.out.length)) :
    Sim (Session.Paired K I b b') (Session.Paired K I b b') Eq (fillQueue env) (fillQueue env') := by
  have hround : Sim (Session.Paired K I b b') (Session.Paired K I b b') Eq (fillRound env)
      (fillRound env') := by
    apply paired_getHandle
    intro s s' hs
    rw [show s'.h.scanning = s.h.scanning from congrArg Flags.scanning (hK.flags hs),
      show s'.h.eof = s.h.eof from congrArg Flags.eof (hK.flags hs),
      show s'.h.nonBlocking = s.h.nonBlocking from congrArg Flags.nonBlocking (hK.flags hs)]
    refine sim_ite_iff (and_congr_left' (hdrained s s' hs)) (fun _ => sim_ite (fun _ => sim_bind_eq
      (hK.setFlags ⟨fun fl => { fl with eof := true }, fun _ => rfl⟩) fun _ => sim_pure rfl) fun _ =>
        sim_bind_eq (hK.takeFrame hI _ _) fun p => ?_) fun _ => sim_pure rfl
    cases p <;> exact sim_pure rfl
  intro s s' hs
  have hn := Nat.lt_succ_of_le (Nat.le_max_left s.sched.length s'.sched.length)
  have hn' := Nat.lt_succ_of_le (Nat.le_max_right s.sched.length s'.sched.length)
  rw [← fillQueue_rounds env hn, ← fillQueue_rounds env' hn']
  exact sim_loop_eq (fun _ _ => id) (fun _ => hround) (fun _ => hK.abandon hI _) _ _ s s' hs

theorem startJob (K₀ : Host → Host → Prop) (hweak : ∀ s s', K s s' → K₀ s s')
    (hreset : ∀ s s', K₀ s s' → K (s.onHandle Handle.emptyPage) (s'.onHandle Handle.emptyPage))
    (hout : ∀ s s', K s s' → (s'.h.out = [] ↔ s.h.out = [])) :
    Sim (Session.Paired K₀ I b b') (Session.Paired K I b b') Eq (startJob env) (startJob env') := by
  refine sim_loop_enter (fun _ _ hs => ⟨hweak _ _ hs.host, hs.inp, hs.outp⟩) (fun _ => sim_bind_eq
    (sim_bind_eq (hK.beginJob hI (fun _ _ hs => ⟨hreset _ _ hs.host, hs.inp, hs.outp⟩)
      (hK.lockDevice hI)) fun _ => hK.awaitFirstRows hI hout) fun r => ?_)
    (fun _ => sim_fail _) _ _
  match r with
  | none => exact sim_pure rfl
  | some _ => exact sim_ite (fun _ => sim_fail _) fun _ => sim_pure rfl

theorem resumeJob (K₀ : Host → Host → Prop)
    (hreset : ∀ s s', K₀ s s' → K (s.onHandle Handle.resumed) (s'.onHandle Handle.resumed))
    (hout : ∀ s s', K s s' → (s'.h.out = [] ↔ s.h.out = [])) :
    Sim (Session.Paired K₀ I b b') (Session.Paired K I b b') Eq (resumeJob env) (resumeJob env') := by
  refine sim_bind_eq (paired_setHandle hreset) fun _ => sim_bind_eq (hK.awaitFirstRows hI hout)
    fun r => ?_
  match r with
  | some _ => exact paired_ofStatus _
  | none => exact paired_getHandle fun s s' hs =>
      sim_ite_iff (hout s s' hs) (fun _ => sim_fail _) fun _ => sim_pure rfl

end Companions

end PantumOpen.Scan
