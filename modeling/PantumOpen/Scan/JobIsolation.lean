import PantumOpen.Scan.LockDiscipline
import PantumOpen.Scan.Twins

/-! Jobs do not leak into each other: what a start and the calls after it do is decided by the
options, the io mode and the device, whatever the handle has been through. -/

namespace PantumOpen.Scan
open Prog Bytes

variable {z : Prop} {b b' : Outp} {h h' : Handle} {s s' : Session} {env env' : Env}

/-- `h` with the fields of `h'` that a new job does not read before it writes them. -/
def Handle.withStale (h h' : Handle) : Handle :=
  { h.withBuffers h' with nextRow := h'.nextRow, eof := h'.eof }

structure Handle.Peer (h h' : Handle) : Prop where
  control : h' = h.withStale h'
  layout : h.params.Layout

structure Handle.Ripe (h h' : Handle) : Prop where
  val : h'.val = h.val
  nonBlocking : h'.nonBlocking = h.nonBlocking
  scanning : h'.scanning = h.scanning
  locked : h'.locked = h.locked
  feeding : h'.feeding = h.feeding

/-- Two sessions whose handles are related by `H` and that are alike in everything else. -/
structure Session.Along (H : Handle → Handle → Prop) (b b' : Outp) (s s' : Session) : Prop where
  handle : H s.host.h s'.host.h
  valid : s'.host.valid = s.host.valid
  allocs : false ∉ s.host.allocs ∧ false ∉ s'.host.allocs
  inp : s'.inp = s.inp
  outp : Outp.Twin b b' s.outp s'.outp

theorem Session.Twin.along {H : Handle → Handle → Prop} (a : Session.Twin z b b' s s')
    (hH : H s.host.h s'.host.h) : Session.Along H b b' s s' :=
  ⟨hH, a.valid, a.allocs, a.inp, a.outp⟩

theorem Session.Along.twin {H : Handle → Handle → Prop} (a : Session.Along H b b' s s')
    {f : Handle → Handle} (hf : (f s.host.h).Twin z (f s'.host.h)) :
    Session.Twin z b b' (s.onHandle f) (s'.onHandle f) :=
  ⟨hf, a.valid, a.allocs, a.inp, a.outp⟩

theorem Session.Twin.weaken {z' : Prop} (a : Session.Twin z b b' s s') (hz : z' → z) :
    Session.Twin z' b b' s s' :=
  ⟨{ a.handle with start := fun h => a.handle.start (hz h) }, a.valid, a.allocs, a.inp, a.outp⟩

theorem Handle.Twin.peer (a : h.Twin z h') : h.Peer h' := by
  refine ⟨?_, a.layout⟩
  have hn := a.get Handle.nextRow
  have he := a.get Handle.eof
  calc h' = h.withBuffers h' := a.control
    _ = h.withStale h' := by
      unfold withStale
      rw [hn, he]
      rfl

theorem Handle.Twin.ripe (a : h.Twin z h') : h.Ripe h' :=
  ⟨a.get Handle.val, a.get Handle.nonBlocking, a.get Handle.scanning, a.get Handle.locked,
    a.get Handle.feeding⟩

/-- The reset of a job hides everything the last one left behind. -/
theorem Handle.Peer.emptyPage (a : h.Peer h') : h.emptyPage.Twin True h'.emptyPage where
  control := (congrArg Handle.emptyPage a.control).trans rfl
  queue := Nat.zero_le _
  queue' := Nat.zero_le _
  pending := rfl
  start _ := ⟨rfl, rfl⟩
  layout := a.layout

theorem Handle.Ripe.prepared (a : h.Ripe h') (henv : env.Agrees env') :
    (h.prepared env).Peer (h'.prepared env') := by
  constructor
  · unfold Handle.prepared setMargins Handle.withStale Handle.withBuffers
    cases hadf : h.val.sourceIsAdf
    all_goals
      simp only [Handle.derived, a.val, a.nonBlocking, a.scanning, a.locked, a.feeding, hadf,
        henv.toneCurve, if_true, Bool.false_eq_true, if_false]
    rfl
  · have hp : (h.prepared env).params = h.val.computeParameters := by
      unfold Handle.prepared setMargins
      split <;> rfl
    rw [hp]
    exact h.val.computeParameters_layout

/-- A job that is cancelled loses what it had queued. -/
theorem Session.Twin.cleared (a : Session.Twin z b b' s s') :
    let f := fun h : Handle => { h with out := [], outPos := 0, eof := true }
    Session.Twin z b b' (s.onHandle f) (s'.onHandle f) :=
  ⟨⟨(congrArg (fun h : Handle => { h with out := [], outPos := 0, eof := true }) a.handle.control).trans
      rfl, Nat.zero_le _, Nat.zero_le _, rfl, fun _ => ⟨rfl, rfl⟩, a.handle.layout⟩,
    a.valid, a.allocs, a.inp, a.outp⟩

theorem Session.Twin.advance (a : Session.Twin False b b' s s') {n : Nat}
    (hn : n ≤ s.host.h.out.length - s.host.h.outPos) :
    Session.Twin False b b' (s.onHandle (Handle.advance n)) (s'.onHandle (Handle.advance n)) := by
  have hl := congrArg List.length a.handle.pending
  have hq : s.host.h.outPos ≤ s.host.h.out.length := a.handle.queue
  have hq' : s'.host.h.outPos ≤ s'.host.h.out.length := a.handle.queue'
  unfold Handle.pending at hl
  rw [List.length_drop, List.length_drop] at hl
  refine ⟨⟨(congrArg (Handle.advance n) a.handle.control).trans rfl, ?_, ?_, ?_, False.elim,
    a.handle.layout⟩, a.valid, a.allocs, a.inp, a.outp⟩
  · change s.host.h.outPos + n ≤ s.host.h.out.length
    omega
  · change s'.host.h.outPos + n ≤ s'.host.h.out.length
    omega
  · change s'.host.h.out.drop (s'.host.h.outPos + n) = s.host.h.out.drop (s.host.h.outPos + n)
    rw [← List.drop_drop, ← List.drop_drop]
    exact congrArg (List.drop n) a.handle.pending

def Handle.refreshed (h : Handle) : Handle :=
  if ¬ h.scanning ∧ h.outPos = h.out.length then { h with params := h.val.computeParameters } else h

theorem Session.Twin.refreshed (a : Session.Twin z b b' s s') :
    Session.Twin z b b' (s.onHandle Handle.refreshed) (s'.onHandle Handle.refreshed) := by
  refine ⟨?_, a.valid, a.allocs, a.inp, a.outp⟩
  change s.host.h.refreshed.Twin z s'.host.h.refreshed
  unfold Handle.refreshed
  have hscan := a.handle.get Handle.scanning
  by_cases hc : ¬ s.host.h.scanning = true ∧ s.host.h.outPos = s.host.h.out.length
  · rw [if_pos hc, if_pos ⟨by rw [hscan]; exact hc.1, a.handle.drained.mpr hc.2⟩]
    exact ⟨(congrArg (fun h : Handle => { h with params := h.val.computeParameters })
      a.handle.control).trans rfl, a.handle.queue, a.handle.queue', a.handle.pending, a.handle.start,
      OptionValues.computeParameters_layout _⟩
  · rw [if_neg hc, if_neg fun h => hc ⟨by rw [← hscan]; exact h.1, a.handle.drained.mp h.2⟩]
    exact a.handle

theorem buildDitherMask_room {s : Host} (hs : false ∉ s.allocs) :
    wp buildDitherMask (fun r s' => r = .ok () ∧ false ∉ s'.allocs) s := by
  unfold buildDitherMask
  rw [wp_bind, wp_read, after_ok, wp_ite]
  refine ⟨fun _ => ⟨rfl, hs⟩, fun _ => ?_⟩
  rw [wp_bind]
  apply wp_mono (alloc_room hs)
  rintro _ s₁ ⟨rfl, -, h₁⟩
  rw [after_ok, wp_bind]
  apply wp_mono (alloc_room h₁)
  rintro _ s₂ ⟨rfl, -, h₂⟩
  rw [after_ok, wp_bind]
  apply wp_mono (alloc_room h₂)
  rintro _ s₃ ⟨rfl, -, h₃⟩
  rw [after_ok, wp_bind]
  apply wp_mono (alloc_room h₃)
  rintro _ s₄ ⟨rfl, -, h₄⟩
  exact ⟨rfl, h₄⟩

theorem prepareJob_room (env : Env) {s : Host} (hs : false ∉ s.allocs) :
    wp (prepareJob env) (fun r s' => r = .ok () ∧ s'.h = s.h.prepared env ∧ s'.valid = s.valid ∧
      false ∉ s'.allocs) s := by
  have hroom : wp (prepareJob env) (fun r s' => r = .ok () ∧ false ∉ s'.allocs) s := by
    unfold prepareJob
    rw [wp_bind, wp_modify, after_ok, wp_bind, wp_gets, after_ok, wp_ite]
    refine ⟨fun _ => ?_, fun _ => ⟨rfl, hs⟩⟩
    rw [wp_bind]
    refine wp_mono (buildDitherMask_room hs) ?_
    rintro _ t ⟨rfl, ht⟩
    exact ⟨rfl, ht⟩
  apply wp_mono (wp_and hroom (prepareJob_spec env s))
  rintro _ t ⟨⟨rfl, ha⟩, hv, ⟨-, hh⟩ | ⟨hr, -⟩⟩
  · exact ⟨rfl, hh, hv, ha⟩
  · cases hr

section
variable (henv : env.Agrees env') (hdbg : env'.dbgLevel = env.dbgLevel)
include henv hdbg

theorem sim_endScan :
    Sim (Session.Twin z b b') (Session.Twin z b b') Eq endScan endScan :=
  sim_of_paired ((twin_companions henv hdbg).endScan readers_eq)

theorem sim_startJob :
    Sim (Session.Along Handle.Peer b b') (Session.Twin True b b') Eq (startJob env)
      (startJob env') :=
  ((twin_companions henv hdbg).startJob readers_eq (Host.Along Handle.Peer)
    (fun _ _ hs => ⟨hs.handle.peer, hs.valid, hs.allocs⟩)
    (fun _ _ hs => ⟨hs.handle.emptyPage, hs.valid, hs.allocs⟩)
    fun _ _ hs => by rw [hs.handle.out_eq trivial]).mono
      (fun _ _ hs => ⟨⟨hs.handle, hs.valid, hs.allocs⟩, hs.inp.symm, hs.outp⟩) (fun _ _ => id)
      fun _ _ hs => hs.twin

theorem sim_beginScan :
    Sim (Session.Along Handle.Ripe b b') (Session.Twin True b b') Eq
      (do onHost (prepareJob env); startJob env) (do onHost (prepareJob env'); startJob env') := by
  intro s s' hs
  obtain ⟨hr, hh, hv, ha⟩ := prepareJob_room env hs.allocs.1
  obtain ⟨hr', hh', hv', ha'⟩ := prepareJob_room env' hs.allocs.2
  have hprep : onHost (prepareJob env) s = (.ok (), (onHost (prepareJob env) s).2) := eq_ok hr
  have hprep' : onHost (prepareJob env') s' = (.ok (), (onHost (prepareJob env') s').2) := eq_ok hr'
  rw [bind_ok hprep, bind_ok hprep']
  refine sim_startJob henv hdbg _ _ ⟨?_, hv'.trans (hs.valid.trans hv.symm), ⟨ha, ha'⟩, hs.inp, hs.outp⟩
  change ((prepareJob env s.host).2.h).Peer ((prepareJob env' s'.host).2.h)
  rw [hh, hh']
  exact hs.handle.prepared henv

theorem sim_resumeJob :
    Sim (Session.Twin z b b') (Session.Twin True b b') Eq (resumeJob env) (resumeJob env') :=
  ((twin_companions henv hdbg).resumeJob readers_eq (Host.Along (Handle.Twin z))
    (fun _ _ hs => ⟨hs.handle.peer.emptyPage.update (f := fun h => { h with feeding := false })
      (by constructor <;> intros <;> rfl), hs.valid, hs.allocs⟩)
    fun _ _ hs => by rw [hs.handle.out_eq trivial]).mono (fun _ _ hs => hs.paired) (fun _ _ => id)
      fun _ _ hs => hs.twin

theorem sim_startSettled :
    Sim (Session.Twin z b b') (Session.Twin False b b') Eq (startSettled env) (startSettled env') := by
  refine sim_bind (sim_getHandle.mono (fun _ _ hs => hs) (fun _ _ h => h) fun _ _ hs =>
    hs.weaken False.elim) fun h h' hh => ?_
  rw [hh.get Handle.feeding, hh.get Handle.scanning]
  refine sim_ite (fun _ => (sim_resumeJob henv hdbg).mono (fun _ _ hs => hs) (fun _ _ => id)
    fun _ _ hs => hs.weaken False.elim) fun _ => sim_ite (fun _ => sim_fail _) fun _ =>
    (sim_beginScan henv hdbg).mono (fun _ _ hs => hs.along hs.handle.ripe) (fun _ _ => id)
      fun _ _ hs => hs.weaken False.elim

theorem sim_saneStart :
    Sim (Session.Twin False b b') (Session.Twin False b b') Eq (saneStart env) (saneStart env') := by
  apply sim_bind sim_read
  intro t t' ht
  rw [ht.valid]
  refine sim_ite (fun _ => sim_fail _) fun _ => sim_bind sim_getHandle ?_
  intro h h' hh
  rw [hh.get Handle.cancelled]
  exact sim_ite (fun _ => sim_bind_eq (sim_endScan henv hdbg) fun _ => sim_startSettled henv hdbg)
    fun _ => sim_startSettled henv hdbg

theorem sim_saneRead (n : Int) :
    Sim (Session.Twin False b b') (Session.Twin False b b') Eq (saneRead env n) (saneRead env' n) := by
  have hfill : Sim (Session.Twin False b b') (Session.Twin False b b') Eq (fillQueue env)
      (fillQueue env') := sim_of_paired
    ((twin_companions henv hdbg).fillQueue readers_eq fun _ _ hs => hs.handle.drained)
  apply sim_bind sim_read
  intro t t' ht
  rw [ht.valid]
  refine sim_ite (fun _ => sim_fail _) fun _ => sim_bind sim_getHandle ?_
  intro h h' hh
  rw [hh.get Handle.cancelled]
  refine sim_ite (fun _ => sim_bind_eq (sim_endScan henv hdbg) fun _ => sim_bind_eq
    (sim_modify fun _ _ hs => hs.cleared) fun _ => sim_fail _) fun _ =>
    sim_bind_eq hfill fun idle => sim_ite (fun _ => sim_pure rfl) fun _ s s' hs => ?_
  have havail : s'.host.h.out.length - s'.host.h.outPos = s.host.h.out.length - s.host.h.outPos := by
    have hl := congrArg List.length hs.handle.pending
    simpa only [Handle.pending, List.length_drop] using hl
  rw [bind_ok (a := s.host.h) (by rfl), bind_ok (a := s'.host.h) (by rfl)]
  dsimp only
  rw [havail]
  by_cases h0 : s.host.h.out.length - s.host.h.outPos = 0
  · rw [if_pos h0, if_pos h0]
    exact ⟨rfl, hs⟩
  · rw [if_neg h0, if_neg h0, bind_ok (a := ()) (by rfl), bind_ok (a := ()) (by rfl)]
    exact ⟨congrArg (List.take _) hs.handle.pending.symm, hs.advance (Nat.min_le_left _ _)⟩

theorem sim_saneClose : Sim (Session.Twin False b b') (Session.Twin False b b') Eq saneClose saneClose := by
  apply sim_bind sim_read
  intro t t' ht
  rw [ht.valid]
  exact sim_ite (fun _ => sim_bind_eq (sim_endScan henv hdbg) fun _ => sim_modify fun _ _ hs =>
    ⟨hs.handle, rfl, hs.allocs, hs.inp, hs.outp⟩) fun _ => sim_pure rfl

end

theorem sim_saneCancel :
    Sim (Session.Twin False b b') (Session.Twin False b b') Eq saneCancel saneCancel := by
  apply sim_bind sim_read
  intro t t' ht
  rw [ht.valid]
  exact sim_ite (fun _ => sim_setHandle) fun _ => sim_pure rfl

theorem sim_saneSetIoMode (nonBlocking : Bool) : Sim (Session.Twin False b b')
    (Session.Twin False b b') Eq (saneSetIoMode nonBlocking) (saneSetIoMode nonBlocking) := by
  apply sim_bind sim_read
  intro t t' ht
  rw [ht.valid]
  exact sim_ite (fun _ => sim_setHandle) fun _ => sim_fail _

theorem sim_saneGetParameters : Sim (Session.Twin False b b') (Session.Twin False b b') Eq
    saneGetParameters saneGetParameters := by
  apply sim_bind sim_read
  intro t t' ht
  rw [ht.valid]
  exact sim_ite (fun _ => sim_fail _) fun _ => sim_bind_eq (sim_modify fun _ _ hs => hs.refreshed)
    fun _ => sim_bind sim_getHandle fun h h' hh => sim_pure (hh.get Handle.params).symm

def Call.keepsOptions : Call → Bool
  | .controlOption .. => false
  | _ => true

section
variable (henv : env.Agrees env') (hdbg : env'.dbgLevel = env.dbgLevel)
include henv hdbg

theorem Call.sim_run {c : Call} (hc : c.keepsOptions) :
    Sim (Session.Twin False b b') (Session.Twin False b b') Eq (c.run env) (c.run env') := by
  match c, hc with
  | .start, _ => exact sim_bind_eq (sim_saneStart henv hdbg) fun _ => sim_pure rfl
  | .read n, _ => exact sim_bind_eq (sim_saneRead henv hdbg n) fun _ => sim_pure rfl
  | .cancel, _ => exact sim_bind_eq sim_saneCancel fun _ => sim_pure rfl
  | .getParameters, _ => exact sim_bind_eq sim_saneGetParameters fun _ => sim_pure rfl
  | .setIoMode b, _ => exact sim_bind_eq (sim_saneSetIoMode b) fun _ => sim_pure rfl
  | .close, _ => exact sim_bind_eq (sim_saneClose henv hdbg) fun _ => sim_pure rfl
  | .exit, _ => exact sim_bind_eq (sim_saneClose henv hdbg) fun _ => sim_pure rfl

theorem runCalls_twin {cs : List Call} (hcs : ∀ c ∈ cs, c.keepsOptions)
    (hs : Session.Twin False b b' s s') :
    (runCalls env' cs s').1 = (runCalls env cs s).1 ∧
      Session.Twin False b b' (runCalls env cs s).2 (runCalls env' cs s').2 := by
  induction cs generalizing s s' with
  | nil => exact ⟨rfl, hs⟩
  | cons c cs ih =>
    obtain ⟨hr, ht⟩ := Call.sim_run henv hdbg (hcs c List.mem_cons_self) s s' hs
    obtain ⟨hrs, hts⟩ := ih (fun d hd => hcs d (List.mem_cons_of_mem _ hd)) ht
    exact ⟨List.cons_eq_cons.mpr ⟨alike_eq hr, hrs⟩, hts⟩

end

structure Session.Idle (s : Session) : Prop where
  valid : s.host.valid = true
  scanning : s.host.h.scanning = false

theorem settled_idle (hs : s.Disciplined) (hi : s.Idle) : ∃ g : Handle → Handle,
    s.settled = s.onHandle g ∧ (g s.host.h).val = s.host.h.val ∧
    (g s.host.h).nonBlocking = s.host.h.nonBlocking ∧ (g s.host.h).scanning = false ∧
    (g s.host.h).locked = false ∧ (g s.host.h).feeding = false := by
  have hlocked : s.host.h.locked = false := hs.steady.locked.symm.trans hi.scanning
  have hfeeding : s.host.h.feeding = false := by
    by_contra hf
    exact Bool.false_ne_true (hi.scanning.symm.trans (hs.steady.feeding (eq_true_of_ne_false hf)))
  have hunlock : unlockDevice s = (.ok (), s.onHandle fun h => { h with feeding := false }) := by
    unfold unlockDevice
    rw [setHandle, bind_ok (a := ()) (by rfl), bind_ok (by rfl)]
    change (if s.host.h.locked = true then _ else _ : Prog Status Session Unit) _ = _
    rw [if_neg (by rw [hlocked]; decide)]
    rfl
  have hend : endScan s = (.ok (), s.onHandle fun h => { h with feeding := false }) := by
    unfold endScan
    rw [bind_ok (a := s.host.h) (by rfl), if_neg (by rw [hi.scanning]; decide)]
    exact hunlock
  unfold Session.settled
  split
  · rw [hend]
    exact ⟨_, rfl, rfl, rfl, hi.scanning, hlocked, rfl⟩
  · exact ⟨id, rfl, rfl, rfl, hi.scanning, hlocked, hfeeding⟩

theorem saneStart_idle (env : Env) (hs : s.Disciplined) (hi : s.Idle) : ∃ g : Handle → Handle,
    saneStart env s = (do onHost (prepareJob env); startJob env) (s.onHandle g) ∧
    (g s.host.h).val = s.host.h.val ∧ (g s.host.h).nonBlocking = s.host.h.nonBlocking ∧
    (g s.host.h).scanning = false ∧ (g s.host.h).locked = false ∧ (g s.host.h).feeding = false := by
  obtain ⟨g, hg, hval, hnb, hscan, hlock, hfeed⟩ := settled_idle hs hi
  refine ⟨g, ?_, hval, hnb, hscan, hlock, hfeed⟩
  rw [saneStart_settled env hi.valid, hg]
  unfold startSettled
  rw [bind_ok (a := g s.host.h) (by rfl), if_neg (by rw [hfeed]; decide), if_neg (by rw [hscan]; decide)]

structure Session.Matches (s s' : Session) : Prop where
  val : s'.host.h.val = s.host.h.val
  nonBlocking : s'.host.h.nonBlocking = s.host.h.nonBlocking
  inp : s'.inp = s.inp
  outSched : s'.outp.outSched = s.outp.outSched

theorem sim_saneStart_idle (henv : env.Agrees env') (hdbg : env'.dbgLevel = env.dbgLevel)
    (hs : s.Disciplined) (hs' : s'.Disciplined) (hi : s.Idle) (hi' : s'.Idle)
    (hm : s.Matches s') (hroom : false ∉ s.host.allocs ∧ false ∉ s'.host.allocs) :
    Sim (fun t t' => t = s ∧ t' = s') (Session.Twin False s.outp s'.outp) Eq (saneStart env)
      (saneStart env') := by
  rintro t t' ⟨ht, ht'⟩
  rw [ht, ht']
  obtain ⟨g, hg, hval, hnb, hscan, hlock, hfeed⟩ := saneStart_idle env hs hi
  obtain ⟨g', hg', hval', hnb', hscan', hlock', hfeed'⟩ := saneStart_idle env' hs' hi'
  have hripe : Session.Along Handle.Ripe s.outp s'.outp (s.onHandle g) (s'.onHandle g') :=
    ⟨⟨hval'.trans (hm.val.trans hval.symm), hnb'.trans (hm.nonBlocking.trans hnb.symm),
      hscan'.trans hscan.symm, hlock'.trans hlock.symm, hfeed'.trans hfeed.symm⟩,
      hi'.valid.trans hi.valid.symm, hroom, hm.inp, .refl hm.outSched⟩
  rw [hg, hg']
  obtain ⟨hr, hu⟩ := sim_beginScan henv hdbg _ _ hripe
  exact ⟨hr, hu.weaken False.elim⟩

/-- Whatever two handles have been through: with the same options and no job running, a start and
the calls that follow it have the same outcomes and send the same frames. -/
theorem jobs_isolated (henv : env.Agrees env') (hdbg : env'.dbgLevel = env.dbgLevel)
    (hs : Reachable env s) (hs' : Reachable env' s') (hi : s.Idle) (hi' : s'.Idle)
    (hm : s.Matches s') (hroom : false ∉ s.host.allocs ∧ false ∉ s'.host.allocs)
    {cs : List Call} (hcs : ∀ c ∈ cs, c.keepsOptions) :
    let t := runCalls env (.start :: cs) s
    let t' := runCalls env' (.start :: cs) s'
    t'.1 = t.1 ∧ t'.2.host.h.params = t.2.host.h.params ∧ t'.2.inp = t.2.inp ∧
      ∃ fs, t.2.outp.sent = s.outp.sent ++ fs ∧ t'.2.outp.sent = s'.outp.sent ++ fs := by
  have hstart := sim_bind_eq (f := fun _ => pure Answer.none) (g := fun _ => pure Answer.none)
    (sim_saneStart_idle henv hdbg hs.disciplined hs'.disciplined hi hi' hm hroom)
    (fun _ => sim_pure rfl) s s' ⟨rfl, rfl⟩
  obtain ⟨hrs, hts⟩ := runCalls_twin henv hdbg hcs hstart.2
  exact ⟨List.cons_eq_cons.mpr ⟨alike_eq hstart.1, hrs⟩, hts.handle.get Handle.params, hts.inp,
    hts.outp.sent⟩

def openFrames : List HostFrame := [⟨cmdLock, []⟩, ⟨cmdAdfStatus, []⟩, ⟨cmdUnlock, []⟩]

def rowFrames : List HostFrame :=
  [⟨cmdLock, []⟩, ⟨cmdSetDefaults, []⟩, ⟨cmdGetSettings, List.replicate 100 0⟩, ⟨cmdSetSettings, []⟩,
    ⟨cmdStart, []⟩, ⟨evtData, [0, 0, 1, 1, 1, 0].flatMap putBe32 ++ [7]⟩]

def abortFrames : List HostFrame := [⟨evtAborted, []⟩, ⟨cmdUnlock, []⟩]

/-- A device that answers with `fs`, in `ins` transfers, and takes `outs` of them. -/
def answering (fs : List HostFrame) (ins outs : Nat) : Session :=
  .fresh ⟨fs.flatMap HostFrame.encode, ⟨.timeout, 0⟩ :: List.replicate ins ⟨.success, 132⟩⟩
    (List.replicate outs ⟨.success, 200⟩) [] true

/-- A handle that is opened on the device and given a small window before it is used. -/
def opened (env : Env) (fs : List HostFrame) (ins outs : Nat) (cs : List Call) : Session :=
  (runCalls env ([.controlOption 10 .setValue (some ⟨0, []⟩),
    .controlOption 11 .setValue (some ⟨0, []⟩)] ++ cs) (saneOpen (answering fs ins outs)).2).2

theorem reachable_opened (env : Env) (fs : List HostFrame) (ins outs : Nat) (cs : List Call) :
    Reachable env (opened env fs ins outs cs) :=
  .runCalls (.opened (s := answering fs ins outs) rfl ⟨_, _, _, _, rfl⟩) _

def newHandle : Session := opened plainEnv (openFrames ++ rowFrames) 12 8 []

/-- A handle whose first job was cancelled with a row undelivered, in another process. -/
def usedHandle : Session :=
  opened { plainEnv with uninit := fun _ => 1 } (openFrames ++ rowFrames ++ abortFrames ++ rowFrames)
    23 15 [.start, .read 3, .cancel, .read 3]

theorem Inp.eq_of_fields {i j : Inp} (h : i.inStream = j.inStream) (hs : i.inSched = j.inSched) :
    i = j := by
  cases i
  cases j
  exact congr (congrArg Inp.mk h) hs

theorem newHandle_matches : newHandle.Matches usedHandle where
  val := by decide +kernel
  nonBlocking := by decide +kernel
  inp := Inp.eq_of_fields (by decide +kernel) (by decide +kernel)
  outSched := by decide +kernel

theorem newHandle_idle : newHandle.Idle := ⟨by decide +kernel, by decide +kernel⟩

theorem usedHandle_idle : usedHandle.Idle := ⟨by decide +kernel, by decide +kernel⟩

theorem handles_room : false ∉ newHandle.host.allocs ∧ false ∉ usedHandle.host.allocs :=
  ⟨by decide +kernel, by decide +kernel⟩

theorem jobs_isolated_cancelled :
    (runCalls { plainEnv with uninit := fun _ => 1 } [.start, .read 100] usedHandle).1 =
      (runCalls plainEnv [.start, .read 100] newHandle).1 := by
  have hnew : Reachable plainEnv newHandle := reachable_opened _ _ 12 8 []
  have hused : Reachable { plainEnv with uninit := fun _ => 1 } usedHandle :=
    reachable_opened _ _ 23 15 _
  have henv : plainEnv.Agrees { plainEnv with uninit := fun _ => 1 } := ⟨rfl, rfl⟩
  have hcs : ∀ c ∈ [Call.read 100], c.keepsOptions := by decide
  exact (jobs_isolated henv rfl hnew hused newHandle_idle usedHandle_idle newHandle_matches
    handles_room hcs).1

end PantumOpen.Scan
