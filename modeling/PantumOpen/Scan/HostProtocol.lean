import PantumOpen.Lib.Monitor
import PantumOpen.Scan.CallRule
import PantumOpen.Scan.JobSettings

/-! The order in which the backend talks to the device: in every session the frames it sends are the
rounds of one protocol, whatever the device answers. -/

namespace PantumOpen.Scan
open Prog Monitor

variable {env : Env} {s t : Session}

/-- Where the host stands in the protocol; a lock may be asked for several times. -/
inductive Phase
  | unlocked | asked (tries : Nat) | feeder | defaults | settings | configured | running | aborting
  deriving DecidableEq, Repr

/-- The next frame of the protocol. Every session with the device ends with an unlock request, from
wherever it stands. -/
def Phase.next (p : Phase) (f : HostFrame) : Option Phase :=
  if p ≠ .unlocked ∧ f = ⟨cmdUnlock, []⟩ then some .unlocked
  else match p with
    | .unlocked => if f = ⟨cmdLock, []⟩ then some (.asked 1) else none
    | .asked n =>
      if f = ⟨cmdLock, []⟩ ∧ n < 5 then some (.asked (n + 1))
      else if f = ⟨cmdAdfStatus, []⟩ then some .feeder
      else if f = ⟨cmdSetDefaults, []⟩ then some .defaults
      else none
    | .feeder => if f = ⟨cmdSetDefaults, []⟩ then some .defaults else none
    | .defaults => if f = ⟨cmdGetSettings, []⟩ then some .settings else none
    | .settings =>
      if f.cmd = cmdSetSettings ∧ f.payload.length = pantumSettingsLen then some .configured else none
    | .configured => if f = ⟨cmdStart, []⟩ then some .running else none
    | .running => if f = ⟨cmdAbort, []⟩ then some .aborting else none
    | .aborting => none

theorem Phase.next_unlock {p : Phase} (h : p ≠ .unlocked) :
    p.next ⟨cmdUnlock, []⟩ = some .unlocked := by
  unfold next
  rw [if_pos ⟨h, rfl⟩]

theorem Phase.next_lock {n : Nat} (h : n < 5) :
    (Phase.asked n).next ⟨cmdLock, []⟩ = some (.asked (n + 1)) := by
  simp [next, cmdLock, cmdUnlock, h]

theorem Phase.next_adfStatus (n : Nat) : (Phase.asked n).next ⟨cmdAdfStatus, []⟩ = some .feeder := by
  simp [next, cmdAdfStatus, cmdLock, cmdUnlock]

theorem Phase.next_setDefaults (n : Nat) :
    (Phase.asked n).next ⟨cmdSetDefaults, []⟩ = some .defaults := by
  simp [next, cmdSetDefaults, cmdAdfStatus, cmdLock, cmdUnlock]

theorem Phase.next_setSettings {block : List UInt8} (h : block.length = pantumSettingsLen) :
    Phase.settings.next ⟨cmdSetSettings, block⟩ = some .configured := by
  simp [next, cmdSetSettings, cmdUnlock, h]

/-- The frames sent so far lead to `p`, and the handle owes an unlock unless that is the start. -/
structure Session.Phased (p : Phase) (s : Session) : Prop where
  sent : follow Phase.next .unlocked s.outp.sent = some p
  locked : s.host.h.locked = true ↔ p ≠ .unlocked

def Session.Conforms (s : Session) : Prop :=
  s.Phased (if s.host.h.scanning then .running else .unlocked)

theorem Session.Phased.sends {p q : Phase} {f : HostFrame} (h : s.Phased p) (ht : Sent s t [f])
    (hp : p ≠ .unlocked) (hq : q ≠ .unlocked) (hf : p.next f = some q) : t.Phased q where
  sent := by
    rw [ht.sent, follow_snoc h.sent, hf]
  locked := by
    rw [ht.host]
    exact h.locked.trans (iff_of_true hp hq)

theorem Session.Phased.unlocks {p : Phase} {f : Handle → Handle} (h : s.Phased p)
    (hh : t.host = s.host.onHandle f) (hf : ∀ h, (f h).locked = false)
    (ho : t.outp.sent = s.outp.sent ++ s.host.h.unlockFrames) : t.Phased .unlocked where
  sent := by
    rw [ho]
    unfold Handle.unlockFrames
    by_cases hl : s.host.h.locked = true
    · rw [if_pos hl, follow_snoc h.sent, Phase.next_unlock (h.locked.mp hl)]
    · have hp : p = .unlocked := by
        by_contra hp
        exact hl (h.locked.mpr hp)
      rw [if_neg hl, List.append_nil, h.sent, hp]
  locked := by
    rw [hh]
    apply iff_of_false ?_ (not_not.mpr rfl)
    change ¬(f s.host.h).locked = true
    rw [hf]
    decide

theorem Session.Conforms.running (h : s.Conforms) (hs : s.host.h.scanning = true) :
    s.Phased .running := by
  unfold Conforms at h
  rwa [if_pos hs] at h

theorem Session.Conforms.idle (h : s.Conforms) (hs : s.host.h.scanning = false) :
    s.Phased .unlocked := by
  unfold Conforms at h
  rwa [if_neg (by rw [hs]; decide)] at h

theorem Session.Phased.conforms_running (h : s.Phased .running) (hs : s.host.h.scanning = true) :
    s.Conforms := by
  unfold Conforms
  rwa [if_pos hs]

theorem Session.Phased.conforms_idle (h : s.Phased .unlocked) (hs : s.host.h.scanning = false) :
    s.Conforms := by
  unfold Conforms
  rwa [if_neg (by rw [hs]; decide)]

theorem Session.Conforms.congr (h : s.Conforms) (hs : t.host.h.scanning = s.host.h.scanning)
    (hl : t.host.h.locked = s.host.h.locked) (ho : t.outp.sent = s.outp.sent) : t.Conforms := by
  unfold Conforms
  rw [hs]
  exact ⟨by rw [ho]; exact h.sent, by rw [hl]; exact h.locked⟩

theorem Abandoned.conforms (h : Abandoned s t) (hs : s.Conforms) : t.Conforms := by
  have ht : t.Phased .unlocked := Session.Phased.unlocks hs h.host (fun _ => rfl) h.sent
  exact ht.conforms_idle (by rw [h.host]; rfl)

theorem FrameEffect.conforms {report : Bool} {r : Except Status Pumped} (h : FrameEffect report s r t)
    (hs : s.Conforms) : t.Conforms := by
  cases h with
  | kept hq _ => exact hs.congr hq.control.scanning hq.control.locked (by rw [hq.outp])
  | aborted hh ho _ =>
    have ht : t.Phased .unlocked := hs.unlocks hh (fun _ => rfl) ho
    exact ht.conforms_idle (by rw [hh]; rfl)
  | @jobEnd u _ hq hh ho _ =>
    have hu : u.Conforms := hs.congr hq.control.scanning hq.control.locked (by rw [hq.outp])
    have ht : t.Phased .unlocked := by
      apply hu.unlocks hh (fun _ => rfl)
      rw [ho, hq.outp, hq.control.unlockFrames]
    exact ht.conforms_idle (by rw [hh]; rfl)
  | @pageEnd u _ hq _ hh ho _ =>
    refine hs.congr ?_ ?_ (by rw [ho, hq.outp])
    · rw [hh]
      exact hq.control.scanning
    · rw [hh]
      exact hq.control.locked

def Reaches {α : Type} (good : Phase → Prop) : Except Status α → Session → Prop
  | .ok _, t => ∃ p, good p ∧ t.Phased p
  | .error _, t => t.Phased .unlocked

/-- The device has been asked, and perhaps told about its feeder. -/
def Phase.Claimed (p : Phase) : Prop := (∃ n, p = .asked n) ∨ p = .feeder

theorem giveUp_reaches {α : Type} {p : Phase} (good : Phase → Prop) (st : Status) (h : s.Phased p) :
    wp (giveUp st : Prog Status Session α) (Reaches good) s := by
  apply wp_mono (giveUp_spec st s)
  rintro _ t ⟨rfl, hh, ho⟩
  exact h.unlocks hh (fun _ => rfl) ho

theorem lockDevice_reaches (h : s.Phased .unlocked) :
    wp lockDevice (Reaches fun p => ∃ n, p = .asked n) s := by
  -- Every round asks once more.
  apply wp_loop_counted fun k _ t => if k = 0 then t.Phased .unlocked else t.Phased (.asked k)
  · intro k _ t hk ht
    rw [wp_bind, wp_setHandle, after_ok, wp_bind, wp_attempt]
    apply wp_mono (commandAck_sent cmdLock [] none _)
    intro r u hu
    have hasked : u.Phased (.asked (k + 1)) := by
      refine ⟨?_, ?_⟩
      · rw [hu.sent]
        split at ht
        · rename_i h0
          rw [Session.onHandle_outp, follow_snoc ht.sent, h0]
          rfl
        · rw [Session.onHandle_outp, follow_snoc ht.sent]
          exact Phase.next_lock hk
      · rw [hu.host]
        exact iff_of_true rfl (by simp)
    have hgive (e : Status) : wp (giveUp e : Prog Status Session (Unit ⊕ Unit))
        (Round (fun _ t => if k + 1 = 0 then t.Phased .unlocked else t.Phased (.asked (k + 1)))
          (Reaches fun p => ∃ n, p = .asked n)) u := by
      apply wp_mono (giveUp_spec e u)
      rintro _ v ⟨rfl, hh, ho⟩
      exact hasked.unlocks hh (fun _ => rfl) ho
    rw [after_ok]
    cases r with
    | error e => exact hgive e
    | ok a =>
      dsimp only
      rw [wp_ite]
      refine ⟨fun _ => ⟨.asked (k + 1), ⟨_, rfl⟩, hasked⟩, fun _ => ?_⟩
      rw [wp_ite]
      refine ⟨fun _ => hgive _, fun _ => ?_⟩
      change if k + 1 = 0 then u.Phased .unlocked else u.Phased (.asked (k + 1))
      rwa [if_neg (Nat.succ_ne_zero k)]
  · intro _ t ht
    rw [if_neg (by decide)] at ht
    exact giveUp_reaches _ _ ht
  · rwa [if_pos rfl]

theorem requireFeeder_reaches {n : Nat} (h : s.Phased (.asked n)) :
    wp requireFeeder (Reaches (· = .feeder)) s := by
  unfold requireFeeder
  rw [wp_bind, wp_attempt]
  apply wp_mono (checkAdf_sent s)
  intro r t ht
  have ht : t.Phased .feeder := h.sends ht (by simp) (by decide) (Phase.next_adfStatus n)
  rw [after_ok]
  cases r with
  | error e => exact giveUp_reaches _ _ ht
  | ok a =>
    dsimp only
    rw [wp_ite]
    exact ⟨fun _ => giveUp_reaches _ _ ht, fun _ => ⟨_, rfl, ht⟩⟩

theorem setupJob_phased {p : Phase} (hp : p.Claimed) (h : s.Phased p) :
    wp setupJob (fun r t => ∃ q, q ≠ .unlocked ∧ t.Phased q ∧ (r = .ok () → q = .running)) s := by
  have hfirst : p ≠ .unlocked ∧ p.next ⟨cmdSetDefaults, []⟩ = some .defaults := by
    obtain ⟨n, rfl⟩ | rfl := hp
    · exact ⟨by simp, Phase.next_setDefaults n⟩
    · exact ⟨by decide, rfl⟩
  -- Each of the four commands moves the protocol on by one phase, answered or not.
  unfold setupJob
  rw [wp_bind]
  apply wp_mono (command_sent cmdSetDefaults [] none s)
  intro r t ht
  have ht : t.Phased .defaults := h.sends ht hfirst.1 (by decide) hfirst.2
  cases r with
  | error e => exact ⟨_, by decide, ht, fun he => by cases he⟩
  | ok _ =>
    rw [after_ok, wp_bind]
    apply wp_mono (command_sent cmdGetSettings [] _ t)
    intro r u hu
    have hu : u.Phased .settings := ht.sends hu (by decide) (by decide) rfl
    cases r with
    | error e => exact ⟨_, by decide, hu, fun he => by cases he⟩
    | ok block =>
      rw [after_ok, wp_bind, wp_getHandle, after_ok, wp_bind]
      apply wp_mono (command_sent cmdSetSettings _ none u)
      intro r v hv
      have hv : v.Phased .configured := hu.sends hv (by decide) (by decide)
        (Phase.next_setSettings (editSettings_length _ _))
      cases r with
      | error e => exact ⟨_, by decide, hv, fun he => by cases he⟩
      | ok _ =>
        rw [after_ok, wp_bind]
        apply wp_mono (command_sent cmdStart [] none v)
        intro r w hw
        have hw : w.Phased .running := hv.sends hw (by decide) (by decide) rfl
        cases r with
        | error e => exact ⟨_, by decide, hw, fun he => by cases he⟩
        | ok _ => exact ⟨_, by decide, hw, fun _ => rfl⟩

theorem submitJob_reaches {p : Phase} (hp : p.Claimed) (h : s.Phased p) :
    wp submitJob (Reaches (· = .running)) s := by
  unfold submitJob
  rw [wp_bind, wp_attempt]
  apply wp_mono (setupJob_phased hp h)
  rintro r t ⟨q, hq, ht, hrun⟩
  rw [after_ok]
  cases r with
  | error e => exact giveUp_reaches _ _ ht
  | ok _ =>
    rw [hrun rfl] at ht
    exact ⟨_, rfl, ht.sent, ht.locked⟩

theorem beginJob_reaches (h : s.Phased .unlocked) : wp beginJob (Reaches (· = .running)) s := by
  rw [beginJob_eq, wp_bind]
  have hclaim : wp claimDevice (Reaches Phase.Claimed) s := by
    unfold claimDevice
    rw [wp_bind, wp_setHandle, after_ok, wp_bind]
    have hempty : (s.onHandle Handle.emptyPage).Phased .unlocked := ⟨h.sent, h.locked⟩
    apply wp_mono (lockDevice_reaches hempty)
    intro r t ht
    cases r with
    | error e => exact ht
    | ok _ =>
      obtain ⟨_, ⟨n, rfl⟩, ht⟩ := ht
      rw [after_ok, wp_bind, wp_getHandle, after_ok, wp_ite]
      refine ⟨fun _ => ?_, fun _ => ⟨_, .inl ⟨n, rfl⟩, ht⟩⟩
      apply wp_mono (requireFeeder_reaches ht)
      intro r u hu
      cases r with
      | error e => exact hu
      | ok _ =>
        obtain ⟨_, rfl, hu⟩ := hu
        exact ⟨_, .inr rfl, hu⟩
  apply wp_mono hclaim
  intro r t ht
  cases r with
  | error e => exact ht
  | ok _ =>
    obtain ⟨p, hp, ht⟩ := ht
    exact submitJob_reaches hp ht

theorem endScan_conforms (h : s.Conforms) : wp endScan (fun _ t => t.Conforms) s := by
  unfold endScan
  rw [wp_bind, wp_getHandle, after_ok, wp_ite]
  refine ⟨fun hscan => ?_, fun hscan => ?_⟩
  · rw [wp_bind, wp_ignore]
    apply wp_mono (sendFrame_sent cmdAbort [] s)
    intro r t ht
    have ht : t.Phased .aborting := (h.running hscan).sends ht (by decide) (by decide) rfl
    rw [after_ok, wp_bind, wp_ignore]
    apply wp_onInp
    intro r i
    rw [after_ok, wp_bind, wp_setHandle, after_ok]
    apply wp_mono (unlockDevice_spec _)
    rintro _ u ⟨-, hh, ho⟩
    have ht' : Session.Phased .aborting (Session.onHandle (fun h => { h with scanning := false })
        { t with inp := i }) := ⟨ht.sent, ht.locked⟩
    exact (ht'.unlocks hh (fun _ => rfl) ho).conforms_idle (by rw [hh]; rfl)
  · have hscan : s.host.h.scanning = false := by simpa using hscan
    apply wp_mono (unlockDevice_spec s)
    rintro _ u ⟨-, hh, ho⟩
    exact ((h.idle hscan).unlocks hh (fun _ => rfl) ho).conforms_idle (by rw [hh]; exact hscan)

theorem conforms_rule : CallRule Session.Conforms where
  calm h hu := h.congr hu.scanning hu.locked (congrArg Outp.sent hu.outp)
  frame h _ hf := hf.conforms h
  abandoned h ha := ha.conforms h
  begun {s} h hscan := by
    apply wp_mono (wp_and (beginJob_spec s) (beginJob_reaches (h.idle hscan)))
    rintro r t ⟨hpost, ht⟩
    cases r with
    | error e =>
      have ht : t.Phased .unlocked := ht
      exact ht.conforms_idle (by rw [hpost.1]; exact hscan)
    | ok _ =>
      obtain ⟨_, rfl, ht⟩ := ht
      exact ht.conforms_running (by rw [hpost.1]; rfl)
  ended h := endScan_conforms h

theorem saneClose_conforms (h : s.Conforms) : wp saneClose (fun _ t => t.Conforms) s := by
  unfold saneClose
  rw [wp_bind, wp_read, after_ok, wp_ite]
  refine ⟨fun _ => ?_, fun _ => h⟩
  rw [wp_bind]
  apply wp_mono (endScan_conforms h)
  intro r t ht
  cases r with
  | error e => exact ht
  | ok _ => exact Session.Conforms.congr ht rfl rfl rfl

theorem Call.run_conforms (c : Call) (h : s.Conforms) (hs : s.Disciplined) :
    wp (c.run env) (fun _ t => t.Conforms) s := by
  cases c with
  | start => exact wp_bind_pure (conforms_rule.saneStart h hs)
  | read n => exact wp_bind_pure (conforms_rule.saneRead n h)
  | cancel => exact wp_bind_pure (conforms_rule.saneCancel h)
  | controlOption o a v =>
    apply wp_bind_pure
    rw [onHost, wp_zoom]
    apply wp_mono (saneControlOption_spec o a v s.host)
    intro r t ht
    exact h.congr ht.job.kept.scanning ht.job.kept.locked rfl
  | getParameters => exact wp_bind_pure (conforms_rule.saneGetParameters h)
  | setIoMode b => exact wp_bind_pure (conforms_rule.saneSetIoMode b h)
  | close => exact wp_bind_pure (saneClose_conforms h)
  | exit => exact wp_bind_pure (saneClose_conforms h)

theorem probeAdf_conforms (h : s.Phased .unlocked) (hscan : s.host.h.scanning = false) :
    wp probeAdf (fun _ t => t.Conforms) s := by
  unfold probeAdf
  rw [wp_bind, wp_setHandle, after_ok, wp_bind, wp_attempt]
  apply wp_mono (command_sent cmdLock [] none _)
  intro r t ht
  have hasked : t.Phased (.asked 1) := by
    refine ⟨?_, ?_⟩
    · rw [ht.sent, Session.onHandle_outp, follow_snoc h.sent]
      rfl
    · rw [ht.host]
      exact iff_of_true rfl (by decide)
  have hunlock {u : Session} {p : Phase} (hu : u.Phased p) (hscan : u.host.h.scanning = false) :
      wp unlockDevice (fun _ t => t.Conforms) u := by
    apply wp_mono (unlockDevice_spec u)
    rintro _ v ⟨-, hh, ho⟩
    exact (hu.unlocks hh (fun _ => rfl) ho).conforms_idle (by rw [hh]; exact hscan)
  have hscant : t.host.h.scanning = false := by
    rw [ht.host]
    exact hscan
  rw [after_ok]
  -- Whatever the lock and the question come to, an unlock request follows.
  cases r with
  | error e => exact hunlock hasked hscant
  | ok _ =>
    dsimp only
    rw [wp_bind, wp_attempt]
    apply wp_mono (checkAdf_sent t)
    intro r u hu
    have hscanu : u.host.h.scanning = false := by
      rw [hu.host]
      exact hscant
    have hu : u.Phased .feeder := hasked.sends hu (by decide) (by decide) rfl
    rw [after_ok]
    cases r with
    | error e => exact hunlock hu hscanu
    | ok a => exact hunlock ⟨hu.sent, hu.locked⟩ hscanu

theorem saneOpen_conforms (h : s.Phased .unlocked) (hs : s.host.h = Handle.zero) :
    wp saneOpen (fun _ t => t.Conforms) s := by
  have hzero {t : Session} (ht : t.host.h = Handle.zero) (ho : t.outp = s.outp) : t.Conforms := by
    have ht' : t.Phased .unlocked := by
      refine ⟨?_, ?_⟩
      · rw [ho]
        exact h.sent
      · rw [ht, ← hs]
        exact h.locked
    exact ht'.conforms_idle (by rw [ht]; rfl)
  unfold saneOpen
  rw [wp_bind, onHost, wp_zoom]
  apply wp_mono (alloc_spec s.host)
  rintro _ t ⟨b, rfl, hh, -⟩
  rw [after_ok, wp_ite]
  refine ⟨fun _ => ?_, fun _ => hzero (hh.trans hs) rfl⟩
  rw [wp_bind, wp_modify, after_ok, wp_bind]
  apply wp_onInp
  intro r i
  cases r with
  | error _ => exact hzero rfl rfl
  | ok _ =>
    have hu : Session.Conforms ⟨{ t with h := Handle.zero }, i, s.outp⟩ := hzero rfl rfl
    rw [after_ok, wp_bind]
    apply wp_mono (probeAdf_conforms (hu.idle rfl) rfl)
    intro r v hv
    cases r with
    | error _ => exact hv
    | ok _ =>
      rw [after_ok, wp_bind, onHost, wp_zoom]
      apply wp_mono (initOptions_spec v.host)
      intro r w hw
      have hw : Session.Conforms { v with host := w } :=
        Session.Conforms.congr hv hw.job.kept.scanning hw.job.kept.locked rfl
      cases r with
      | error _ => exact hw
      | ok _ => exact Session.Conforms.congr hw rfl rfl rfl

theorem Reachable.conforms (h : Reachable env s) : s.Conforms := by
  induction h with
  | @opened s s' r h hs =>
    obtain ⟨i, o, a, d, rfl⟩ := hs
    have hfresh : (Session.fresh i o a d).Phased .unlocked := ⟨rfl, by simp [Session.fresh, Handle.zero]⟩
    have hopen := saneOpen_conforms hfresh rfl
    unfold wp at hopen
    rwa [h] at hopen
  | call hs c ih => exact c.run_conforms ih hs.disciplined

theorem Phase.next_eq {p q : Phase} {f : HostFrame} (h : p.next f = some q) :
    (f = ⟨cmdUnlock, []⟩ ∧ q = .unlocked) ∨ (f = ⟨cmdLock, []⟩ ∧ ∃ n, q = .asked n) ∨
    (f = ⟨cmdAdfStatus, []⟩ ∧ q = .feeder) ∨ (f = ⟨cmdSetDefaults, []⟩ ∧ q = .defaults) ∨
    (f = ⟨cmdGetSettings, []⟩ ∧ p = .defaults ∧ q = .settings) ∨
    (f.cmd = cmdSetSettings ∧ f.payload.length = pantumSettingsLen ∧ p = .settings ∧
      q = .configured) ∨
    (f = ⟨cmdStart, []⟩ ∧ p = .configured ∧ q = .running) ∨
    (f = ⟨cmdAbort, []⟩ ∧ p = .running ∧ q = .aborting) := by
  unfold next at h
  split at h
  · rename_i hu
    exact .inl ⟨hu.2, (Option.some.inj h).symm⟩
  · cases p with
    | aborting => cases h
    | _ => dsimp only at h; split_ifs at h <;> cases h <;> simp_all

theorem Phase.after_start {q : Phase} {f : HostFrame} (h : Phase.running.next f = some q) :
    f = ⟨cmdAbort, []⟩ ∨ f = ⟨cmdUnlock, []⟩ := by
  unfold next at h
  split at h
  · rename_i hu
    exact .inr hu.2
  · exact .inl (by_contra fun ha => by rw [if_neg ha] at h; cases h)

theorem Phase.after_abort {q : Phase} {f : HostFrame} (h : Phase.aborting.next f = some q) :
    f = ⟨cmdUnlock, []⟩ := by
  unfold next at h
  split at h
  · rename_i hu
    exact hu.2
  · cases h

theorem Phase.configured_log {log : List HostFrame}
    (h : follow Phase.next .unlocked log = some .configured) :
    ∃ l block, log = l ++ [⟨cmdSetDefaults, []⟩, ⟨cmdGetSettings, []⟩, ⟨cmdSetSettings, block⟩] ∧
      block.length = pantumSettingsLen := by
  obtain ⟨l₁, f₁, p₁, rfl, h₁, hn₁⟩ := follow_last h (by decide)
  obtain ⟨hc, hlen, rfl⟩ : f₁.cmd = cmdSetSettings ∧ f₁.payload.length = pantumSettingsLen ∧
      p₁ = .settings := by
    simpa using Phase.next_eq hn₁
  obtain ⟨l₂, f₂, p₂, rfl, h₂, hn₂⟩ := follow_last h₁ (by decide)
  obtain ⟨rfl, rfl⟩ : f₂ = ⟨cmdGetSettings, []⟩ ∧ p₂ = .defaults := by
    simpa using Phase.next_eq hn₂
  obtain ⟨l₃, f₃, p₃, rfl, -, hn₃⟩ := follow_last h₂ (by decide)
  obtain rfl : f₃ = ⟨cmdSetDefaults, []⟩ := by
    simpa using Phase.next_eq hn₃
  obtain ⟨cmd, block⟩ := f₁
  obtain rfl : cmd = cmdSetSettings := hc
  exact ⟨l₃, block, by simp, hlen⟩

/-- In a log of the protocol every start comes right behind the settings of its job, and only an
abort or an unlock request comes right behind it. -/
theorem Phase.start_in_log {q : Phase} {f : HostFrame} {before after : List HostFrame}
    (h : follow Phase.next .unlocked (before ++ f :: after) = some q) (hf : f.cmd = cmdStart) :
    f.payload = [] ∧
    (∃ l block, before =
        l ++ [⟨cmdSetDefaults, []⟩, ⟨cmdGetSettings, []⟩, ⟨cmdSetSettings, block⟩] ∧
      block.length = pantumSettingsLen) ∧
    ∀ g rest, after = g :: rest → g = ⟨cmdAbort, []⟩ ∨ g = ⟨cmdUnlock, []⟩ := by
  obtain ⟨p, t, hp, hn, ht⟩ := follow_split h
  obtain ⟨rfl, rfl, rfl⟩ : f = ⟨cmdStart, []⟩ ∧ p = .configured ∧ t = .running := by
    rcases Phase.next_eq hn with ⟨rfl, -⟩ | ⟨rfl, -⟩ | ⟨rfl, -⟩ | ⟨rfl, -⟩ | ⟨rfl, -⟩ | ⟨hc, -⟩ | h |
      ⟨rfl, -⟩
    all_goals
      first | exact h | exact absurd hf (by decide) | exact absurd (hc.symm.trans hf) (by decide)
  refine ⟨rfl, Phase.configured_log hp, ?_⟩
  rintro g rest rfl
  obtain ⟨p', t', hp', hn', -⟩ := follow_split (l := []) ht
  rw [follow_nil] at hp'
  rw [← Option.some.inj hp'] at hn'
  exact Phase.after_start hn'

/-- Every abort comes right behind a start, and only an unlock request comes right behind it. -/
theorem Phase.abort_in_log {q : Phase} {f : HostFrame} {before after : List HostFrame}
    (h : follow Phase.next .unlocked (before ++ f :: after) = some q) (hf : f.cmd = cmdAbort) :
    f.payload = [] ∧ (∃ l, before = l ++ [⟨cmdStart, []⟩]) ∧
    (after = [] → q = .aborting) ∧ ∀ g rest, after = g :: rest → g = ⟨cmdUnlock, []⟩ := by
  obtain ⟨p, t, hp, hn, ht⟩ := follow_split h
  obtain ⟨rfl, rfl, rfl⟩ : f = ⟨cmdAbort, []⟩ ∧ p = .running ∧ t = .aborting := by
    rcases Phase.next_eq hn with ⟨rfl, -⟩ | ⟨rfl, -⟩ | ⟨rfl, -⟩ | ⟨rfl, -⟩ | ⟨rfl, -⟩ | ⟨hc, -⟩ |
      ⟨rfl, -⟩ | h
    all_goals
      first | exact h | exact absurd hf (by decide) | exact absurd (hc.symm.trans hf) (by decide)
  refine ⟨rfl, ?_, ?_, ?_⟩
  · obtain ⟨l, g, p, rfl, -, hg⟩ := follow_last hp (by decide)
    obtain ⟨rfl, -⟩ : g = ⟨cmdStart, []⟩ ∧ p = .configured := by
      simpa using Phase.next_eq hg
    exact ⟨l, rfl⟩
  · rintro rfl
    rw [follow_nil] at ht
    exact (Option.some.inj ht).symm
  · rintro g rest rfl
    obtain ⟨p', t', hp', hn', -⟩ := follow_split (l := []) ht
    rw [follow_nil] at hp'
    rw [← Option.some.inj hp'] at hn'
    exact Phase.after_abort hn'

/-- Whatever the device does and the frontend asks for, the frames the host tries to send are a run
of the protocol, which stands behind a start while a job runs and at its beginning otherwise. Every
start comes right behind the settings of its job, with a block of the full length; every abort comes
right behind a start and is followed by an unlock request. -/
theorem Reachable.sent_protocol (h : Reachable env s) :
    follow Phase.next .unlocked s.outp.sent =
      some (if s.host.h.scanning then .running else .unlocked) ∧
    ∀ before f after, s.outp.sent = before ++ f :: after →
      (f.cmd = cmdStart → f.payload = [] ∧
        (∃ l block, before =
            l ++ [⟨cmdSetDefaults, []⟩, ⟨cmdGetSettings, []⟩, ⟨cmdSetSettings, block⟩] ∧
          block.length = pantumSettingsLen) ∧
        ∀ g rest, after = g :: rest → g = ⟨cmdAbort, []⟩ ∨ g = ⟨cmdUnlock, []⟩) ∧
      (f.cmd = cmdAbort → f.payload = [] ∧ (∃ l, before = l ++ [⟨cmdStart, []⟩]) ∧
        ∃ rest, after = ⟨cmdUnlock, []⟩ :: rest) := by
  have hsent := h.conforms.sent
  refine ⟨hsent, fun before f after hlog => ?_⟩
  rw [hlog] at hsent
  refine ⟨Phase.start_in_log hsent, fun hf => ?_⟩
  obtain ⟨hpay, hstart, hend, hnext⟩ := Phase.abort_in_log hsent hf
  refine ⟨hpay, hstart, ?_⟩
  cases after with
  | nil =>
    -- Between two calls no abort is left without its unlock request.
    have hq := hend rfl
    split at hq <;> cases hq
  | cons g rest => exact ⟨rest, by rw [hnext g rest rfl]⟩

theorem sent_protocol_firstStart :
    follow Phase.next .unlocked
      (runCalls plainEnv firstStart (saneOpen cooperative).2).2.outp.sent = some .running := by
  have hscan : (runCalls plainEnv firstStart (saneOpen cooperative).2).2.host.h.scanning = true := by
    decide +kernel
  exact reachable_firstStart.sent_protocol.1.trans (congrArg some (if_pos hscan))

end PantumOpen.Scan
