import PantumOpen.Scan.Effects

/-! What a job that has begun may write to the handle, and that it writes nothing else. -/

namespace PantumOpen.Scan
open Prog

variable {h h' : Handle} {s t : Session}

def Handle.withJob (h h' : Handle) : Handle :=
  { h.withImage h' with
    scanning := h'.scanning, locked := h'.locked, eof := h'.eof, feeding := h'.feeding }

/-- `h'` differs from `h` in what a job writes at most. -/
def JobOnly (h h' : Handle) : Prop := h' = h.withJob h'

theorem JobOnly.eq (a : JobOnly h h') : h' = h.withJob h' := a

theorem JobOnly.refl (h : Handle) : JobOnly h h := rfl

theorem JobOnly.trans {h'' : Handle} (a : JobOnly h h') (b : JobOnly h' h'') : JobOnly h h'' :=
  b.eq.trans ((congrArg (fun x : Handle => x.withJob h'') a.eq).trans rfl)

theorem JobOnly.get {β : Type} (g : Handle → β) (a : JobOnly h h')
    (hg : ∀ h h', g (h.withJob h') = g h := by intros; rfl) : g h' = g h :=
  (congrArg g a.eq).trans (hg h h')

theorem SameControl.jobOnly (a : SameControl h h') : JobOnly h h' := by
  have himage : h.withImage h' = h.withJob (h.withImage h') := rfl
  exact a.eq.trans (himage.trans (congrArg h.withJob a.eq.symm))

structure JobStep (s t : Session) : Prop where
  handle : JobOnly s.host.h t.host.h
  opened : t.host.valid = true → s.host.valid = true

theorem JobStep.refl (s : Session) : JobStep s s := ⟨.refl _, id⟩

theorem JobStep.trans {u : Session} (a : JobStep s t) (b : JobStep t u) : JobStep s u :=
  ⟨a.handle.trans b.handle, a.opened ∘ b.opened⟩

theorem JobStep.of_host {f : Handle → Handle} (hh : t.host = s.host.onHandle f)
    (hf : ∀ h, JobOnly h (f h)) : JobStep s t := by
  refine ⟨?_, ?_⟩ <;> rw [hh]
  · exact hf _
  · exact id

theorem Abandoned.jobStep (a : Abandoned s t) : JobStep s t := .of_host a.host fun _ => rfl

theorem Queued.jobStep (a : Queued s t) : JobStep s t :=
  ⟨a.control.jobOnly, fun hv => a.valid ▸ hv⟩

theorem FrameEffect.jobStep {report : Bool} {r : Except Status Pumped} (a : FrameEffect report s r t) :
    JobStep s t := by
  cases a with
  | kept hq _ => exact hq.jobStep
  | aborted hh _ _ => exact .of_host hh fun _ => rfl
  | jobEnd hq hh _ _ => exact hq.jobStep.trans (.of_host hh fun _ => rfl)
  | pageEnd hq _ hh _ _ => exact hq.jobStep.trans (.of_host hh fun _ => rfl)

theorem takeFrame_jobStep (env : Env) (probe report : Bool) (s : Session) :
    wp (takeFrame env probe report) (fun _ t => JobStep s t) s := by
  refine wp_takeFrame (wp_mono (pumpFrame_effect env probe report s) fun r t ht => ?_)
  match r with
  | .error _ => exact fun u hu => ht.jobStep.trans hu.jobStep
  | .ok _ => exact ht.jobStep

theorem awaitFirstRows_jobStep (env : Env) (s : Session) :
    wp (awaitFirstRows env) (fun _ t => JobStep s t) s := by
  refine wp_awaitFirstRows (JobStep s) (fun t ht _ => ?_)
    (fun t ht _ => ht) (fun t u ht hu => ht.trans hu.jobStep) (.refl _)
  apply wp_mono (takeFrame_jobStep env false true t)
  intro r u hu
  match r with
  | .error _ => exact ht.trans hu
  | .ok .idle => exact ht.trans hu
  | .ok .done => exact ht.trans hu
  | .ok (.aborted _) => exact ht.trans hu

theorem beginJob_jobStep (s : Session) : wp beginJob (fun _ t => JobStep s t) s := by
  apply wp_mono (beginJob_spec s)
  intro r t ht
  match r, ht with
  | .error _, ⟨hh, _⟩ => exact .of_host hh fun _ => rfl
  | .ok _, ⟨hh, _⟩ => exact .of_host hh fun _ => rfl

theorem startRound_jobStep (env : Env) (s : Session) :
    wp (startRound env) (fun _ t => JobStep s t) s := by
  unfold startRound runJob
  rw [wp_bind, wp_bind]
  apply wp_mono (beginJob_jobStep s)
  intro r t ht
  match r with
  | .error _ => exact ht
  | .ok _ =>
    rw [after_ok]
    apply wp_mono (awaitFirstRows_jobStep env t)
    intro r u hu
    have hkept : JobStep s u := ht.trans hu
    match r with
    | .error _ => exact hkept
    | .ok none => exact hkept
    | .ok (some _) =>
      rw [after_ok]
      dsimp only
      rw [wp_ite]
      exact ⟨fun _ => hkept, fun _ => hkept⟩

theorem startJob_jobStep (env : Env) (s : Session) :
    wp (startJob env) (fun _ t => JobStep s t) s := by
  refine wp_loop (fun _ => JobStep s) (fun _ t ht => ?_) (fun _ t ht => ?_) 4 (.refl _)
  · apply wp_mono (startRound_jobStep env t)
    intro r u hu
    match r with
    | .error _ => exact ht.trans hu
    | .ok (.inl _) => exact ht.trans hu
    | .ok (.inr _) => exact ht.trans hu
  · rw [wp_fail]
    exact ht

theorem fillQueue_jobStep (env : Env) (s : Session) :
    wp (fillQueue env) (fun _ t => JobStep s t) s := by
  refine wp_fillQueue (JobStep s) (fun t ht _ _ => ?_) (fun t ht _ _ => ?_)
    (fun t ht _ => ht) (fun t u ht hu => ht.trans hu.jobStep) (.refl _)
  · apply wp_mono (takeFrame_jobStep env _ _ t)
    intro r u hu
    match r with
    | .error _ => exact ht.trans hu
    | .ok .idle => exact ht.trans hu
    | .ok .done => exact ht.trans hu
    | .ok (.aborted _) => exact ht.trans hu
  · exact ht.trans (.of_host (f := fun h => { h with eof := true }) rfl fun _ => rfl)

theorem endScan_jobStep (s : Session) : wp endScan (fun _ t => JobStep s t) s := by
  apply wp_mono (endScan_spec s)
  rintro _ t ⟨-, hh, -⟩
  exact .of_host hh fun _ => rfl

theorem saneRead_jobStep (env : Env) (maxLength : Int) (s : Session) :
    wp (saneRead env maxLength) (fun _ t => JobStep s t) s := by
  unfold saneRead
  rw [wp_bind, wp_read, after_ok, wp_ite]
  refine ⟨fun _ => .refl _, fun _ => ?_⟩
  rw [wp_bind, wp_getHandle, after_ok, wp_ite]
  refine ⟨fun _ => ?_, fun _ => ?_⟩
  · rw [wp_bind]
    apply wp_mono (endScan_jobStep s)
    intro r t ht
    match r with
    | .error _ => exact ht
    | .ok _ =>
      rw [after_ok, wp_bind, wp_setHandle, after_ok, wp_fail]
      exact ht.trans (.of_host (f := fun h => { h with out := [], outPos := 0, eof := true }) rfl
        fun _ => rfl)
  rw [wp_bind]
  apply wp_mono (fillQueue_jobStep env s)
  intro r t ht
  match r with
  | .error _ => exact ht
  | .ok _ =>
    rw [after_ok, wp_ite]
    refine ⟨fun _ => ht, fun _ => ?_⟩
    rw [wp_bind, wp_getHandle, after_ok]
    dsimp only
    rw [wp_ite]
    refine ⟨fun _ => ht, fun _ => ?_⟩
    rw [wp_bind, wp_setHandle, after_ok, wp_pure]
    exact ht.trans ⟨rfl, id⟩

theorem saneClose_jobStep (s : Session) : wp saneClose (fun _ t => JobStep s t) s := by
  unfold saneClose
  rw [wp_bind, wp_read, after_ok, wp_ite]
  refine ⟨fun _ => ?_, fun _ => .refl _⟩
  rw [wp_bind]
  apply wp_mono (endScan_jobStep s)
  intro r t ht
  match r with
  | .error _ => exact ht
  | .ok _ =>
    rw [after_ok, wp_modify]
    exact ⟨ht.handle, fun hv => by cases hv⟩

end PantumOpen.Scan
