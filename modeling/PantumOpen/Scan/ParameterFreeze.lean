import PantumOpen.Scan.JobFrame
import PantumOpen.Scan.JobIsolation
import PantumOpen.Scan.OptionRanges

/-! The frame parameters a frontend is told before a scan and after its start, and the handle that
converts the rows of a job, which stay those of the options it was started with. -/

namespace PantumOpen.Scan
open Prog

variable {env : Env} {s t : Session}

def Handle.Fresh (h : Handle) : Prop := h.params = h.val.computeParameters

/-- No job runs and nothing is left to deliver, so the parameters are computed when asked for. -/
def Handle.Quiet (h : Handle) : Prop := h.scanning = false ∧ h.outPos = h.out.length

def Handle.Current (h : Handle) : Prop := h.Fresh ∨ h.Quiet

def Handle.Frozen (h : Handle) : Prop := h.scanning = true → h.Fresh

/-- A handle that converts rows as every job with the option values `v` does. -/
def jobHandle (env : Env) (v : OptionValues) : Handle :=
  ({ Handle.zero with val := v } : Handle).prepared env

/-- The rows of a job that runs are converted as the options ask for. -/
def Handle.Ready (env : Env) (h : Handle) : Prop :=
  h.scanning = true → h.SameRows (jobHandle env h.val)

theorem Handle.sameRows_jobHandle (env : Env) (h : Handle) :
    (h.prepared env).SameRows (jobHandle env h.val) := by
  unfold jobHandle prepared setMargins derived
  dsimp only
  by_cases hadf : h.val.sourceIsAdf = true
  · rw [if_pos hadf, if_pos hadf]
    exact ⟨rfl, rfl, rfl, rfl, rfl, rfl, rfl, rfl⟩
  · rw [if_neg hadf, if_neg hadf]
    exact ⟨rfl, rfl, rfl, rfl, rfl, rfl, rfl, rfl⟩

/-- The options of the handle are what they were, and so is all that rows are converted with. -/
structure RowsKept (h h' : Handle) : Prop where
  val : h'.val = h.val
  rows : h'.SameRows h

theorem RowsKept.refl (h : Handle) : RowsKept h h := ⟨rfl, .refl h⟩

theorem RowsKept.trans {h h' h'' : Handle} (a : RowsKept h h') (b : RowsKept h' h'') :
    RowsKept h h'' := ⟨b.val.trans a.val, b.rows.trans a.rows⟩

theorem RowsKept.fresh {h h' : Handle} (a : RowsKept h h') (hf : h.Fresh) : h'.Fresh := by
  unfold Handle.Fresh
  rw [a.rows.params, a.val]
  exact hf

theorem RowsKept.sameJob {h h' : Handle} (a : RowsKept h h') (hr : h.SameRows (jobHandle env h.val)) :
    h'.SameRows (jobHandle env h'.val) := by
  rw [a.val]
  exact a.rows.trans hr

theorem JobOnly.rowsKept {h h' : Handle} (a : JobOnly h h') : RowsKept h h' where
  val := a.get Handle.val
  rows := ⟨a.get Handle.params, a.get Handle.gamma, a.get Handle.threshold, a.get Handle.halftone,
    a.get Handle.whiteTop, a.get Handle.whiteBottom, a.get Handle.whiteLeft, a.get Handle.whiteRight⟩

/-- What a call that neither starts a job nor sets an option does to the frame. -/
structure FrameKept (h h' : Handle) : Prop extends RowsKept h h' where
  running : h'.scanning = true → h.scanning = true
  quiet : h.Quiet → h'.Quiet

theorem FrameKept.refl (h : Handle) : FrameKept h h := ⟨.refl _, id, id⟩

theorem FrameKept.frozen {h h' : Handle} (a : FrameKept h h') (hf : h.Frozen) : h'.Frozen :=
  fun hscan => a.fresh (hf (a.running hscan))

theorem FrameKept.ready {h h' : Handle} (a : FrameKept h h') (hr : h.Ready env) : h'.Ready env :=
  fun hscan => a.sameJob (hr (a.running hscan))

theorem FrameKept.current {h h' : Handle} (a : FrameKept h h') (hc : h.Current) : h'.Current :=
  hc.imp a.fresh a.quiet

theorem FrameKept.of_running {h h' h'' : Handle} (a : FrameKept h h') (hs : h'.scanning = true)
    (b : RowsKept h' h'') : FrameKept h h'' where
  toRowsKept := a.toRowsKept.trans b
  running _ := a.running hs
  quiet hq := absurd (hq.1.symm.trans (a.running hs)) Bool.false_ne_true

theorem FrameKept.trans {h h' h'' : Handle} (a : FrameKept h h') (b : FrameKept h' h'') :
    FrameKept h h'' :=
  ⟨a.toRowsKept.trans b.toRowsKept, a.running ∘ b.running, b.quiet ∘ a.quiet⟩

theorem frameKept_abandoned (h : Handle) : FrameKept h h.abandoned :=
  ⟨JobOnly.rowsKept rfl, fun hscan => (by cases hscan), fun hq => ⟨rfl, hq.2⟩⟩

theorem frameKept_flags (h : Handle) (cancelled nonBlocking : Bool) :
    FrameKept h { h with cancelled := cancelled, nonBlocking := nonBlocking } :=
  ⟨⟨rfl, rfl, rfl, rfl, rfl, rfl, rfl, rfl, rfl⟩, id, id⟩

/-- A start leaves the options alone, and the parameters of the handle are theirs once it succeeds. -/
structure StartFresh (env : Env) (s : Session) (r : Except Status Unit) (t : Session) : Prop where
  val : t.host.h.val = s.host.h.val
  frozen : s.host.h.Frozen → t.host.h.Frozen
  current : s.host.h.Current → t.host.h.Current
  fresh : s.host.h.Frozen → r = .ok () → t.host.h.Fresh
  ready : s.host.h.Ready env → t.host.h.Ready env

theorem RowsKept.startFresh {r : Except Status Unit} {u : Session}
    (h : RowsKept t.host.h u.host.h) (hval : t.host.h.val = s.host.h.val)
    (hfresh : s.host.h.Current ∨ s.host.h.Frozen → t.host.h.Fresh)
    (hready : s.host.h.Ready env → u.host.h.Ready env) : StartFresh env s r u where
  val := h.val.trans hval
  frozen hf _ := h.fresh (hfresh (.inr hf))
  current hc := .inl (h.fresh (hfresh (.inl hc)))
  fresh hf _ := h.fresh (hfresh (.inr hf))
  ready := hready

theorem settled_cases (s : Session) :
    s.settled = s ∨ s.settled.host = s.host.onHandle Handle.abandoned := by
  unfold Session.settled
  split
  · have h := endScan_spec s
    unfold wp at h
    exact .inr h.2.1
  · exact .inl rfl

theorem Handle.derived_fresh (h : Handle) : h.derived.Fresh := rfl

theorem Handle.prepared_fresh (env : Env) (h : Handle) :
    (h.prepared env).val = h.val ∧ (h.prepared env).Fresh := by
  unfold Fresh prepared setMargins
  dsimp only
  split <;> exact ⟨rfl, rfl⟩

theorem prepareJob_fresh (env : Env) (s : Session) :
    wp (onHost (prepareJob env)) (fun _ t => t.host.h.val = s.host.h.val ∧ t.host.h.Fresh) s := by
  rw [onHost, wp_zoom]
  apply wp_mono (prepareJob_spec env s.host)
  rintro _ u ⟨-, ⟨-, hh⟩ | ⟨-, hh⟩⟩
  · change u.h.val = s.host.h.val ∧ u.h.Fresh
    rw [hh]
    exact s.host.h.prepared_fresh env
  · change u.h.val = s.host.h.val ∧ u.h.Fresh
    rw [hh]
    exact ⟨rfl, s.host.h.derived_fresh⟩

/-- The handle of a job that is set up; no job is begun on one that is not. -/
theorem prepareJob_rows (env : Env) (s : Session) :
    wp (onHost (prepareJob env)) (fun r t =>
      (r = .ok () → t.host.h.SameRows (jobHandle env t.host.h.val)) ∧
      ((∃ e, r = .error e) → t.host.h.scanning = s.host.h.scanning)) s := by
  rw [onHost, wp_zoom]
  apply wp_mono (prepareJob_spec env s.host)
  rintro _ u ⟨-, ⟨rfl, hh⟩ | ⟨rfl, hh⟩⟩
  · constructor
    · intro _
      change u.h.SameRows (jobHandle env u.h.val)
      rw [hh, (s.host.h.prepared_fresh env).1]
      exact s.host.h.sameRows_jobHandle env
    · rintro ⟨_, he⟩
      cases he
  · refine ⟨fun he => (by cases he), fun _ => ?_⟩
    change u.h.scanning = s.host.h.scanning
    rw [hh]
    rfl

theorem saneStart_fresh (env : Env) (hs : s.Disciplined) :
    wp (saneStart env) (StartFresh env s) s := by
  by_cases hv : s.host.valid = true
  swap
  · unfold wp
    rw [saneStart_invalid env hv]
    exact ⟨rfl, id, id, fun _ hr => (by cases hr), id⟩
  unfold wp
  rw [saneStart_settled env hv]
  change wp (startSettled env) (StartFresh env s) s.settled
  obtain ⟨hkept, hfrozen, hcurrent, hready⟩ : RowsKept s.host.h s.settled.host.h ∧
      (s.host.h.Frozen → s.settled.host.h.Frozen) ∧
      (s.host.h.Current → s.settled.host.h.Current) ∧
      (s.host.h.Ready env → s.settled.host.h.Ready env) := by
    rcases settled_cases s with h | h <;> rw [h]
    · exact ⟨.refl _, id, id, id⟩
    · have hkept : FrameKept s.host.h s.host.h.abandoned := frameKept_abandoned s.host.h
      exact ⟨hkept.toRowsKept, hkept.frozen, hkept.current, hkept.ready⟩
  unfold startSettled
  rw [wp_bind, wp_getHandle, after_ok, wp_ite]
  refine ⟨fun hf => ?_, fun hf => ?_⟩
  · -- Only a job that is still running can be picked up again, and its parameters are frozen.
    obtain ⟨hsettled, hrunning⟩ : s.settled = s ∧ s.settled.host.h.scanning = true := by
      rcases settled_cases s with h | h
      · rw [h] at hf ⊢
        exact ⟨rfl, hs.steady.feeding hf⟩
      · rw [h] at hf
        cases hf
    have hfresh (hc : s.host.h.Current ∨ s.host.h.Frozen) : s.settled.host.h.Fresh := by
      rw [hsettled] at hrunning ⊢
      rcases hc with (hc | hq) | hc
      · exact hc
      · exact absurd (hq.1.symm.trans hrunning) Bool.false_ne_true
      · exact hc hrunning
    unfold resumeJob
    rw [wp_bind, wp_setHandle, after_ok, wp_bind]
    apply wp_mono (awaitFirstRows_jobStep env _)
    intro r t ht
    have hemptied : RowsKept s.settled.host.h (s.settled.onHandle Handle.resumed).host.h :=
      JobOnly.rowsKept rfl
    have hkeptRows := hemptied.trans ht.handle.rowsKept
    have hstart (r : Except Status Unit) : StartFresh env s r t :=
      hkeptRows.startFresh hkept.val hfresh fun hr _ => hkeptRows.sameJob (hready hr hrunning)
    match r with
    | .error _ => exact hstart _
    | .ok (some st) =>
      rw [after_ok]
      exact wp_ofStatus _ (fun _ => hstart _) fun _ => hstart _
    | .ok none =>
      rw [after_ok]
      dsimp only
      rw [wp_bind, wp_getHandle, after_ok, wp_ite]
      exact ⟨fun _ => hstart _, fun _ => hstart _⟩
  rw [wp_ite]
  refine ⟨fun _ => ⟨hkept.val, hfrozen, hcurrent, fun _ hr => (by cases hr), hready⟩, fun hscan => ?_⟩
  rw [wp_bind]
  refine wp_mono (wp_and (prepareJob_fresh env _) (prepareJob_rows env _))
    fun r t ⟨⟨hval, hfresh⟩, hrows, hstill⟩ => ?_
  have hval : t.host.h.val = s.host.h.val := hval.trans hkept.val
  match r with
  | .error _ =>
    exact (RowsKept.refl _).startFresh hval (fun _ => hfresh) fun _ hrun =>
      absurd ((hstill ⟨_, rfl⟩).symm.trans hrun) hscan
  | .ok _ =>
    rw [after_ok]
    exact wp_mono (startJob_jobStep env t) fun _ u hu =>
      hu.handle.rowsKept.startFresh hval (fun _ => hfresh) fun _ _ =>
        hu.handle.rowsKept.sameJob (hrows rfl)

theorem Abandoned.frameKept (h : Abandoned s t) : FrameKept s.host.h t.host.h := by
  rw [h.host]
  exact frameKept_abandoned s.host.h

theorem fillQueue_frameKept (env : Env) (s : Session) :
    wp (fillQueue env) (fun _ t => FrameKept s.host.h t.host.h) s := by
  refine wp_fillQueue (fun t => FrameKept s.host.h t.host.h) (fun t ht _ hscan => ?_)
    (fun t ht _ _ => ?_) (fun t ht _ => ht) (fun t u ht hu => ht.trans hu.frameKept) (.refl _)
  · apply wp_mono (takeFrame_jobStep env _ _ t)
    intro r u hu
    have hu := hu.handle.rowsKept
    match r with
    | .error _ => exact ht.of_running hscan hu
    | .ok .idle => exact ht.of_running hscan hu
    | .ok .done => exact ht.of_running hscan hu
    | .ok (.aborted _) => exact ht.of_running hscan hu
  · exact ht.trans ⟨JobOnly.rowsKept rfl, id, id⟩

theorem saneRead_frameKept (env : Env) (maxLength : Int) (s : Session) :
    wp (saneRead env maxLength) (fun _ t => FrameKept s.host.h t.host.h) s := by
  unfold saneRead
  rw [wp_bind, wp_read, after_ok, wp_ite]
  refine ⟨fun _ => .refl _, fun _ => ?_⟩
  rw [wp_bind, wp_getHandle, after_ok, wp_ite]
  refine ⟨fun _ => ?_, fun _ => ?_⟩
  · rw [wp_bind]
    apply wp_mono (endScan_spec s)
    rintro _ t ⟨rfl, hh, -⟩
    rw [after_ok, wp_bind, wp_setHandle, after_ok, wp_fail, Session.onHandle_h, hh]
    exact ⟨JobOnly.rowsKept rfl, fun hscan => (by cases hscan), fun _ => ⟨rfl, rfl⟩⟩
  rw [wp_bind]
  apply wp_mono (fillQueue_frameKept env s)
  intro r t ht
  match r with
  | .error _ => exact ht
  | .ok _ =>
    rw [after_ok, wp_ite]
    refine ⟨fun _ => ht, fun _ => ?_⟩
    rw [wp_bind, wp_getHandle, after_ok]
    dsimp only
    rw [wp_ite]
    refine ⟨fun _ => ht, fun havail => ?_⟩
    rw [wp_bind, wp_setHandle, after_ok, wp_pure]
    refine ht.trans ⟨JobOnly.rowsKept rfl, id, fun hq => absurd ?_ havail⟩
    rw [hq.2]
    exact Nat.sub_self _

theorem saneClose_frameKept (s : Session) :
    wp saneClose (fun _ t => FrameKept s.host.h t.host.h) s := by
  unfold saneClose
  rw [wp_bind, wp_read, after_ok, wp_ite]
  refine ⟨fun _ => ?_, fun _ => .refl _⟩
  rw [wp_bind]
  apply wp_mono (endScan_spec s)
  rintro _ t ⟨rfl, hh, -⟩
  rw [after_ok, wp_modify]
  change FrameKept s.host.h t.host.h
  rw [hh]
  exact frameKept_abandoned s.host.h

/-- Setting an option changes nothing while a job runs, and no more than options otherwise. -/
structure OptionsSet (s s' : Host) : Prop extends OptionsOnly s s' where
  running : s.h.scanning = true → s' = s

theorem saneControlOption_set (option : Int) (action : Action) (value : Option Value) (s : Host) :
    wp (saneControlOption option action value) (fun _ s' => OptionsSet s s') s := by
  refine wp_mono (wp_and (saneControlOption_spec option action value s)
    (saneControlOption_cases (Q := fun s' => s.h.scanning = true → s' = s) option action value
      (fun _ => rfl) (fun _ _ _ hs _ => ?_) (fun _ _ _ hs _ => ?_) fun _ _ hs _ _ => ?_))
    fun _ _ h => ⟨h.1, h.2⟩
  all_goals exact fun h => absurd (hs.symm.trans h) Bool.false_ne_true

theorem OptionsSet.frozen {s s' : Host} (a : OptionsSet s s') (h : s.h.Frozen) : s'.h.Frozen := by
  intro hscan
  have hrun : s.h.scanning = true := by
    rw [a.job] at hscan
    exact hscan
  rw [a.running hrun]
  exact h hrun

theorem OptionsSet.ready {s s' : Host} (a : OptionsSet s s') (h : s.h.Ready env) : s'.h.Ready env := by
  intro hscan
  have hrun : s.h.scanning = true := by
    rw [a.job] at hscan
    exact hscan
  rw [a.running hrun]
  exact h hrun

theorem OptionsSet.current {s s' : Host} (a : OptionsSet s s') (h : s.h.Current)
    (hval : s'.h.val ≠ s.h.val → s.h.scanning = true ∨ s.h.outPos = s.h.out.length) :
    s'.h.Current := by
  have hjob : SameJob s.h s'.h := a.job
  unfold SameJob at hjob
  by_cases hv : s'.h.val = s.h.val
  · refine h.imp (fun hf => ?_) fun hq => ?_
    · unfold Handle.Fresh
      rw [hv, hjob]
      exact hf
    · rw [hjob]
      exact hq
  · rcases hval hv with hscan | hpos
    · rw [a.running hscan]
      exact h
    · by_cases hscan : s.h.scanning = true
      · rw [a.running hscan]
        exact h
      · refine .inr ?_
        rw [hjob]
        exact ⟨Bool.eq_false_of_not_eq_true hscan, hpos⟩

theorem saneGetParameters_frame (env : Env) (s : Session) :
    wp saneGetParameters (fun _ t => (s.host.h.Frozen → t.host.h.Frozen) ∧
      (s.host.h.Current → t.host.h.Current) ∧ (s.host.h.Ready env → t.host.h.Ready env)) s := by
  unfold saneGetParameters
  rw [wp_bind, wp_read, after_ok, wp_ite]
  refine ⟨fun _ => ⟨id, id, id⟩, fun _ => ?_⟩
  rw [wp_bind, wp_setHandle, after_ok, wp_bind, wp_getHandle, after_ok, wp_pure, Session.onHandle_h]
  split
  · next hidle =>
    exact ⟨fun _ _ => rfl, fun _ => .inl rfl, fun _ hscan =>
      absurd ((by simpa using hidle.1 : s.host.h.scanning = false).symm.trans hscan) Bool.false_ne_true⟩
  · exact ⟨id, id, id⟩

theorem saneGetParameters_current (hv : s.host.valid = true) (hc : s.host.h.Current) :
    (saneGetParameters s).1 = .ok s.host.h.val.computeParameters := by
  have hget : wp saneGetParameters (fun r _ => r = .ok s.host.h.val.computeParameters) s := by
    unfold saneGetParameters
    rw [wp_bind, wp_read, after_ok, wp_ite]
    refine ⟨fun h => absurd h (by simp [hv]), fun _ => ?_⟩
    rw [wp_bind, wp_setHandle, after_ok, wp_bind, wp_getHandle, after_ok, wp_pure,
      Session.onHandle_h]
    split
    · rfl
    · rename_i hq
      exact congrArg _ (hc.resolve_right fun h => hq ⟨by simp [h.1], h.2⟩)
  exact hget

structure FrameStep (env : Env) (s t : Session) : Prop where
  frozen : s.host.h.Frozen → t.host.h.Frozen
  ready : s.host.h.Ready env → t.host.h.Ready env
  current : s.host.h.Current →
    (t.host.h.val ≠ s.host.h.val → s.host.h.scanning = true ∨ s.host.h.outPos = s.host.h.out.length) →
    t.host.h.Current

theorem FrameKept.step (h : FrameKept s.host.h t.host.h) : FrameStep env s t :=
  ⟨h.frozen, h.ready, fun hc _ => h.current hc⟩

theorem FrameStep.of_result {α β : Type} {r : Except Status α} {k : α → β} (h : FrameStep env s t) :
    After (fun a => pure (k a)) (fun _ u => FrameStep env s u) r t := by
  match r with
  | .error _ => exact h
  | .ok _ => exact h

theorem Call.run_frame (env : Env) (c : Call) (hs : s.Disciplined) :
    wp (c.run env) (fun _ t => FrameStep env s t) s := by
  match c with
  | .start =>
    rw [run, wp_bind]
    exact wp_mono (saneStart_fresh env hs) fun _ t h =>
      FrameStep.of_result ⟨h.frozen, h.ready, fun hc _ => h.current hc⟩
  | .read n =>
    rw [run, wp_bind]
    exact wp_mono (saneRead_frameKept env n s) fun _ t h => FrameStep.of_result h.step
  | .cancel =>
    rw [run, wp_bind]
    unfold saneCancel
    rw [wp_bind, wp_read, after_ok, wp_ite]
    exact ⟨fun _ => (frameKept_flags s.host.h true s.host.h.nonBlocking).step,
      fun _ => (FrameKept.refl _).step⟩
  | .controlOption o a v =>
    rw [run, wp_bind, onHost, wp_zoom]
    exact wp_mono (saneControlOption_set o a v s.host) fun _ t h =>
      FrameStep.of_result ⟨h.frozen, h.ready, h.current⟩
  | .getParameters =>
    rw [run, wp_bind]
    exact wp_mono (saneGetParameters_frame env s) fun _ t h =>
      FrameStep.of_result ⟨h.1, h.2.2, fun hc _ => h.2.1 hc⟩
  | .setIoMode b =>
    rw [run, wp_bind]
    unfold saneSetIoMode
    rw [wp_bind, wp_read, after_ok, wp_ite]
    exact ⟨fun _ => (frameKept_flags s.host.h s.host.h.cancelled b).step,
      fun _ => (FrameKept.refl _).step⟩
  | .close =>
    rw [run, wp_bind]
    exact wp_mono (saneClose_frameKept s) fun _ t h => FrameStep.of_result h.step
  | .exit =>
    rw [run, wp_bind]
    exact wp_mono (saneClose_frameKept s) fun _ t h => FrameStep.of_result h.step

/-- No option changes while no job runs and bytes of the last one wait to be read. -/
def Call.Considerate (env : Env) (c : Call) (s : Session) : Prop :=
  (c.run env s).2.host.h.val ≠ s.host.h.val →
    s.host.h.scanning = true ∨ s.host.h.outPos = s.host.h.out.length

instance (env : Env) (c : Call) (s : Session) : Decidable (c.Considerate env s) :=
  inferInstanceAs (Decidable (_ → _))

def ConsiderateCalls (env : Env) : List Call → Session → Prop
  | [], _ => True
  | c :: cs, s => c.Considerate env s ∧ ConsiderateCalls env cs (c.run env s).2

instance decidableConsiderateCalls (env : Env) :
    (cs : List Call) → (s : Session) → Decidable (ConsiderateCalls env cs s)
  | [], _ => inferInstanceAs (Decidable True)
  | _ :: cs, _ =>
    have := decidableConsiderateCalls env cs
    inferInstanceAs (Decidable (_ ∧ _))

theorem runCalls_current (env : Env) (cs : List Call) (hs : s.Disciplined) (hc : s.host.h.Current)
    (h : ConsiderateCalls env cs s) : (runCalls env cs s).2.host.h.Current := by
  induction cs generalizing s with
  | nil => exact hc
  | cons c cs ih =>
    exact ih (c.run_disciplined env hs).disciplined ((c.run_frame env hs).current hc h.1) h.2

theorem runCalls_frozen (env : Env) (cs : List Call) (hs : s.Disciplined) (hf : s.host.h.Frozen) :
    (runCalls env cs s).2.host.h.Frozen ∧ (runCalls env cs s).2.Disciplined := by
  induction cs generalizing s with
  | nil => exact ⟨hf, hs⟩
  | cons c cs ih => exact ih (c.run_disciplined env hs).disciplined ((c.run_frame env hs).frozen hf)

/-- The parameters told before the next scan, and after its start unless an option changes. -/
structure ParametersAgree (env : Env) (s : Session) : Prop where
  before : (saneGetParameters s).1 = .ok s.host.h.val.computeParameters
  after : ∀ ds, (runCalls env ds s).2.host.h.val = s.host.h.val →
    (saneStart env (runCalls env ds s).2).1 = .ok () →
    (saneGetParameters (saneStart env (runCalls env ds s).2).2).1 =
      .ok s.host.h.val.computeParameters

theorem parametersAgree_of_current (env : Env) (hs : s.Disciplined) (hv : s.host.valid = true)
    (hf : s.host.h.Frozen) (hc : s.host.h.Current) : ParametersAgree env s where
  before := saneGetParameters_current hv hc
  after ds hval hstart := by
    obtain ⟨hfu, hsu⟩ := runCalls_frozen env ds hs hf
    have hfresh : StartFresh env (runCalls env ds s).2 (saneStart env (runCalls env ds s).2).1
        (saneStart env (runCalls env ds s).2).2 := saneStart_fresh env hsu
    have hstarted : (saneStart env (runCalls env ds s).2).1 = .ok () →
        (saneStart env (runCalls env ds s).2).2.Started := saneStart_started env _
    rw [saneGetParameters_current (hstarted hstart).page.valid (.inl (hfresh.fresh hfu hstart)),
      hfresh.val, hval]

theorem saneOpen_current (inp : Inp) (outSched : List Xfer) (allocs : List Bool) (ready : Bool) :
    wp saneOpen (fun _ s => s.host.h.scanning = false ∧ s.host.h.Current)
      (.fresh inp outSched allocs ready) := by
  have hidle {s : Session} {h : Handle} (hh : s.host.h = h) (hq : h.Quiet) :
      s.host.h.scanning = false ∧ s.host.h.Current := by
    rw [hh]
    exact ⟨hq.1, .inr hq⟩
  unfold saneOpen
  rw [wp_bind, onHost, wp_zoom]
  apply wp_mono (alloc_spec _)
  rintro _ t ⟨b, rfl, hh, -⟩
  rw [after_ok, wp_ite]
  refine ⟨fun _ => ?_, fun _ => ?_⟩
  · rw [wp_bind, wp_modify, after_ok, wp_bind]
    apply wp_onInp
    intro r i
    cases r with
    | error _ => exact hidle rfl ⟨rfl, rfl⟩
    | ok _ =>
      rw [after_ok, wp_bind]
      apply wp_mono (probeAdf_spec _)
      rintro r v ⟨_, b, hv⟩
      have hv : v.host.h = Handle.zero.probed b := by rw [hv]; rfl
      cases r with
      | error _ => exact hidle hv ⟨rfl, rfl⟩
      | ok _ =>
        rw [after_ok, wp_bind, onHost, wp_zoom]
        apply wp_mono (initOptions_spec v.host)
        intro r w hw
        have hjob : SameJob v.host.h w.h := hw.job
        unfold SameJob at hjob
        rw [hv] at hjob
        cases r with
        | error _ => exact hidle hjob ⟨rfl, rfl⟩
        | ok _ =>
          rw [after_ok, wp_bind, wp_setHandle, after_ok, wp_modify]
          exact ⟨congrArg Handle.scanning hjob, .inl rfl⟩
  · rw [wp_fail]
    exact hidle hh ⟨rfl, rfl⟩

/-- The options of a running job are those it was started with. -/
theorem Reachable.ready (h : Reachable env s) : s.host.h.Ready env := by
  induction h with
  | @opened s s' r hopen hfresh =>
    obtain ⟨inp, outSched, allocs, ready, rfl⟩ := hfresh
    have hidle : (saneOpen (.fresh inp outSched allocs ready)).2.host.h.scanning = false ∧
        (saneOpen (.fresh inp outSched allocs ready)).2.host.h.Current :=
      saneOpen_current inp outSched allocs ready
    rw [hopen] at hidle
    exact fun hscan => absurd (hidle.1.symm.trans hscan) Bool.false_ne_true
  | call hs c ih =>
    have hstep : FrameStep env _ _ := c.run_frame env hs.disciplined
    exact hstep.ready ih

/-- Whether the frontend is in the middle of a scan, by the calls it made and their outcomes. -/
def scanInProgress : List (Call × Except Status Answer) → Bool :=
  List.foldl (fun running c =>
    match c with
    | (.start, .ok _) => true
    | (.read _, .error _) => false
    | (.cancel, _) => false
    | _ => running) false

def Session.Unopened (s : Session) : Prop :=
  ∃ inp outSched allocs ready, s = .fresh inp outSched allocs ready

/-- In a session that changes no option while rows of a finished job wait to be read, the frame
parameters of an open handle are those of its options, before the next start and after it. -/
theorem parameters_agree (env : Env) {s₀ : Session} (hs : s₀.Unopened) {cs : List Call}
    (hcs : ConsiderateCalls env cs (saneOpen s₀).2)
    (hv : (runCalls env cs (saneOpen s₀).2).2.host.valid = true) :
    ParametersAgree env (runCalls env cs (saneOpen s₀).2).2 := by
  obtain ⟨inp, outSched, allocs, ready, rfl⟩ := hs
  have hopen : (saneOpen (.fresh inp outSched allocs ready)).2.Disciplined :=
    saneOpen_disciplined (s := .fresh inp outSched allocs ready) rfl rfl rfl
  obtain ⟨hidle, hc⟩ : (saneOpen (.fresh inp outSched allocs ready)).2.host.h.scanning = false ∧
      (saneOpen (.fresh inp outSched allocs ready)).2.host.h.Current :=
    saneOpen_current inp outSched allocs ready
  have hf : (saneOpen (.fresh inp outSched allocs ready)).2.host.h.Frozen := fun hscan =>
    absurd (hidle.symm.trans hscan) Bool.false_ne_true
  obtain ⟨hfr, hd⟩ := runCalls_frozen env cs hopen hf
  exact parametersAgree_of_current env hd hv hfr (runCalls_current env cs hopen hc hcs)

def oneRowJob : List HostFrame :=
  openFrames ++ rowFrames ++ [⟨evtJobEnd, []⟩, ⟨cmdUnlock, []⟩]

def narrowWindow : List Call :=
  [.controlOption 10 .setValue (some ⟨0, []⟩), .controlOption 11 .setValue (some ⟨65536, []⟩)]

theorem answering_unopened (fs : List HostFrame) (ins outs : Nat) :
    (answering fs ins outs).Unopened := ⟨_, _, _, _, rfl⟩

/-- The frontend reads a row, the device ends the job, and the frontend cancels. -/
def cancelledScan : List Call := narrowWindow ++ [.start, .read 1, .read 1, .cancel]

def setLineart : Call := .controlOption 2 .setValue (some ⟨0, Mode.name .lineart⟩)

theorem parameters_agree_cancelledScan :
    ParametersAgree plainEnv
      (runCalls plainEnv cancelledScan (saneOpen (answering oneRowJob 16 12)).2).2 := by
  have hcs : ConsiderateCalls plainEnv cancelledScan (saneOpen (answering oneRowJob 16 12)).2 := by
    decide +kernel
  have hv : (runCalls plainEnv cancelledScan (saneOpen (answering oneRowJob 16 12)).2).2.host.valid =
      true := by decide +kernel
  exact parameters_agree plainEnv (answering_unopened _ 16 12) hcs hv

/-- When the mode is changed after that cancellation, the frontend is told the frame of before. -/
theorem cancelledScan_stale : ¬ ∀ env (s₀ : Session) cs, s₀.Unopened →
    let rs := runCalls env cs (saneOpen s₀).2
    rs.2.host.valid = true → scanInProgress (cs.zip rs.1) = false → ParametersAgree env rs.2 := by
  intro h
  have hv : (runCalls plainEnv (cancelledScan ++ [setLineart])
      (saneOpen (answering oneRowJob 16 12)).2).2.host.valid = true := by decide +kernel
  have hover : scanInProgress ((cancelledScan ++ [setLineart]).zip (runCalls plainEnv
      (cancelledScan ++ [setLineart]) (saneOpen (answering oneRowJob 16 12)).2).1) = false := by
    decide +kernel
  have hbefore := (h plainEnv (answering oneRowJob 16 12) _ (answering_unopened _ 16 12) hv hover).before
  revert hbefore
  decide +kernel

end PantumOpen.Scan
