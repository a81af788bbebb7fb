import PantumOpen.Scan.FrameSync

/-! Frame synchronisation over whole sessions: a running job stands on a frame boundary between any
two calls, as long as the calls before kept clear of the transfers that `pump_frame` and
`check_adf` do not look at. -/

namespace PantumOpen.Scan
open Prog Bytes

/-- Between two calls a running job stands on a boundary of the frames `fs`. -/
structure Session.Synced (fs : List WireFrame) (s : Session) : Prop where
  clean : s.inp.Clean
  boundary : s.host.h.scanning = true → s.inp.Aligned fs

theorem Session.Synced.of_over {fs : List WireFrame} {s s' : Session} (hs : s.inp.Clean)
    (hsched : s'.sched <:+ s.sched) (hscan : s'.host.h.scanning = false) : s'.Synced fs :=
  ⟨hs.suffix hsched, fun h => by rw [hscan] at h; cases h⟩

theorem Session.Synced.of_inp {fs : List WireFrame} {s s' : Session} (hs : s.Synced fs)
    (hi : s'.inp = s.inp) (hscan : s'.host.h.scanning = true → s.host.h.scanning = true) :
    s'.Synced fs :=
  ⟨by rw [hi]; exact hs.clean, fun h => by rw [hi]; exact hs.boundary (hscan h)⟩

theorem Session.Synced.abandoned {fs : List WireFrame} {s s' : Session} (hs : s.Synced fs)
    (h : Abandoned s s') : s'.Synced fs := .of_over hs.clean h.sched (by rw [h.host]; rfl)

def AwaitTidy (env : Env) (s : Session) : Prop :=
  ∀ x ∈ rounds (fun _ => awaitRound env) (s.inp.inSched.length + 1) () s,
    x.2.host.h.Waiting → ¬ x.2.PageCut false

instance (env : Env) (s : Session) : Decidable (AwaitTidy env s) :=
  inferInstanceAs (Decidable (∀ x ∈ rounds (fun _ => awaitRound env) _ () s, _ → _))

def FillTidy (env : Env) (s : Session) : Prop :=
  ∀ x ∈ rounds (fun _ => fillRound env) (s.inp.inSched.length + 1) () s,
    x.2.host.h.Starved → x.2.host.h.scanning = true → ¬ x.2.PageCut x.2.host.h.nonBlocking

instance (env : Env) (s : Session) : Decidable (FillTidy env s) :=
  inferInstanceAs (Decidable (∀ x ∈ rounds (fun _ => fillRound env) _ () s, _ → _ → _))

/-- The handshake of a job begins on a frame boundary, the reply to its feeder query is not cut,
and neither is a page end behind it. -/
structure JobTidy (env : Env) (fs : List WireFrame) (s : Session) : Prop where
  aligned : s.inp.Aligned fs
  reply : ¬ s.AdfCut
  frames : AwaitTidy env (beginJob s).2

def StartTidy (env : Env) (fs : List WireFrame) (s : Session) : Prop :=
  ∀ x ∈ rounds (fun _ => startRound env) 4 () s, JobTidy env fs x.2

def Handle.resumed (h : Handle) : Handle := { h.emptyPage with feeding := false }

/-- The state in which `sane_start` decides what to do: a cancelled job is ended first. -/
def Session.settled (s : Session) : Session := if s.host.h.cancelled then (endScan s).2 else s

/-- The transfers of a call cut no payload whose loss goes unnoticed. -/
def Call.Tidy (env : Env) (fs : List WireFrame) (c : Call) (s : Session) : Prop :=
  match c with
  | .start => s.host.valid = true →
      (s.settled.host.h.feeding = true → AwaitTidy env (s.settled.onHandle Handle.resumed)) ∧
      (s.settled.host.h.feeding = false → s.settled.host.h.scanning = false →
        ∀ t, onHost (prepareJob env) s.settled = (.ok (), t) → StartTidy env fs t)
  | .read n => s.host.valid = true → 0 < n → s.host.h.cancelled = false → FillTidy env s
  | _ => True

variable {fs : List WireFrame}

theorem takeFrame_synced (env : Env) (probe report : Bool) {s : Session} (hs : s.Synced fs)
    (hscan : s.host.h.scanning = true) (hcut : ¬ s.PageCut probe) :
    wp (takeFrame env probe report) (fun r t => t.Synced fs ∧
      ((∃ st, r = .ok (.aborted st)) → t.host.h.scanning = false)) s := by
  obtain ⟨gs, hgs, hi⟩ := hs.boundary hscan
  have hclean {t : Session} (ht : t.sched <:+ s.sched) : t.inp.Clean := hs.clean.suffix ht
  refine wp_takeFrame (wp_mono (wp_and (wp_and (pumpFrame_atFrame env probe report hs.clean hi)
    (pumpFrame_uses env probe report s)) (pumpFrame_effect env probe report s))
    fun r t ⟨⟨⟨hidle, hframe⟩, hsched, _⟩, heffect⟩ => ?_)
  match r, hidle, hframe, heffect with
  | .error _, _, _, _ =>
    exact fun u hu => ⟨.of_over hs.clean (hu.sched.trans hsched) (by rw [hu.host]; rfl),
      fun ⟨_, h⟩ => by cases h⟩
  | .ok .idle, hidle, _, _ =>
    exact ⟨⟨hclean hsched, fun _ => ⟨gs, hgs, (hidle rfl).1.trans hi⟩⟩, fun ⟨_, h⟩ => by cases h⟩
  | .ok .done, _, hframe, _ =>
    refine ⟨⟨hclean hsched, fun hscan => ?_⟩, fun ⟨_, h⟩ => by cases h⟩
    obtain ⟨f, gs', rfl, hj⟩ := (hframe ⟨.done, rfl, nofun⟩ hscan).resolve_left hcut
    exact ⟨gs', (List.suffix_cons f gs').trans hgs, hj⟩
  | .ok (.aborted _), _, _, heffect =>
    exact ⟨.of_over hs.clean hsched heffect.aborted_over, fun _ => heffect.aborted_over⟩

theorem beginJob_synced {s : Session} (hs : s.Synced fs) (hscan : s.host.h.scanning = false)
    (hi : s.inp.Aligned fs) (hcut : ¬ s.AdfCut) : wp beginJob (fun _ t => t.Synced fs) s := by
  refine wp_mono (wp_and (wp_and (beginJob_ready ⟨hs.clean, hi⟩ hcut) (beginJob_spec s))
    (consumes_beginJob s)) fun r t ⟨⟨hready, hpost⟩, hsched⟩ => ?_
  match r, hready, hpost with
  | .error _, _, hpost => exact .of_over hs.clean hsched (by rw [hpost.1]; exact hscan)
  | .ok _, hready, _ => exact ⟨hs.clean.suffix hsched, fun _ => (hready rfl).aligned⟩

theorem endScan_synced {s : Session} (hs : s.Synced fs) :
    wp endScan (fun r t => r = .ok () ∧ t.Synced fs) s := by
  refine wp_mono (wp_and (endScan_spec s) (consumes_endScan s)) fun r t ⟨⟨hr, hh, _⟩, hsched⟩ => ?_
  exact ⟨hr, .of_over hs.clean hsched (by rw [hh]; rfl)⟩

theorem awaitFirstRows_synced (env : Env) {s : Session} (hs : s.Synced fs)
    (ht : AwaitTidy env s) :
    wp (awaitFirstRows env) (fun r t => t.Synced fs ∧
      ((∃ st, r = .ok (some st)) → t.host.h.scanning = false)) s := by
  refine wp_awaitFirstRows_rounds (P := fun t => t.host.h.Waiting → ¬ t.PageCut false)
    (Session.Synced fs) (fun t hst hwait htidy => ?_) (fun t hst _ => ⟨hst, fun ⟨_, h⟩ => by cases h⟩)
    (fun t u hst hu => ⟨hst.abandoned hu, fun ⟨_, h⟩ => by cases h⟩) ht hs
  refine wp_mono (takeFrame_synced env false true hst hwait.1 (htidy hwait)) fun r u ⟨hu, hover⟩ => ?_
  match r, hover with
  | .error _, _ => exact ⟨hu, fun ⟨_, h⟩ => by cases h⟩
  | .ok (.aborted _), hover => exact ⟨hu, fun _ => hover ⟨_, rfl⟩⟩
  | .ok .idle, _ => exact hu
  | .ok .done, _ => exact hu

theorem fillQueue_synced (env : Env) {s : Session} (hs : s.Synced fs) (ht : FillTidy env s) :
    wp (fillQueue env) (fun _ t => t.Synced fs) s := by
  refine wp_fillQueue_rounds (P := fun t => t.host.h.Starved → t.host.h.scanning = true →
      ¬ t.PageCut t.host.h.nonBlocking)
    (Session.Synced fs) (fun t hst hstarved hscan htidy => ?_)
    (fun t hst _ _ => ⟨hst.clean, hst.boundary⟩) (fun t hst _ => hst)
    (fun t u hst hu => hst.abandoned hu) ht hs
  refine wp_mono (takeFrame_synced env _ false hst hscan (htidy hstarved hscan))
    fun r u ⟨hu, _⟩ => ?_
  match r with
  | .error _ => exact hu
  | .ok .idle => exact hu
  | .ok .done => exact hu
  | .ok (.aborted _) => exact hu

theorem startJob_synced (env : Env) {s : Session} (hs : s.Synced fs)
    (hscan : s.host.h.scanning = false) (ht : StartTidy env fs s) :
    wp (startJob env) (fun _ t => t.Synced fs) s := by
  refine wp_loop_rounds (fun _ t => t.Synced fs ∧ t.host.h.scanning = false) ?_
    (fun _ t hst => ?_) 4 ht ⟨hs, hscan⟩
  swap
  · rw [wp_fail]
    exact hst.1
  rintro _ t ⟨hst, hscan⟩ htidy
  unfold startRound runJob
  rw [wp_bind, wp_bind]
  refine wp_mono (wp_and (beginJob_synced hst hscan htidy.aligned htidy.reply) (wp_outcome _ _))
    fun r u ⟨hu, hout⟩ => ?_
  match r, hout with
  | .error _, _ => exact hu
  | .ok _, hout =>
    have hframes := htidy.frames
    rw [hout] at hframes
    rw [after_ok]
    refine wp_mono (awaitFirstRows_synced env hu hframes) fun r v ⟨hv, hover⟩ => ?_
    match r, hover with
    | .error _, _ => exact hv
    | .ok none, _ => exact hv
    | .ok (some _), hover =>
      rw [after_ok]
      dsimp only
      rw [wp_ite]
      exact ⟨fun _ => hv, fun _ => ⟨hv, hover ⟨_, rfl⟩⟩⟩

theorem resumeJob_synced (env : Env) {s : Session} (hs : s.Synced fs)
    (ht : AwaitTidy env (s.onHandle Handle.resumed)) :
    wp (resumeJob env) (fun _ t => t.Synced fs) s := by
  unfold resumeJob
  rw [wp_bind, wp_setHandle, after_ok, wp_bind]
  have hs' : (s.onHandle Handle.resumed).Synced fs := hs.of_inp rfl id
  refine wp_mono (awaitFirstRows_synced env hs' ht) fun r t ⟨hst, _⟩ => ?_
  match r with
  | .error _ => exact hst
  | .ok (some _) =>
    rw [after_ok]
    exact wp_ofStatus _ (fun _ => hst) fun _ => hst
  | .ok none =>
    rw [after_ok]
    dsimp only
    rw [wp_bind, wp_getHandle, after_ok, wp_ite]
    exact ⟨fun _ => hst, fun _ => hst⟩

theorem saneStart_synced (env : Env) {s : Session} (hs : s.Synced fs)
    (ht : Call.Tidy env fs .start s) : wp (saneStart env) (fun _ t => t.Synced fs) s := by
  unfold saneStart
  rw [wp_bind, wp_read, after_ok, wp_ite]
  refine ⟨fun _ => hs, fun hv => ?_⟩
  obtain ⟨hfeed, hjob⟩ := ht (by simpa using hv)
  have hstart (hsettled : s.settled.Synced fs) :
      wp (do
        let h ← getHandle
        if h.feeding then resumeJob env
        else if h.scanning then fail .deviceBusy
        else do
          onHost (prepareJob env)
          startJob env) (fun _ t => t.Synced fs) s.settled := by
    rw [wp_bind, wp_getHandle, after_ok, wp_ite]
    refine ⟨fun hf => resumeJob_synced env hsettled (hfeed hf), fun hf => ?_⟩
    rw [wp_ite]
    refine ⟨fun _ => hsettled, fun hscan => ?_⟩
    have hscan : s.settled.host.h.scanning = false := by simpa using hscan
    rw [wp_bind]
    have hprep : wp (onHost (prepareJob env)) (fun _ t => t.Synced fs ∧ t.host.h.scanning = false)
        s.settled := by
      rw [onHost, wp_zoom]
      apply wp_mono (prepareJob_scanning env _)
      intro r u hu
      have hu : u.h.scanning = false := hu.trans hscan
      exact ⟨.of_over hsettled.clean List.suffix_rfl hu, hu⟩
    apply wp_mono (wp_and hprep (wp_outcome _ _))
    rintro r t ⟨⟨htsync, htscan⟩, hout⟩
    cases r with
    | error _ => exact htsync
    | ok _ =>
      exact startJob_synced env htsync htscan (hjob (by simpa using hf) hscan t hout)
  rw [wp_bind, wp_getHandle, after_ok]
  unfold Session.settled at hstart
  split <;> rename_i hc
  -- The teardown of a cancelled job reads nothing that the next job would need.
  · rw [if_pos hc] at hstart
    rw [wp_bind]
    apply wp_mono (wp_and (endScan_synced hs) (wp_outcome _ _))
    rintro _ t ⟨⟨rfl, hst⟩, hout⟩
    rw [hout] at hstart
    exact hstart hst
  · rw [if_neg hc] at hstart
    exact hstart hs

theorem saneRead_synced (env : Env) (maxLength : Int) {s : Session} (hs : s.Synced fs)
    (ht : Call.Tidy env fs (.read maxLength) s) :
    wp (saneRead env maxLength) (fun _ t => t.Synced fs) s := by
  unfold saneRead
  rw [wp_bind, wp_read, after_ok, wp_ite]
  refine ⟨fun _ => hs, fun hok => ?_⟩
  rw [wp_bind, wp_getHandle, after_ok, wp_ite]
  refine ⟨fun _ => ?_, fun hc => ?_⟩
  · rw [wp_bind]
    apply wp_mono (endScan_synced hs)
    rintro _ t ⟨rfl, hst⟩
    exact hst.of_inp rfl id
  · have htidy : FillTidy env s := by
      refine ht ?_ ?_ (by simpa using hc)
      · by_contra hv
        simp [hv] at hok
      · by_contra hn
        simp [Int.not_lt.mp hn] at hok
    rw [wp_bind]
    apply wp_mono (fillQueue_synced env hs htidy)
    intro r t hst
    match r with
    | .error _ => exact hst
    | .ok _ =>
      rw [after_ok, wp_ite]
      refine ⟨fun _ => hst, fun _ => ?_⟩
      rw [wp_bind, wp_getHandle, after_ok]
      dsimp only
      rw [wp_ite]
      exact ⟨fun _ => hst, fun _ => hst.of_inp rfl id⟩

theorem saneClose_synced {s : Session} (hs : s.Synced fs) :
    wp saneClose (fun _ t => t.Synced fs) s := by
  unfold saneClose
  rw [wp_bind, wp_read, after_ok, wp_ite]
  refine ⟨fun _ => ?_, fun _ => hs⟩
  rw [wp_bind]
  apply wp_mono (endScan_synced hs)
  rintro _ t ⟨rfl, hst⟩
  exact hst.of_inp rfl id

theorem Call.run_synced (env : Env) (c : Call) {s : Session} (hs : s.Synced fs)
    (ht : c.Tidy env fs s) : wp (c.run env) (fun _ t => t.Synced fs) s := by
  have hpass {β : Type} {m : Prog Status Session β} {k : β → Answer}
      (h : wp m (fun _ t => t.Synced fs) s) :
      wp (do let a ← m; pure (k a)) (fun _ t => t.Synced fs) s := by
    rw [wp_bind]
    apply wp_mono h
    intro r t ht
    match r with
    | .error _ => exact ht
    | .ok _ => exact ht
  match c with
  | .start => exact hpass (saneStart_synced env hs ht)
  | .read n => exact hpass (saneRead_synced env n hs ht)
  | .cancel =>
    apply hpass (k := fun _ => .none)
    unfold saneCancel
    rw [wp_bind, wp_read, after_ok, wp_ite]
    exact ⟨fun _ => hs.of_inp rfl id, fun _ => hs⟩
  | .controlOption o a v =>
    apply hpass
    rw [onHost, wp_zoom]
    apply wp_mono (saneControlOption_spec o a v s.host)
    intro r t ht
    exact hs.of_inp rfl fun h => ht.job.kept.scanning.symm.trans h
  | .getParameters =>
    apply hpass
    unfold saneGetParameters
    rw [wp_bind, wp_read, after_ok, wp_ite]
    refine ⟨fun _ => hs, fun _ => ?_⟩
    rw [wp_bind, wp_setHandle, after_ok]
    refine hs.of_inp rfl ?_
    intro h
    dsimp only [Session.onHandle, Host.onHandle] at h
    split at h <;> exact h
  | .setIoMode b =>
    apply hpass (k := fun _ => .none)
    unfold saneSetIoMode
    rw [wp_bind, wp_read, after_ok, wp_ite]
    exact ⟨fun _ => hs.of_inp rfl id, fun _ => hs⟩
  | .close => exact hpass (k := fun _ => .none) (saneClose_synced hs)
  | .exit => exact hpass (k := fun _ => .none) (saneClose_synced hs)

def TidyCalls (env : Env) (fs : List WireFrame) : List Call → Session → Prop
  | [], _ => True
  | c :: cs, s => c.Tidy env fs s ∧ TidyCalls env fs cs (c.run env s).2

theorem tidyCalls_append {env : Env} {cs : List Call} {c : Call} {s : Session}
    (h : TidyCalls env fs (cs ++ [c]) s) :
    TidyCalls env fs cs s ∧ c.Tidy env fs (runCalls env cs s).2 := by
  induction cs generalizing s with
  | nil => exact ⟨trivial, h.1⟩
  | cons d cs ih => exact ⟨⟨h.1, (ih h.2).1⟩, (ih h.2).2⟩

theorem runCalls_synced (env : Env) (cs : List Call) {s : Session} (hs : s.Synced fs)
    (ht : TidyCalls env fs cs s) : (runCalls env cs s).2.Synced fs := by
  induction cs generalizing s with
  | nil => exact hs
  | cons c cs ih => exact ih (Call.run_synced env c hs ht.1) ht.2

def pageEndFrame : WireFrame := .ofHost ⟨evtPageEnd, [1, 2, 3, 4]⟩ (by decide)

/-- A flatbed job in front of that frame; `x` is the transfer behind the header. -/
def atPageEnd (x : Xfer) : Session where
  host := ⟨{ Handle.zero with scanning := true, locked := true }, true, [], true⟩
  inp := ⟨encodeAll [pageEndFrame], [⟨.success, 32⟩, x]⟩
  outp := ⟨[], [], []⟩

/-- One call of `pump_frame` keeps its promise exactly when it does not meet a page end whose
payload is cut, and a session whose calls are tidy keeps its running job on a frame boundary. -/
theorem frame_sync (env : Env) (fs : List WireFrame) :
    (∀ probe report s, s.inp.Clean → s.inp.AtFrame fs →
      (PumpSynced fs s (pumpFrame env probe report s).1 (pumpFrame env probe report s).2 ↔
        ¬ (s.host.h.scanning = true ∧ s.PageCut probe ∧ s.CanFill env))) ∧
    (∀ s cs, s.Synced fs → TidyCalls env fs cs s → (runCalls env cs s).2.Synced fs) :=
  ⟨fun probe report _ hc hi => pumpSynced_iff env probe report hc hi,
    fun _ cs hs ht => runCalls_synced env cs hs ht⟩

theorem frame_sync_atPageEnd :
    PumpSynced [pageEndFrame] (atPageEnd ⟨.success, 4⟩)
      (pumpFrame plainEnv false false (atPageEnd ⟨.success, 4⟩)).1
      (pumpFrame plainEnv false false (atPageEnd ⟨.success, 4⟩)).2 ∧
    (runCalls plainEnv [.read 16, .cancel] (atPageEnd ⟨.success, 4⟩)).2.Synced [pageEndFrame] := by
  have hclean : (atPageEnd ⟨.success, 4⟩).inp.Clean := by
    unfold Inp.Clean
    decide
  refine ⟨((frame_sync plainEnv [pageEndFrame]).1 false false _ hclean rfl).mpr ?_,
    (frame_sync plainEnv [pageEndFrame]).2 _ [.read 16, .cancel]
      ⟨hclean, fun _ => ⟨_, List.suffix_rfl, rfl⟩⟩ ⟨fun _ _ _ => ?_, trivial, trivial⟩⟩
  · rintro ⟨-, hcut, -⟩
    revert hcut
    decide +kernel
  · decide +kernel

/-- The payload of a page end meets a timeout: `pump_frame` reports success, the job goes on, and
the next header would be read out of the payload. -/
theorem pumpFrame_pageEnd_unsynced : ¬ ∀ env probe report fs s, Inp.Clean s.inp →
    Inp.AtFrame fs s.inp →
    PumpSynced fs s (pumpFrame env probe report s).1 (pumpFrame env probe report s).2 := by
  intro h
  have hclean : (atPageEnd ⟨.timeout, 0⟩).inp.Clean := by
    unfold Inp.Clean
    decide
  obtain ⟨f, gs, hfs, hat⟩ := (h plainEnv false false [pageEndFrame] (atPageEnd ⟨.timeout, 0⟩) hclean
    rfl).frame ⟨.done, by decide +kernel, nofun⟩ (by decide +kernel)
  obtain ⟨-, rfl⟩ := List.cons.inj hfs
  exact absurd (congrArg List.length hat) (by decide +kernel)

end PantumOpen.Scan
