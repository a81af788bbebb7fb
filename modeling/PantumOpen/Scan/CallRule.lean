import PantumOpen.Scan.LockDiscipline

/-! What one call of the frontend keeps, from what frames, handshakes and aborts keep. -/

namespace PantumOpen.Scan
open Prog

variable {α : Type} {env : Env} {s t u : Session} {I : Session → Prop}

/-- Between `s` and `t` no frame was sent, and the handle is as ready for the device as it was. -/
structure Undisturbed (s t : Session) : Prop where
  scanning : t.host.h.scanning = s.host.h.scanning
  locked : t.host.h.locked = s.host.h.locked
  valid : t.host.valid = s.host.valid
  opt : t.host.h.opt = s.host.h.opt
  params : t.host.h.params = s.host.h.params ∨ t.host.h.params = s.host.h.val.computeParameters
  outp : t.outp = s.outp

/-- An assertion that survives everything a job does. -/
structure CallRule (I : Session → Prop) : Prop where
  calm : ∀ {s t}, I s → Undisturbed s t → I t
  frame : ∀ {s t report r}, I s → s.host.h.scanning = true → FrameEffect report s r t → I t
  abandoned : ∀ {s t}, I s → Abandoned s t → I t
  begun : ∀ {s}, I s → s.host.h.scanning = false → wp beginJob (fun _ t => I t) s
  ended : ∀ {s}, I s → wp endScan (fun _ t => I t) s

theorem wp_bind_pure {m : Prog Status Session α} {β : Type} {k : α → β}
    (h : wp m (fun _ t => I t) s) : wp (m >>= fun a => pure (k a)) (fun _ t => I t) s := by
  rw [wp_bind]
  apply wp_mono h
  intro r t ht
  cases r <;> exact ht

namespace CallRule
variable (hI : CallRule I)
include hI

theorem takeFrame {probe report : Bool} (h : I s) (hscan : s.host.h.scanning = true) :
    wp (takeFrame env probe report) (fun _ t => I t) s := by
  apply wp_takeFrame
  apply wp_mono (pumpFrame_effect env probe report s)
  intro r t ht
  have hkept : I t := hI.frame h hscan ht
  cases r with
  | error e => exact fun u hu => hI.abandoned hkept hu
  | ok p => exact hkept

theorem awaitFirstRows (h : I s) : wp (awaitFirstRows env) (fun _ t => I t) s := by
  apply wp_awaitFirstRows I
  · intro t ht hw
    apply wp_mono (hI.takeFrame ht hw.1)
    intro r u hu
    cases r with
    | error e => exact hu
    | ok p => cases p <;> exact hu
  · exact fun t ht _ => ht
  · exact fun t u ht hu => hI.abandoned ht hu
  · exact h

theorem runJob (h : I s) (hscan : s.host.h.scanning = false) : wp (runJob env) (fun _ t => I t) s := by
  unfold Scan.runJob
  rw [wp_bind]
  apply wp_mono (hI.begun h hscan)
  intro r t ht
  cases r with
  | error e => exact ht
  | ok _ => exact hI.awaitFirstRows ht

theorem startJob (h : I s) (hs : s.Disciplined) (hv : s.host.valid = true)
    (hscan : s.host.h.scanning = false) : wp (startJob env) (fun _ t => I t) s := by
  -- A job that is tried again finds no job on the handle, as the one before did.
  apply wp_loop fun _ t => I t ∧ t.Disciplined ∧ t.host.valid = true ∧ t.host.h.scanning = false
  · rintro _ t ⟨ht, hd, hvt, hscant⟩
    rw [startRound, wp_bind]
    apply wp_mono (wp_and (hI.runJob ht hscant) (runJob_disciplined env hd hvt hscant))
    rintro r u ⟨hu, hdu, hvu⟩
    obtain _ | (_ | status) := r
    · exact hu
    · exact hu
    · rw [after_ok]
      dsimp only
      rw [wp_ite]
      exact ⟨fun _ => hu, fun _ => ⟨hu, hdu.disciplined, hvu, hdu.ended fun h => by cases h⟩⟩
  · exact fun _ t ht => ht.1
  · exact ⟨h, hs, hv, hscan⟩

theorem resumeJob (h : I s) : wp (resumeJob env) (fun _ t => I t) s := by
  unfold Scan.resumeJob
  rw [wp_bind, wp_setHandle, after_ok, wp_bind]
  have hempty : I (s.onHandle fun h => { h with
      nextRow := 0, out := [], outPos := 0, eof := false, feeding := false }) :=
    hI.calm h ⟨rfl, rfl, rfl, rfl, .inl rfl, rfl⟩
  apply wp_mono (hI.awaitFirstRows hempty)
  intro r t ht
  cases r with
  | error e => exact ht
  | ok aborted =>
    rw [after_ok]
    cases aborted with
    | some status => exact wp_ofStatus _ (fun _ => ht) fun _ => ht
    | none =>
      dsimp only
      rw [wp_bind, wp_getHandle, after_ok, wp_ite]
      exact ⟨fun _ => ht, fun _ => ht⟩

theorem prepareJob (h : I s) (hs : s.Disciplined) (hscan : s.host.h.scanning = false) :
    wp (onHost (prepareJob env)) (fun _ t => I t) s := by
  have hwrites : wp (onHost (Scan.prepareJob env)) (fun _ t => t.outp = s.outp ∧
      t.host.h.opt = s.host.h.opt ∧ t.host.h.params = s.host.h.val.computeParameters) s := by
    rw [onHost, wp_zoom]
    apply wp_mono (prepareJob_spec env s.host)
    rintro _ u ⟨-, ⟨-, hh⟩ | ⟨-, hh⟩⟩
    · refine ⟨rfl, ?_⟩
      change u.h.opt = s.host.h.opt ∧ u.h.params = s.host.h.val.computeParameters
      rw [hh]
      unfold Handle.prepared setMargins
      dsimp only
      split <;> exact ⟨rfl, rfl⟩
    · refine ⟨rfl, ?_⟩
      change u.h.opt = s.host.h.opt ∧ u.h.params = s.host.h.val.computeParameters
      rw [hh]
      exact ⟨rfl, rfl⟩
  apply wp_mono (wp_and (prepareJob_disciplined env hs hscan) hwrites)
  rintro _ t ⟨⟨hd, hv, hscant⟩, ho, hopt⟩
  -- The lock is owed exactly while a job runs, and none runs on either side.
  have hlock : t.host.h.locked = s.host.h.locked := by
    rw [← hd.steady.locked, ← hs.steady.locked, hscan, hscant]
  exact hI.calm h ⟨hscant.trans hscan.symm, hlock, hv, hopt.1, .inr hopt.2, ho⟩

theorem saneStart (h : I s) (hs : s.Disciplined) : wp (saneStart env) (fun _ t => I t) s := by
  unfold Scan.saneStart
  rw [wp_bind, wp_read, after_ok, wp_ite]
  refine ⟨fun _ => h, fun hv => ?_⟩
  have hv : s.host.valid = true := by simpa using hv
  have hstart (t : Session) (ht : I t) (hd : t.Disciplined) (hv : t.host.valid = true) :
      wp (do
        let h ← getHandle
        if h.feeding then Scan.resumeJob env
        else if h.scanning then fail .deviceBusy
        else do
          onHost (Scan.prepareJob env)
          Scan.startJob env) (fun _ t => I t) t := by
    rw [wp_bind, wp_getHandle, after_ok, wp_ite]
    refine ⟨fun _ => hI.resumeJob ht, fun _ => ?_⟩
    rw [wp_ite]
    refine ⟨fun _ => ht, fun hscan => ?_⟩
    have hscan : t.host.h.scanning = false := by simpa using hscan
    rw [wp_bind]
    apply wp_mono (wp_and (hI.prepareJob ht hd hscan) (prepareJob_disciplined env hd hscan))
    rintro r u ⟨hu, hdu, hvu, hscanu⟩
    cases r with
    | error e => exact hu
    | ok _ => exact hI.startJob hu hdu (hvu.trans hv) hscanu
  rw [wp_bind, wp_getHandle, after_ok, wp_ite]
  refine ⟨fun _ => ?_, fun _ => hstart s h hs hv⟩
  rw [wp_bind]
  apply wp_mono (wp_and (hI.ended h) (endScan_disciplined hs))
  rintro _ t ⟨ht, rfl, hh, hd⟩
  exact hstart t ht hd (by rw [hh]; exact hv)

theorem saneRead (maxLength : Int) (h : I s) : wp (saneRead env maxLength) (fun _ t => I t) s := by
  unfold Scan.saneRead
  rw [wp_bind, wp_read, after_ok, wp_ite]
  refine ⟨fun _ => h, fun _ => ?_⟩
  rw [wp_bind, wp_getHandle, after_ok, wp_ite]
  refine ⟨fun _ => ?_, fun _ => ?_⟩
  · rw [wp_bind]
    apply wp_mono (hI.ended h)
    intro r t ht
    cases r with
    | error e => exact ht
    | ok _ => exact hI.calm ht ⟨rfl, rfl, rfl, rfl, .inl rfl, rfl⟩
  have hfill : wp (fillQueue env) (fun _ t => I t) s := by
    apply wp_fillQueue I
    · intro t ht _ hscan
      apply wp_mono (hI.takeFrame ht hscan)
      intro r u hu
      cases r with
      | error e => exact hu
      | ok p => cases p <;> exact hu
    · exact fun t ht _ _ => hI.calm ht ⟨rfl, rfl, rfl, rfl, .inl rfl, rfl⟩
    · exact fun t ht _ => ht
    · exact fun t u ht hu => hI.abandoned ht hu
    · exact h
  rw [wp_bind]
  apply wp_mono hfill
  intro r t ht
  cases r with
  | error e => exact ht
  | ok idle =>
    rw [after_ok, wp_ite]
    refine ⟨fun _ => ht, fun _ => ?_⟩
    rw [wp_bind, wp_getHandle, after_ok]
    dsimp only
    rw [wp_ite]
    exact ⟨fun _ => ht, fun _ => hI.calm ht ⟨rfl, rfl, rfl, rfl, .inl rfl, rfl⟩⟩

theorem saneCancel (h : I s) : wp saneCancel (fun _ t => I t) s := by
  unfold Scan.saneCancel
  rw [wp_bind, wp_read, after_ok, wp_ite]
  exact ⟨fun _ => hI.calm h ⟨rfl, rfl, rfl, rfl, .inl rfl, rfl⟩, fun _ => h⟩

theorem saneSetIoMode (b : Bool) (h : I s) : wp (saneSetIoMode b) (fun _ t => I t) s := by
  unfold Scan.saneSetIoMode
  rw [wp_bind, wp_read, after_ok, wp_ite]
  exact ⟨fun _ => hI.calm h ⟨rfl, rfl, rfl, rfl, .inl rfl, rfl⟩, fun _ => h⟩

theorem saneGetParameters (h : I s) : wp saneGetParameters (fun _ t => I t) s := by
  unfold Scan.saneGetParameters
  rw [wp_bind, wp_read, after_ok, wp_ite]
  refine ⟨fun _ => h, fun _ => ?_⟩
  rw [wp_bind, wp_setHandle, after_ok, wp_bind, wp_getHandle, after_ok, wp_pure]
  refine hI.calm h ⟨?_, ?_, rfl, ?_, ?_, rfl⟩ <;> rw [Session.onHandle_h] <;> split
  all_goals first | rfl | exact .inl rfl | exact .inr rfl

end CallRule

end PantumOpen.Scan
