import PantumOpen.Print.Replay

/-! A whole job as a program on standard output: whatever happens, `main` writes what `jobOut`
writes. -/

namespace PantumOpen.Print
open Prog Stdio

variable {env : Env} {opt : JobOptions}

def replays (env : Env) (opt : JobOptions) (arrivals : List Bool) (pages : List RasterPage) : Bool :=
  opt.manualDuplex && finishes env opt arrivals pages && UInt32.ofNat pages.length != 0 &&
    !arrivals.getD (pages.length + 1) false && !arrivals.getD (pages.length + 2) false

def bodyOut (env : Env) (opt : JobOptions) (arrivals : List Bool) (pages : List RasterPage) :
    Prog Unit File Unit :=
  if opt.manualDuplex then if replays env opt arrivals pages then replayOut env opt pages else pure ()
  else writeChunks ((printed env opt arrivals 0 pages).flatMap (pageBlock env opt))

def jobOut (env : Env) (opt : JobOptions) (arrivals : List Bool) (pages : List RasterPage) :
    Prog Unit File Unit := do
  beginDoc
  let _ ← attempt (bodyOut env opt arrivals pages)
  endDoc

section
variable {s : Filter}

def Filter.signalled (s : Filter) : Bool :=
  s.cancelled || s.stdout.interrupted || s.arrivals.headD false

def Filter.polled (s : Filter) : Filter :=
  { s with cancelled := s.signalled, arrivals := s.arrivals.tail }

theorem jobCancelled_run (s : Filter) : jobCancelled s = (.ok s.signalled, s.polled) := rfl

theorem closeJob_spec (env : Env) (st : Nat) (page : UInt32) (s : Filter) :
    ∃ st' t, closeJob env st page s = (.ok st', t) ∧ t.stdout = (endDoc s.stdout).2 ∧
      (st' = 0 → t.cancelled = false → st = 0 ∧ s.cancelled = false ∧ t.pageLines = s.pageLines) := by
  have hlast (st : Nat) (s : Filter) : ∃ t, (do
      if ← jobCancelled then msg (.info s!"Job cancelled after {page} page(s)")
      pure st : Prog Unit Filter Nat) s = (.ok st, t) ∧ t.stdout = s.stdout ∧
        (t.cancelled = false → s.cancelled = false ∧ t.pageLines = s.pageLines) := by
    rw [bind_ok (jobCancelled_run s)]
    cases hc : s.signalled
    · refine ⟨s.polled, rfl, rfl, fun _ => ⟨?_, rfl⟩⟩
      have hparts := hc
      unfold Filter.signalled at hparts
      simp only [Bool.or_eq_false_iff] at hparts
      exact hparts.1.1
    · exact ⟨_, rfl, rfl, fun h => absurd (hc.symm.trans h) (by decide)⟩
  have hend : attempt (zoom (Filter.file .stdout) endDoc) s =
      (.ok (endDoc s.stdout).1, { s with stdout := (endDoc s.stdout).2 }) := rfl
  unfold closeJob
  rw [bind_ok hend]
  rcases hr : (endDoc s.stdout).1 with e | _
  · obtain ⟨t, ht, hout, -⟩ := hlast 1 { s with
      stdout := (endDoc s.stdout).2
      log := s.log ++ [.error s!"Cannot write to the printer: {env.strerror}"] }
    exact ⟨1, t, ht, hout, nofun⟩
  · obtain ⟨t, ht, hout, hlines⟩ := hlast st { s with stdout := (endDoc s.stdout).2 }
    exact ⟨st, t, ht, hout, fun hst hc => ⟨hst, (hlines hc).1, (hlines hc).2⟩⟩

theorem loopStatus_ended {st : Nat} {p : Progress} (h : st ≠ 0 ∨ s.cancelled = true) :
    ∃ t, loopStatus st p s = (.ok st, t) ∧ t.stdout = s.stdout ∧
      (st ≠ 0 ∨ t.cancelled = true) := by
  unfold loopStatus
  by_cases hst : st = 0
  · have hc : s.cancelled = true := h.resolve_left (not_not.mpr hst)
    have hsig : s.signalled = true := by simp [Filter.signalled, hc]
    have hpoll := jobCancelled_run s
    rw [hsig] at hpoll
    rw [if_neg (not_not.mpr hst), bind_ok hpoll, hst]
    exact ⟨s.polled, rfl, rfl, .inr hsig⟩
  · rw [if_pos hst]
    exact ⟨s, rfl, rfl, .inl hst⟩

theorem replayNow_ended {st : Nat} (h : st ≠ 0 ∨ s.cancelled = true) :
    ∃ t, replayNow opt st s = (.ok false, t) ∧ t.stdout = s.stdout ∧
      (st ≠ 0 ∨ t.cancelled = true) := by
  unfold replayNow
  by_cases hst : st = 0
  · have hc : s.cancelled = true := h.resolve_left (not_not.mpr hst)
    have hsig : s.signalled = true := by simp [Filter.signalled, hc]
    have hpoll := jobCancelled_run s
    rw [hsig] at hpoll
    rw [if_neg (not_not.mpr hst), bind_ok hpoll]
    exact ⟨s.polled, rfl, rfl, .inr hsig⟩
  · rw [if_pos hst]
    exact ⟨s, rfl, rfl, .inl hst⟩

def afterLoop (env : Env) (opt : JobOptions) (p : Progress) (status : Nat) : Prog Unit Filter Nat := do
  let (status, page) ← if ← replayNow opt status then replaySpools env opt p else pure (status, p.page)
  closeJob env status page

theorem printJob_eq : printJob env opt =
    pageLoop env opt >>= fun x => loopStatus x.1 x.2 >>= afterLoop env opt x.2 := rfl

theorem afterLoop_ended {st : Nat} {p : Progress} (h : st ≠ 0 ∨ s.cancelled = true) :
    ∃ st' t, afterLoop env opt p st s = (.ok st', t) ∧ t.stdout = (endDoc s.stdout).2 ∧
      ¬ (st' = 0 ∧ t.cancelled = false) := by
  obtain ⟨t₁, h₁, hout₁, hwhy₁⟩ := @replayNow_ended opt _ _ h
  obtain ⟨st', t, h₂, hout, hzero⟩ := closeJob_spec env st p.page t₁
  refine ⟨st', t, ?_, ?_, fun hdone => ?_⟩
  · unfold afterLoop
    rw [bind_ok h₁]
    exact h₂
  · rw [hout, hout₁]
  · obtain ⟨hst, hc, -⟩ := hzero hdone.1 hdone.2
    exact hwhy₁.elim (fun h => h hst) fun h => absurd (hc.symm.trans h) (by decide)

end

section
variable {s₀ s : Filter} {pages : List RasterPage}

structure Completed (env : Env) (opt : JobOptions) (s₀ : Filter) (pages : List RasterPage)
    (t : Filter) : Prop where
  finishes : finishes env opt s₀.arrivals pages = true
  written : opt.manualDuplex = false →
    (writeChunks (pages.flatMap (pageBlock env opt)) s₀.stdout).1 = .ok ()
  counted : UInt32.ofNat pages.length ≠ 0
  replayed : opt.manualDuplex = true → replays env opt s₀.arrivals pages = true ∧
    (replayOut env opt pages s₀.stdout).1 = .ok ()
  lines : t.pageLines = s₀.pageLines ++ linesOf pages ++
    if opt.manualDuplex then blankLine pages else []

theorem sinkBlocks_flatten (pages : List RasterPage) :
    writeAll (sinkBlocks env opt .stdout pages).flatten =
      if opt.manualDuplex then pure () else writeChunks (pages.flatMap (pageBlock env opt)) := by
  rw [sinkBlocks_stdout]
  split
  · exact writeAll_nil
  · rw [blockBytes_flatten, writeChunks_eq]

theorem bodyOut_idle (hrep : replays env opt s₀.arrivals pages = false) :
    (bodyOut env opt s₀.arrivals pages s₀.stdout).2 =
      (writeAll (sinkBlocks env opt .stdout (printed env opt s₀.arrivals 0 pages)).flatten
        s₀.stdout).2 := by
  unfold bodyOut
  rw [sinkBlocks_flatten, hrep]
  simp only [Bool.false_eq_true, if_false]

theorem Ended.idle {st : Nat} (h : Ended env opt s₀ pages st s) :
    replays env opt s₀.arrivals pages = false := by
  apply Bool.eq_false_iff.mpr
  intro hyes
  unfold replays at hyes
  simp only [Bool.and_eq_true] at hyes
  have hcut := h.early hyes.1.1.1.2
  rw [sinkBlocks_flatten, if_pos hyes.1.1.1.1] at hcut
  exact absurd hcut nofun

theorem Finished.job (h : Finished env opt s₀ pages s) :
    ∃ st t, (loopStatus 0 (progressAfter pages) >>= afterLoop env opt (progressAfter pages)) s =
        (.ok st, t) ∧ t.stdout = (endDoc (bodyOut env opt s₀.arrivals pages s₀.stdout).2).2 ∧
      (st = 0 → t.cancelled = false → Completed env opt s₀ pages t) := by
  obtain ⟨hall, -⟩ := finishes_iff.mp h.finishes
  have hidle (hrep : replays env opt s₀.arrivals pages = false) :
      (bodyOut env opt s₀.arrivals pages s₀.stdout).2 = s.stdout := by
    rw [bodyOut_idle hrep, hall, h.state.stdout]
  have hend (st : Nat) (u : Filter) (hrep : replays env opt s₀.arrivals pages = false)
      (hwhy : st ≠ 0 ∨ u.cancelled = true) (hout : u.stdout = s.stdout) :
      ∃ st' t, afterLoop env opt (progressAfter pages) st u = (.ok st', t) ∧
        t.stdout = (endDoc (bodyOut env opt s₀.arrivals pages s₀.stdout).2).2 ∧
        (st' = 0 → t.cancelled = false → Completed env opt s₀ pages t) := by
    obtain ⟨st', t, hrun, ht, hno⟩ := @afterLoop_ended env opt _ _ (progressAfter pages) hwhy
    exact ⟨st', t, hrun, by rw [ht, hout, hidle hrep], fun hst hc => absurd ⟨hst, hc⟩ hno⟩
  unfold loopStatus
  rw [if_neg (by decide)]
  by_cases hyes : s₀.arrivals.getD (pages.length + 1) false = true
  · have hrep : replays env opt s₀.arrivals pages = false := by
      unfold replays
      rw [hyes]
      simp
    obtain ⟨u, hpoll, hc, hfiles⟩ := h.state.poll_cancelled hyes
    obtain ⟨st, t, hrun, hrest⟩ := hend 0 u hrep (.inr hc) (congrArg Prod.fst hfiles)
    rw [Prog.bind_assoc, bind_ok hpoll]
    exact ⟨st, t, hrun, hrest⟩
  have hno := Bool.eq_false_iff.mpr hyes
  obtain ⟨u, hpoll, hfiles, hat⟩ := h.state.poll hno
  rw [Prog.bind_assoc, bind_ok hpoll]
  have hsame : u.stdout = s.stdout := congrArg Prod.fst hfiles
  by_cases hzero : (progressAfter pages).page = 0
  · have hrep : replays env opt s₀.arrivals pages = false := by
      have hnum : UInt32.ofNat pages.length = 0 := hzero
      simp [replays, hnum]
    obtain ⟨st, t, hrun, hrest⟩ := hend 1 { u with
      log := u.log ++ [.error "No pages were found in the print file"] } hrep (.inl one_ne_zero) hsame
    refine ⟨st, t, ?_, hrest⟩
    simp only [Bool.false_eq_true, if_false, if_pos hzero]
    exact hrun
  simp only [Bool.false_eq_true, if_false, if_neg hzero]
  change ∃ st t, afterLoop env opt (progressAfter pages) 0 u = (.ok st, t) ∧ _
  unfold afterLoop replayNow
  rw [if_neg (by decide)]
  by_cases hyes : s₀.arrivals.getD (pages.length + 2) false = true
  · have hrep : replays env opt s₀.arrivals pages = false := by
      unfold replays
      rw [hyes]
      simp
    obtain ⟨v, hpoll, hc, hfiles'⟩ := hat.poll_cancelled hyes
    obtain ⟨st, t, hrun, hout, hzero⟩ := closeJob_spec env 0 (progressAfter pages).page v
    refine ⟨st, t, ?_, ?_, fun hst hcan => ?_⟩
    · rw [Prog.bind_assoc, bind_ok hpoll]
      exact hrun
    · rw [hout, hidle hrep, ← hsame]
      exact congrArg (fun f => (endDoc f).2) (congrArg Prod.fst hfiles')
    · exact absurd ((hzero hst hcan).2.1.symm.trans hc) (by decide)
  have hno' := Bool.eq_false_iff.mpr hyes
  obtain ⟨v, hpoll, hfiles', hat'⟩ := hat.poll hno'
  have hsame' : v.stdout = s.stdout := (congrArg Prod.fst hfiles').trans hsame
  rw [Prog.bind_assoc, bind_ok hpoll]
  simp only [Bool.false_eq_true, if_false]
  rw [Prog.pure_bind]
  cases hd : opt.manualDuplex
  · -- a simplex job has nothing left to print
    have hrep : replays env opt s₀.arrivals pages = false := by
      unfold replays
      rw [hd]
      rfl
    obtain ⟨st, t, hrun, hout, hdone⟩ := closeJob_spec env 0 (progressAfter pages).page v
    refine ⟨st, t, hrun, by rw [hout, hidle hrep, hsame'], fun hst hc => ?_⟩
    refine ⟨h.finishes, fun _ => ?_, hzero, fun hyes => absurd (hd.symm.trans hyes) (by decide), ?_⟩
    · have hwrite := congrArg Prod.fst h.state.stdout
      rw [sinkBlocks_flatten, hd] at hwrite
      exact hwrite
    · rw [(hdone hst hc).2.2, hat'.log, hd]
      exact (List.append_nil _).symm
  · have hrep : replays env opt s₀.arrivals pages = true := by
      unfold replays
      have hnum : (UInt32.ofNat pages.length != 0) = true := bne_iff_ne.mpr hzero
      rw [hd, h.finishes, hno, hno', hnum]
      rfl
    have hsource : v.stdout = s₀.stdout := by
      have hwrite := h.state.stdout
      rw [sinkBlocks_flatten, hd] at hwrite
      rw [hsame']
      exact (congrArg Prod.snd hwrite).symm
    have hfronts : (v.spool .fronts).Holds ((odds pages).map (blockBytes env opt)) := by
      have hspool := hat'.fronts.toHolds
      unfold sinkBlocks sinkPages at hspool
      rwa [hd] at hspool
    have hbacks : (v.spool .backs).Holds ((evens pages).map (blockBytes env opt)) := by
      have hspool := hat'.backs.toHolds
      unfold sinkBlocks sinkPages at hspool
      rwa [hd] at hspool
    obtain ⟨st₁, q, w, hreplay, hemit⟩ := @replaySpools_emits env opt _ _ hfronts hbacks
    obtain ⟨st, t, hrun, hout, hdone⟩ := closeJob_spec env st₁ q w
    refine ⟨st, t, ?_, ?_, fun hst hc => ?_⟩
    · simp only [if_true]
      rw [bind_ok hreplay]
      exact hrun
    · rw [hout, hemit.stdout, hsource]
      unfold bodyOut
      rw [hd, hrep]
      rfl
    · obtain ⟨hst₁, -, hlines⟩ := hdone hst hc
      refine ⟨h.finishes, fun hno => absurd (hd.symm.trans hno) (by decide), hzero,
        fun _ => ⟨hrep, ?_⟩, ?_⟩
      · rw [← hsource]
        exact hemit.outcome.mp hst₁
      · rw [hlines, hemit.log hst₁, hat'.log, hd]
        rfl

theorem printJob_spec (hs : Fresh s) (hr : s.raster = ⟨[], pages⟩) :
    ∃ st t, printJob env opt s = (.ok st, t) ∧
      t.stdout = (endDoc (bodyOut env opt s.arrivals pages s.stdout).2).2 ∧
      (st = 0 → t.cancelled = false → Completed env opt s pages t) := by
  rw [printJob_eq]
  have hloop := @pageLoop_end env opt _ _ hs hr
  unfold wp at hloop
  rcases hrun : pageLoop env opt s with ⟨r, u⟩
  rw [hrun] at hloop
  rcases hloop with ⟨rfl, hfin⟩ | ⟨st, q, rfl, hend⟩
  · rw [bind_ok hrun]
    exact hfin.job
  · rw [bind_ok hrun]
    obtain ⟨u₁, hstatus, hout₁, hwhy⟩ := loopStatus_ended (p := q) hend.why
    obtain ⟨st', t, hjob, hout, hno⟩ := @afterLoop_ended env opt _ _ q hwhy
    refine ⟨st', t, ?_, ?_, fun hst hc => absurd ⟨hst, hc⟩ hno⟩
    · rw [bind_ok hstatus]
      exact hjob
    · rw [hout, hout₁, hend.stdout, bodyOut_idle hend.idle]

/-- The job as it is started: nothing written, the raster at its first page. -/
def Filter.start (r : RasterStream) (arrivals : List Bool) (cut : Option Nat) : Filter where
  raster := r.open
  stdout := { cut := cut }
  arrivals := arrivals

theorem beginDoc_eq : beginDoc = writeAll headBytes := by
  unfold beginDoc
  simp only [writeChunk_eq, writeAll_append]
  rfl

theorem endDoc_eq : endDoc = writeAll tailBytes := by
  unfold endDoc
  rw [writeChunk_eq, writeAll_append]
  rfl

theorem attempt_bind (m : Prog Unit File Unit) (f : File) :
    (attempt m >>= fun _ => endDoc) f = endDoc (m f).2 := rfl

theorem main_spec (hraster : env.rasterOpens = true)
    (hspools : opt.manualDuplex = true → env.spoolsOpen = true) (r : RasterStream)
    (arrivals : List Bool) (cut : Option Nat) :
    ∃ st t, main env opt (.start r arrivals cut) = (.ok st, t) ∧
      t.stdout = (jobOut env opt arrivals r.pages { cut := cut }).2 ∧
      (st = 0 → t.cancelled = false → ∃ s : Filter, Completed env opt s r.pages t ∧
        beginDoc { cut := cut } = (.ok (), s.stdout) ∧ s.arrivals = arrivals ∧ s.pageLines = []) := by
  have hopen : (opt.manualDuplex && !env.spoolsOpen) = false := by
    cases hd : opt.manualDuplex
    · rfl
    · rw [hspools hd]
      rfl
  unfold main jobOut
  rw [msg_bind, hopen, hraster]
  simp only [Bool.false_eq_true, if_false, Bool.not_true]
  set s : Filter := { Filter.start r arrivals cut with
    log := (Filter.start r arrivals cut).log ++ [.state "-MDuplex"] }
  have hfirst : attempt (zoom (Filter.file .stdout) beginDoc) s =
      (.ok (beginDoc { cut := cut }).1, { s with stdout := (beginDoc { cut := cut }).2 }) := rfl
  rcases hbegin : beginDoc { cut := cut } with ⟨⟨⟩ | ⟨⟩, f⟩ <;> rw [hbegin] at hfirst
  · rw [bind_ok hfirst, bind_error hbegin]
    exact ⟨1, _, rfl, rfl, nofun⟩
  · rw [bind_ok hfirst, bind_ok hbegin, attempt_bind]
    have hquiet : f.interrupted = false := by
      have hint := writeAll_interrupted headBytes { cut := cut }
      rw [← beginDoc_eq, hbegin] at hint
      exact Bool.eq_false_iff.mpr fun hyes => by simpa using hint.mp hyes
    obtain ⟨st, t, hrun, hout, hdone⟩ := @printJob_spec env opt
      { s with stdout := f } _ ⟨rfl, hquiet, rfl, rfl⟩ rfl
    exact ⟨st, t, hrun, hout, fun hst hc => ⟨{ s with stdout := f }, hdone hst hc, rfl, rfl, rfl⟩⟩

end

end PantumOpen.Print
