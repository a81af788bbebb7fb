import PantumOpen.Scan.JobIsolation
import PantumOpen.Scan.PageTurns
import PantumOpen.Scan.Screening

/-! Scans in gray and in a bilevel mode side by side: the same frames, the same rows, and every bit is
a gray sample compared with its level. -/

namespace PantumOpen.Scan
open Prog Bytes Buffer

variable {env env' : Env} {v v' : OptionValues} {z : Prop} {ds ds' : List UInt8} {h h' : Handle}
  {s s' : Session} {b b' : Outp}

/-- One page: its start, and the reads up to the first that fails. -/
def scanPage (env : Env) (ns : List Int) (s : Session) :
    Except Status (List UInt8 × Option Status) × Session :=
  match saneStart env s with
  | (.error e, t) => (.error e, t)
  | (.ok _, t) => (.ok (readPage env ns t).1, (readPage env ns t).2)

def scanPages (env : Env) :
    List (List Int) → Session → List (Except Status (List UInt8 × Option Status)) × Session
  | [], s => ([], s)
  | ns :: pages, s =>
    let r := scanPage env ns s
    let rs := scanPages env pages r.2
    (r.1 :: rs.1, rs.2)

def Finished : Except Status (List UInt8 × Option Status) → Prop
  | .error _ => True
  | .ok r => r.2 ≠ none

instance : DecidablePred Finished
  | .error _ => inferInstanceAs (Decidable True)
  | .ok r => inferInstanceAs (Decidable (r.2 ≠ none))

/-- The rows in `bs'` are those in `bs` screened to one bit: as many, one by one. -/
def ScreenedPage (level : Nat → Nat → Nat) (pixels : Nat) (bs bs' : List UInt8) : Prop :=
  ∃ n, bs.length = n * pixels ∧ bs'.length = n * ((pixels + 7) / 8) ∧ ∀ y < n,
    ScreenedRow (level y) pixels ((bs.drop (y * pixels)).take pixels)
      ((bs'.drop (y * ((pixels + 7) / 8))).take ((pixels + 7) / 8))

/-- The outcomes of a gray page and of the same page in a bilevel mode: both fail to start with the
same status, or both end with the same status and the rows match. -/
def PageMatches (level : Nat → Nat → Nat) (pixels : Nat) :
    Except Status (List UInt8 × Option Status) → Except Status (List UInt8 × Option Status) → Prop
  | .error e, .error e' => e' = e
  | .ok r, .ok r' => r'.2 = r.2 ∧ ScreenedPage level pixels r.1 r'.1
  | _, _ => False

theorem scanPage_error {ns : List Int} {e : Status} {t : Session}
    (h : saneStart env s = (.error e, t)) : scanPage env ns s = (.error e, t) := by
  unfold scanPage
  rw [h]

theorem scanPage_ok {ns : List Int} {t : Session} (h : saneStart env s = (.ok (), t)) :
    scanPage env ns s = (.ok (readPage env ns t).1, (readPage env ns t).2) := by
  unfold scanPage
  rw [h]

theorem OptionValues.pixels_pos (v : OptionValues) : 0 < v.computeParameters.pixelsPerLine := by
  unfold computeParameters
  dsimp only
  split_ifs <;> exact windowDots_pos _ _

theorem Handle.Matched.reset (a : h.Matched v v' h') (f : Flags → Flags) :
    ((h.emptyPage).withFlags (f h.emptyPage.flags)).Screened env' v v' True [] []
      ((h'.emptyPage).withFlags (f h'.emptyPage.flags)) where
  flags := congrArg (fun fl : Flags => f { fl with eof := false }) a.flags
  val := a.val
  params := a.params
  screen := a.screen
  gamma := a.gamma
  white := a.white
  nextRow := rfl
  queue := ⟨Nat.zero_le _, Nat.zero_le _⟩
  start _ := ⟨rfl, rfl, rfl, rfl⟩
  rows := ⟨fun _ => [], fun _ => [], rfl, rfl, fun _ h => absurd h (Nat.not_lt_zero _)⟩

namespace Handle.Screened

theorem out_nil (a : h.Screened env' v v' True ds ds' h') : h'.out = [] ↔ h.out = [] := by
  obtain ⟨h0, h0', rfl, rfl⟩ := a.start trivial
  obtain ⟨g, b, hg, hb, hrows⟩ := a.rows
  unfold pending at hg hb
  rw [h0, List.drop_zero, List.nil_append] at hg
  rw [h0', List.drop_zero, List.nil_append] at hb
  have hpixels := v.pixels_pos
  have hl := congrArg List.length hg
  have hl' := congrArg List.length hb
  rw [concatRange_length fun r _ hr => (hrows r hr).length] at hl
  rw [concatRange_length fun r _ hr => (hrows r hr).length'] at hl'
  rw [← List.length_eq_zero_iff, ← List.length_eq_zero_iff, hl, hl', Nat.mul_eq_zero, Nat.mul_eq_zero]
  omega

theorem weaken (a : h.Screened env' v v' z ds ds' h') : h.Screened env' v v' False ds ds' h' :=
  ⟨a.toMatched, a.nextRow, a.queue, False.elim, a.rows⟩

theorem page (a : h.Screened env' v v' z ds ds' h') (hnil : h.pending = []) (hnil' : h'.pending = []) :
    ScreenedPage (v'.screenLevel env') v.computeParameters.pixelsPerLine ds ds' := by
  obtain ⟨g, b, hg, hb, hrows⟩ := a.rows
  rw [hnil, List.append_nil] at hg
  rw [hnil', List.append_nil] at hb
  refine ⟨h.nextRow, ?_, ?_, fun y hy => ?_⟩
  · rw [hg, concatRange_length fun r _ hr => (hrows r hr).length, Nat.sub_zero]
  · rw [hb, concatRange_length fun r _ hr => (hrows r hr).length', Nat.sub_zero]
  · rw [hg, hb, concatRange_piece (fun r hr => (hrows r hr).length) hy,
      concatRange_piece (fun r hr => (hrows r hr).length') hy]
    exact hrows y hy

end Handle.Screened

theorem deliverable_screened : Deliverable (Handle.Screened env' v v' False) where
  left n a hn := by
    obtain ⟨g, b, hg, hb, hrows⟩ := a.rows
    refine ⟨⟨a.flags, a.val, a.params, a.screen, a.gamma, a.white⟩, a.nextRow,
      ⟨a.queue.1.advance hn, a.queue.2⟩, False.elim, g, b, ?_, hb, hrows⟩
    rw [Handle.advance_pending, List.append_assoc, List.take_append_drop]
    exact hg
  right n a hn := by
    obtain ⟨g, b, hg, hb, hrows⟩ := a.rows
    refine ⟨⟨a.flags, a.val, a.params, a.screen, a.gamma, a.white⟩, a.nextRow,
      ⟨a.queue.1, a.queue.2.advance hn⟩, False.elim, g, b, hg, ?_, hrows⟩
    rw [Handle.advance_pending, List.append_assoc, List.take_append_drop]
    exact hb

structure Handle.Kin (v v' : OptionValues) (h h' : Handle) : Prop where
  val : h.val = v ∧ h'.val = v'
  nonBlocking : h'.nonBlocking = h.nonBlocking
  scanning : h'.scanning = h.scanning
  locked : h'.locked = h.locked
  feeding : h'.feeding = h.feeding

theorem Handle.Matched.kin (a : h.Matched v v' h') : h.Kin v v' h' where
  val := a.val
  nonBlocking := congrArg Flags.nonBlocking a.flags
  scanning := congrArg Flags.scanning a.flags
  locked := congrArg Flags.locked a.flags
  feeding := congrArg Flags.feeding a.flags

theorem Handle.prepared_fields (env : Env) (h : Handle) :
    (h.prepared env).flags = { h.flags with cancelled := false, eof := false } ∧
    (h.prepared env).val = h.val ∧ (h.prepared env).params = h.val.computeParameters ∧
    (h.prepared env).threshold = h.val.lineartThreshold ∧
    (h.prepared env).halftone = h.val.modeIs .halftone ∧
    (h.prepared env).gamma = env.toneCurve (h.val.computeParameters.format == .rgb) := by
  unfold Handle.prepared setMargins
  dsimp only
  split <;> exact ⟨rfl, rfl, rfl, rfl, rfl, rfl⟩

section
variable (hv : v.Bilevel v')
include hv

theorem Handle.Kin.matched (a : h.Kin v v' h') (henv : env.Agrees env') :
    (h.prepared env).Matched v v' (h'.prepared env') := by
  have hwindow : v'.computeWindow = v.computeWindow := by rw [hv.rest]; rfl
  have hdpi : v'.effectiveResolution = v.effectiveResolution := by rw [hv.rest]; rfl
  obtain ⟨hf, hval, hp, -, -, hg⟩ := h.prepared_fields env
  obtain ⟨hf', hval', hp', ht', hh', hg'⟩ := h'.prepared_fields env'
  rw [a.val.1] at hp hg hval
  rw [a.val.2] at hp' ht' hh' hg' hval'
  refine ⟨?_, ⟨hval, hval'⟩, ⟨hp, hp'⟩, ⟨ht', hh'⟩, ?_, ?_⟩
  · rw [hf, hf']
    unfold Handle.flags
    rw [a.nonBlocking, a.scanning, a.locked, a.feeding]
  · rw [hg, hg', henv.toneCurve, hv.params.2.2.2]
  · simp only [Handle.prepared, setMargins, Handle.derived, a.val.1, a.val.2, hv.sourceIsAdf, hwindow,
      hdpi]
    split <;> exact ⟨rfl, rfl, rfl, rfl⟩

/-- Both starts have the same status; one that succeeds stands at the beginning of a page. -/
structure StartPost (env' : Env) (v v' : OptionValues) (b b' : Outp)
    (x y : Except Status Unit × Session) : Prop where
  status : y.1 = x.1
  paired : ∃ ds ds', Session.Paired (Host.Along (Handle.Screened env' v v' False ds ds')) Eq b b'
    x.2 y.2 ∧ (x.1 = .ok () → ds = [] ∧ ds' = [])

omit hv in
theorem StartPost.of_sim {env' : Env} {P : Session → Session → Prop} {m m' : Prog Status Session Unit}
    (h : Sim P (Session.Paired (Host.Along (Handle.Screened env' v v' True [] [])) Eq b b') Eq m m')
    (hs : P s s') : StartPost env' v v' b b' (m s) (m' s') := by
  obtain ⟨hr, ht⟩ := h s s' hs
  exact ⟨alike_eq hr, [], [], ⟨⟨ht.host.handle.weaken, ht.host.valid, ht.host.allocs⟩, ht.inp, ht.outp⟩,
    fun _ => ⟨rfl, rfl⟩⟩

variable (henv : env.Agrees env') (hdbg : env'.dbgLevel = env.dbgLevel)
include henv hdbg

theorem beginScan_screened (hs : Session.Paired (Host.Along (Handle.Kin v v')) Eq b b' s s') :
    StartPost env' v v' b b' ((do onHost (prepareJob env); startJob env) s)
      ((do onHost (prepareJob env'); startJob env') s') := by
  obtain ⟨hr, hh, hvalid, ha⟩ := prepareJob_room env hs.host.allocs.1
  obtain ⟨hr', hh', hvalid', ha'⟩ := prepareJob_room env' hs.host.allocs.2
  have hprep : onHost (prepareJob env) s = (.ok (), (onHost (prepareJob env) s).2) := eq_ok hr
  have hprep' : onHost (prepareJob env') s' = (.ok (), (onHost (prepareJob env') s').2) := eq_ok hr'
  rw [bind_ok hprep, bind_ok hprep']
  refine .of_sim ((screened_companions hv hdbg).startJob readers_eq
    (Host.Along (Handle.Matched v v')) (fun _ _ hs => ⟨hs.handle.toMatched, hs.valid, hs.allocs⟩)
    (fun _ _ hs => ⟨hs.handle.reset id, hs.valid, hs.allocs⟩)
    fun _ _ hs => hs.handle.out_nil) ⟨⟨?_, ?_, ha, ha'⟩, hs.inp, hs.outp⟩
  · change ((prepareJob env s.host).2.h).Matched v v' ((prepareJob env' s'.host).2.h)
    rw [hh, hh']
    exact hs.host.handle.matched hv henv
  · exact hvalid'.trans (hs.host.valid.trans hvalid.symm)

theorem startSettled_screened
    (hs : Session.Paired (Host.Along (Handle.Screened env' v v' False ds ds')) Eq b b' s s') :
    StartPost env' v v' b b' (startSettled env s) (startSettled env' s') := by
  have hflags := hs.host.handle.flags
  have hfeed : s'.host.h.feeding = s.host.h.feeding := congrArg Flags.feeding hflags
  have hscan : s'.host.h.scanning = s.host.h.scanning := congrArg Flags.scanning hflags
  unfold startSettled
  rw [bind_ok (a := s.host.h) (by rfl), bind_ok (a := s'.host.h) (by rfl), hfeed, hscan]
  by_cases hf : s.host.h.feeding = true
  · rw [if_pos hf, if_pos hf]
    exact .of_sim ((screened_companions hv hdbg).resumeJob readers_eq
      (Host.Along (Handle.Screened env' v v' False ds ds'))
      (fun _ _ hs => ⟨hs.handle.reset fun fl => { fl with feeding := false }, hs.valid, hs.allocs⟩)
      fun _ _ hs => hs.handle.out_nil) hs
  rw [if_neg hf, if_neg hf]
  by_cases hsc : s.host.h.scanning = true
  · rw [if_pos hsc, if_pos hsc]
    exact ⟨rfl, ds, ds', hs, fun h => by cases h⟩
  · rw [if_neg hsc, if_neg hsc]
    exact beginScan_screened hv henv hdbg
      ⟨⟨hs.host.handle.kin, hs.host.valid, hs.host.allocs⟩, hs.inp, hs.outp⟩

theorem saneStart_screened
    (hs : Session.Paired (Host.Along (Handle.Screened env' v v' False ds ds')) Eq b b' s s') :
    StartPost env' v v' b b' (saneStart env s) (saneStart env' s') := by
  have hvalid : s'.host.valid = s.host.valid := hs.host.valid
  by_cases hok : s.host.valid = true
  · have hcancel : s'.host.h.cancelled = s.host.h.cancelled :=
      congrArg Flags.cancelled hs.host.handle.flags
    rw [saneStart_settled env hok, saneStart_settled env' (hvalid.trans hok)]
    have hsettled : Session.Paired (Host.Along (Handle.Screened env' v v' False ds ds')) Eq b b'
        s.settled s'.settled := by
      unfold Session.settled
      rw [hcancel]
      split
      · exact ((screened_companions hv hdbg).endScan readers_eq s s' hs).2
      · exact hs
    exact startSettled_screened hv henv hdbg hsettled
  · rw [saneStart_invalid env hok, saneStart_invalid env' (by rwa [hvalid])]
    exact ⟨rfl, ds, ds', hs, fun h => by cases h⟩

theorem saneStart_idle_screened (hd : s.Disciplined) (hd' : s'.Disciplined) (hi : s.Idle)
    (hi' : s'.Idle) (hval : s.host.h.val = v ∧ s'.host.h.val = v')
    (hnb : s'.host.h.nonBlocking = s.host.h.nonBlocking) (hinp : s'.inp = s.inp)
    (hsched : s'.outp.outSched = s.outp.outSched)
    (hroom : false ∉ s.host.allocs ∧ false ∉ s'.host.allocs) :
    StartPost env' v v' s.outp s'.outp (saneStart env s) (saneStart env' s') := by
  obtain ⟨g, hg, hgval, hgnb, hscan, hlock, hfeed⟩ := saneStart_idle env hd hi
  obtain ⟨g', hg', hgval', hgnb', hscan', hlock', hfeed'⟩ := saneStart_idle env' hd' hi'
  rw [hg, hg']
  exact beginScan_screened hv henv hdbg ⟨⟨⟨⟨hgval.trans hval.1, hgval'.trans hval.2⟩,
    hgnb'.trans (hnb.trans hgnb.symm), hscan'.trans hscan.symm, hlock'.trans hlock.symm,
    hfeed'.trans hfeed.symm⟩, hi'.valid.trans hi.valid.symm, hroom⟩, hinp.symm, .refl hsched⟩

omit henv in
theorem scanPage_screened {ns ns' : List Int} (hns : ∀ n ∈ ns, 0 < n) (hns' : ∀ n ∈ ns', 0 < n)
    (hs : StartPost env' v v' b b' (saneStart env s) (saneStart env' s'))
    (hfin : Finished (scanPage env ns s).1) (hfin' : Finished (scanPage env' ns' s').1) :
    PageMatches (v'.screenLevel env') v.computeParameters.pixelsPerLine (scanPage env ns s).1
      (scanPage env' ns' s').1 ∧ ∃ ds ds', Session.Paired
        (Host.Along (Handle.Screened env' v v' False ds ds')) Eq b b' (scanPage env ns s).2
          (scanPage env' ns' s').2 := by
  have hstarted : (saneStart env s).1 = .ok () → (saneStart env s).2.Started := saneStart_started env s
  have hstarted' : (saneStart env' s').1 = .ok () → (saneStart env' s').2.Started :=
    saneStart_started env' s'
  obtain ⟨hst, ds, ds', hpair, hfirst⟩ := hs
  rcases hr : saneStart env s with ⟨_ | ⟨⟩, t⟩ <;> rcases hr' : saneStart env' s' with ⟨_ | ⟨⟩, t'⟩ <;>
    rw [hr, hr'] at hst
  · rw [scanPage_error hr, scanPage_error hr']
    rw [hr, hr'] at hpair
    exact ⟨Except.error.inj hst, ds, ds', hpair⟩
  · cases hst
  · cases hst
  · rw [scanPage_ok hr] at hfin ⊢
    rw [scanPage_ok hr'] at hfin' ⊢
    rw [hr, hr'] at hpair
    rw [hr] at hstarted hfirst
    rw [hr'] at hstarted'
    obtain ⟨st, hend⟩ := Option.ne_none_iff_exists'.mp hfin
    obtain ⟨st', hend'⟩ := Option.ne_none_iff_exists'.mp hfin'
    obtain ⟨rfl, rfl⟩ := hfirst rfl
    obtain ⟨rfl, hpair, h, h', hh, hnil, hnil'⟩ := PageRead.paired deliverable_screened
      (fun _ _ => screened_companions hv hdbg) readers_eq
      (readPage_pageRead hns (hstarted rfl).page hend)
      (readPage_pageRead hns' (hstarted' rfl).page hend') hpair
    exact ⟨⟨hend'.trans hend.symm, hh.page hnil hnil'⟩, _, _, hpair⟩

theorem scanPages_screened {pages pages' : List (List Int)} (hlen : pages'.length = pages.length)
    (hns : ∀ ns ∈ pages, ∀ n ∈ ns, 0 < n) (hns' : ∀ ns ∈ pages', ∀ n ∈ ns, 0 < n)
    (hs : StartPost env' v v' b b' (saneStart env s) (saneStart env' s'))
    (hfin : ∀ o ∈ (scanPages env pages s).1, Finished o)
    (hfin' : ∀ o ∈ (scanPages env' pages' s').1, Finished o) (hne : pages ≠ []) :
    List.Forall₂ (PageMatches (v'.screenLevel env') v.computeParameters.pixelsPerLine)
      (scanPages env pages s).1 (scanPages env' pages' s').1 ∧ ∃ ds ds', Session.Paired
        (Host.Along (Handle.Screened env' v v' False ds ds')) Eq b b' (scanPages env pages s).2
          (scanPages env' pages' s').2 := by
  induction pages generalizing pages' s s' with
  | nil => exact absurd rfl hne
  | cons ns pages ih =>
    match pages', hlen, hns', hfin' with
    | ns' :: pages', hlen, hns', hfin' =>
      obtain ⟨hpage, ds, ds', hpair⟩ := scanPage_screened hv hdbg (hns ns List.mem_cons_self)
        (hns' ns' List.mem_cons_self) hs (hfin _ List.mem_cons_self) (hfin' _ List.mem_cons_self)
      match pages, pages', hlen with
      | [], [], _ => exact ⟨.cons hpage .nil, ds, ds', hpair⟩
      | next :: pages, next' :: pages', hlen =>
        obtain ⟨hpages, hend⟩ := ih (Nat.succ.inj hlen) (fun ns h => hns ns (List.mem_cons_of_mem _ h))
          (fun ns h => hns' ns (List.mem_cons_of_mem _ h)) (saneStart_screened hv henv hdbg hpair)
          (fun o h => hfin o (List.mem_cons_of_mem _ h))
          (fun o h => hfin' o (List.mem_cons_of_mem _ h)) (List.cons_ne_nil _ _)
        exact ⟨.cons hpage hpages, hend⟩

end

/-- A job in a bilevel mode is the same job in gray, screened: page by page both runs end with the same
status after the same frames, with as many rows, and a bit is set exactly where the gray sample is
below its level. -/
theorem bilevel_screens_gray (henv : env.Agrees env') (hdbg : env'.dbgLevel = env.dbgLevel)
    (hs : Reachable env s) (hs' : Reachable env' s') (hi : s.Idle) (hi' : s'.Idle)
    (hv : s.host.h.val.Bilevel s'.host.h.val)
    (hnb : s'.host.h.nonBlocking = s.host.h.nonBlocking) (hinp : s'.inp = s.inp)
    (hsched : s'.outp.outSched = s.outp.outSched)
    (hroom : false ∉ s.host.allocs ∧ false ∉ s'.host.allocs)
    {pages pages' : List (List Int)} (hlen : pages'.length = pages.length)
    (hns : ∀ ns ∈ pages, ∀ n ∈ ns, 0 < n) (hns' : ∀ ns ∈ pages', ∀ n ∈ ns, 0 < n)
    (hfin : ∀ o ∈ (scanPages env pages s).1, Finished o)
    (hfin' : ∀ o ∈ (scanPages env' pages' s').1, Finished o) :
    let r := scanPages env pages s
    let r' := scanPages env' pages' s'
    List.Forall₂ (PageMatches (s'.host.h.val.screenLevel env')
        s.host.h.val.computeParameters.pixelsPerLine) r.1 r'.1 ∧ r'.2.inp = r.2.inp ∧
      ∃ fs, r.2.outp.sent = s.outp.sent ++ fs ∧ r'.2.outp.sent = s'.outp.sent ++ fs := by
  by_cases hne : pages = []
  · subst hne
    obtain rfl := List.length_eq_zero_iff.mp hlen
    exact ⟨.nil, hinp, [], (List.append_nil _).symm, (List.append_nil _).symm⟩
  · have hstart := saneStart_idle_screened hv henv hdbg hs.disciplined hs'.disciplined hi hi' ⟨rfl, rfl⟩
      hnb hinp hsched hroom
    obtain ⟨hpages, ds, ds', hpair⟩ :=
      scanPages_screened hv henv hdbg hlen hns hns' hstart hfin hfin' hne
    exact ⟨hpages, hpair.inp.symm, hpair.outp.sent⟩

def pageFrames : List HostFrame := rowFrames ++ [⟨evtJobEnd, []⟩, ⟨cmdUnlock, []⟩]

def grayHandle : Session := opened plainEnv (openFrames ++ pageFrames) 20 20 []

def lineartHandle : Session :=
  opened plainEnv (openFrames ++ pageFrames) 20 20
    [.controlOption 2 .setValue (some ⟨0, Mode.lineart.name⟩)]

theorem lineartHandle_bilevel : grayHandle.host.h.val.Bilevel lineartHandle.host.h.val where
  gray := by decide +kernel
  bilevel := .inl (by decide +kernel)
  rest := by decide +kernel

theorem lineartHandle_inp : lineartHandle.inp = grayHandle.inp :=
  Inp.eq_of_fields (by decide +kernel) (by decide +kernel)

theorem pageHandles_idle : grayHandle.Idle ∧ lineartHandle.Idle :=
  ⟨⟨by decide +kernel, by decide +kernel⟩, ⟨by decide +kernel, by decide +kernel⟩⟩

theorem pageHandles_room : false ∉ grayHandle.host.allocs ∧ false ∉ lineartHandle.host.allocs :=
  ⟨by decide +kernel, by decide +kernel⟩

theorem pageHandles_nonBlocking : lineartHandle.host.h.nonBlocking = grayHandle.host.h.nonBlocking := by
  decide +kernel

theorem pageHandles_outSched : lineartHandle.outp.outSched = grayHandle.outp.outSched := by
  decide +kernel

theorem bilevel_screens_gray_lineart :
    List.Forall₂ (PageMatches (lineartHandle.host.h.val.screenLevel plainEnv)
        grayHandle.host.h.val.computeParameters.pixelsPerLine)
      (scanPages plainEnv [[4096, 1]] grayHandle).1
      (scanPages plainEnv [[40, 4096, 1]] lineartHandle).1 := by
  have hs : Reachable plainEnv grayHandle := reachable_opened _ _ 20 20 _
  have hs' : Reachable plainEnv lineartHandle := reachable_opened _ _ 20 20 _
  have hfin : ∀ o ∈ (scanPages plainEnv [[4096, 1]] grayHandle).1, Finished o := by decide +kernel
  have hfin' : ∀ o ∈ (scanPages plainEnv [[40, 4096, 1]] lineartHandle).1, Finished o := by
    decide +kernel
  have hns : ∀ ns ∈ [[4096, 1]], ∀ n ∈ ns, (0 : Int) < n := by decide
  have hns' : ∀ ns ∈ [[40, 4096, 1]], ∀ n ∈ ns, (0 : Int) < n := by decide
  have hlen : [[(40 : Int), 4096, 1]].length = [[(4096 : Int), 1]].length := rfl
  have h := bilevel_screens_gray (s := grayHandle) ⟨rfl, rfl⟩ rfl hs hs' pageHandles_idle.1
    pageHandles_idle.2 lineartHandle_bilevel pageHandles_nonBlocking lineartHandle_inp
    pageHandles_outSched pageHandles_room hlen hns hns' hfin hfin'
  exact h.1

end PantumOpen.Scan
