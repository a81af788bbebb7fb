import PantumOpen.Scan.PageRun

/-! A feeder job as a whole: its pages are started and read one after the other, and then the
device ends the job while `resume_job` waits for a page that does not come. -/

namespace PantumOpen.Scan
open Prog Bytes

/-- The frames of one page up to its `EVT_PAGE_END`, in front of `rest`. -/
inductive PageFrames (rest : List WireFrame) : List WireFrame → Prop
  | pageEnd {e : WireFrame} (h : e.cmd = evtPageEnd) : PageFrames rest (e :: rest)
  | frame {f : WireFrame} {fs : List WireFrame} (h : f.cmd = evtData ∨ f.Silent true)
      (t : PageFrames rest fs) : PageFrames rest (f :: fs)

/-- The frames of a job with `k` pages to come, which the device ends behind the last of them. -/
inductive JobFrames : Nat → List WireFrame → Prop
  | jobEnd {e : WireFrame} {rest : List WireFrame} (h : e.cmd = evtJobEnd) : JobFrames 0 (e :: rest)
  | silent {f : WireFrame} {fs : List WireFrame} (h : f.Silent true) (t : JobFrames 0 fs) :
      JobFrames 0 (f :: fs)
  | page {k : Nat} {fs rest : List WireFrame} (h : PageFrames rest fs) (t : JobFrames k rest) :
      JobFrames (k + 1) fs

structure FeederJob (env : Env) (k : Nat) (s : Session) : Prop where
  source : s.host.h.val.sourceIsAdf = true
  idle : s.host.h.feeding = false
  clean : s.inp.Clean
  frames : ∃ fs, (s.awaiting env).inp.AtFrame fs ∧ JobFrames k fs

/-- `k` pages are started and read to their ends, one after the other. -/
inductive PagesRead (env : Env) : Nat → Session → Session → Prop
  | none {s : Session} : PagesRead env 0 s s
  | page {k : Nat} {s t u : Session} {cs : List Call} {n : Int}
      (hstart : saneStart env s = (.ok (), t)) (hawait : AwaitTidy env (s.awaiting env))
      (hreads : ∀ c ∈ cs, c.reads) (htidy : TidyCalls env [] (cs ++ [.read n]) t)
      (hok : ∀ r ∈ (runCalls env cs t).1, r.isOk)
      (heof : (saneRead env n (runCalls env cs t).2).1 = .error .eof)
      (h : PagesRead env k (saneRead env n (runCalls env cs t).2).2 u) : PagesRead env (k + 1) s u

structure Session.Feeds (s : Session) : Prop where
  clean : s.inp.Clean
  valid : s.host.valid = true
  cancelled : s.host.h.cancelled = false
  source : s.host.h.val.sourceIsAdf = true
  scanning : s.host.h.scanning = true
  queue : s.host.h.Queue
  params : s.host.h.params.Positive

structure Session.PageOver (k : Nat) (s : Session) : Prop extends s.Feeds where
  eof : s.host.h.eof = true
  feeding : s.host.h.feeding = true
  frames : ∃ fs, s.inp.AtFrame fs ∧ JobFrames k fs

structure Session.InPage (k : Nat) (s : Session) : Prop extends s.Feeds where
  eof : s.host.h.eof = false
  frames : ∃ fs rest, s.inp.AtFrame fs ∧ PageFrames rest fs ∧ JobFrames k rest

variable {k : Nat} {s t : Session}

theorem Emits.feeds {g : Nat → List UInt8} (h : Emits g s.host t.host) (hs : s.Feeds)
    (hc : t.inp.Clean) : t.Feeds where
  clean := hc
  valid := h.valid.trans hs.valid
  cancelled := h.control.cancelled.trans hs.cancelled
  source := by
    rw [h.control.val]
    exact hs.source
  scanning := h.control.scanning.trans hs.scanning
  queue := (h.queue hs.queue).1
  params := by
    rw [h.control.params]
    exact hs.params

theorem Emits.inPage {g : Nat → List UInt8} (h : Emits g s.host t.host) (hs : s.InPage k)
    (hc : t.inp.Clean)
    (hf : ∃ fs rest, t.inp.AtFrame fs ∧ PageFrames rest fs ∧ JobFrames k rest) : t.InPage k :=
  ⟨h.feeds hs.toFeeds hc, h.control.eof.trans hs.eof, hf⟩

theorem FrameDone.inPage {env : Env} {f : WireFrame} {gs fs rest : List WireFrame}
    (h : FrameDone env f gs s t) (hs : s.InPage k) (hc : t.inp.Clean) (hfs : fs = f :: gs)
    (hpage : PageFrames rest fs) (hjob : JobFrames k rest) : t.InPage k ∨ t.PageOver k := by
  -- The end of the page is the only frame that is neither data nor silent.
  have hkind : (f.cmd = evtPageEnd ∧ gs = rest) ∨
      ((f.cmd = evtData ∨ f.Silent true) ∧ PageFrames rest gs) := by
    subst hfs
    cases hpage with
    | pageEnd h => exact .inl ⟨h, rfl⟩
    | frame h t => exact .inr ⟨h, t⟩
  cases h with
  | data hcmd hb =>
    obtain ⟨hend, -⟩ | ⟨-, hrest⟩ := hkind
    · exact absurd (hcmd.symm.trans hend) (by decide)
    · exact .inl (hb.emits.1.inPage hs hc ⟨gs, rest, hb.inp, hrest, hjob⟩)
  | silent hcmd hi hh =>
    obtain ⟨hend, -⟩ | ⟨-, hrest⟩ := hkind
    · exact absurd (hs.source.symm.trans (hcmd.2.2.2 hend)) (by decide)
    · left
      have he : Emits (fun _ => []) s.host t.host := by
        rw [hh]
        exact .refl _ _
      exact he.inPage hs hc ⟨gs, rest, hi, hrest, hjob⟩
  | pageEnd hcmd hadf hi hf =>
    obtain ⟨-, rfl⟩ | ⟨hbad, -⟩ := hkind
    · obtain ⟨u, st, hu, hh, -⟩ := hf.filled
      have hu := hu.emits
      right
      refine ⟨⟨hc, ?_, ?_, ?_, ?_, ?_, ?_⟩, ?_, ?_, gs, hi, hjob⟩ <;> rw [hh]
      · exact hu.valid.trans hs.valid
      · exact hu.control.cancelled.trans hs.cancelled
      · exact (congrArg OptionValues.sourceIsAdf hu.control.val).trans hs.source
      · exact hu.control.scanning.trans hs.scanning
      · exact (hu.queue hs.queue).1
      · exact hu.control.params ▸ hs.params
      · rfl
      · rfl
    · obtain hbad | hbad := hbad
      · exact absurd (hbad.symm.trans hcmd) (by decide)
      · exact absurd (hbad.2.2.2 hcmd) (by decide)
  | jobEnd hcmd _ =>
    obtain ⟨hend, -⟩ | ⟨hbad | hbad, -⟩ := hkind
    · exact absurd (hcmd.symm.trans hend) (by decide)
    · exact absurd (hbad.symm.trans hcmd) (by decide)
    · exact absurd hcmd hbad.2.2.1

def PageStep (k : Nat) : Except Status Pumped → Session → Prop
  | .error _, _ => True
  | .ok (.aborted _), _ => False
  | .ok .idle, t => t.InPage k
  | .ok .done, t => t.InPage k ∨ t.PageOver k

theorem takeFrame_inPage (env : Env) (probe report : Bool) (hs : s.InPage k)
    (hcut : ¬ s.PageCut probe) : wp (takeFrame env probe report) (PageStep k) s := by
  obtain ⟨fs, rest, hi, hpage, hjob⟩ := hs.frames
  refine wp_mono (wp_and (takeFrame_atFrame env probe report hs.clean hi hcut)
    (takeFrame_uses env probe report s)) fun r t ⟨ht, hsched⟩ => ?_
  have hc : t.inp.Clean := hs.clean.suffix hsched.1
  match r, ht with
  | .error _, _ => exact trivial
  | .ok (.aborted _), ⟨f, gs, hfs, hcmd⟩ =>
    subst hfs
    cases hpage with
    | pageEnd h => exact absurd (hcmd.symm.trans h) (by decide)
    | frame h _ =>
      obtain h | h := h
      · exact absurd (hcmd.symm.trans h) (by decide)
      · exact h.2.1 hcmd
  | .ok .idle, ⟨hi', hh⟩ =>
    have he : Emits (fun _ => []) s.host t.host := by
      rw [hh]
      exact .refl _ _
    exact he.inPage hs hc ⟨fs, rest, hi', hpage, hjob⟩
  | .ok .done, ⟨f, gs, hfs, hd⟩ => exact hd.inPage hs hc hfs hpage hjob

def Session.OnPage (k : Nat) (s : Session) : Prop := s.InPage k ∨ s.PageOver k

theorem Session.OnPage.onHandle {g : Handle → Handle} (hs : s.OnPage k)
    (hg : JobFlags s.host.h (g s.host.h)) (hq : (g s.host.h).Queue) : (s.onHandle g).OnPage k := by
  have hfeeds (hf : s.Feeds) : (s.onHandle g).Feeds :=
    ⟨hf.clean, hf.valid, hg.cancelled.trans hf.cancelled,
      (congrArg OptionValues.sourceIsAdf hg.val).trans hf.source, hg.scanning.trans hf.scanning, hq,
      hg.params ▸ hf.params⟩
  obtain hin | hover := hs
  · exact .inl ⟨hfeeds hin.toFeeds, hg.eof.trans hin.eof, hin.frames⟩
  · exact .inr ⟨hfeeds hover.toFeeds, hg.eof.trans hover.eof, hg.feeding.trans hover.feeding,
      hover.frames⟩

theorem Session.OnPage.feeds (h : s.OnPage k) : s.Feeds := h.elim (·.toFeeds) (·.toFeeds)

theorem Session.OnPage.inPage (h : s.OnPage k) (heof : ¬ s.host.h.eof = true) : s.InPage k :=
  h.resolve_right fun hover => heof hover.eof

theorem Session.OnPage.pageOver (h : s.OnPage k) (heof : s.host.h.eof = true) : s.PageOver k :=
  h.resolve_left fun hin => by rw [hin.eof] at heof; cases heof

theorem awaitFirstRows_onPage (env : Env) (hs : s.OnPage k) (htidy : AwaitTidy env s) :
    wp (awaitFirstRows env) (fun r t => (r = .ok none → t.OnPage k) ∧ ∀ st, r ≠ .ok (some st)) s := by
  refine wp_awaitFirstRows_rounds (P := fun t => t.host.h.Waiting → ¬ t.PageCut false)
    (Session.OnPage k) (fun t ht hwait hcut => ?_) (fun t ht _ => ⟨fun _ => ht, fun _ h => by cases h⟩)
    (fun _ _ _ _ => ⟨fun h => (by cases h), fun _ h => by cases h⟩) htidy hs
  refine wp_mono (takeFrame_inPage env false true (ht.inPage hwait.2.2) (hcut hwait))
    fun r u hu => ?_
  match r, hu with
  | .error _, _ => exact ⟨fun h => (by cases h), fun _ h => by cases h⟩
  | .ok .idle, hu => exact .inl hu
  | .ok .done, hu => exact hu

theorem fillQueue_onPage (env : Env) (hs : s.OnPage k) (htidy : FillTidy env s) :
    wp (fillQueue env) (fun r t => (∃ b, r = .ok b) → t.OnPage k ∧
      (r = .ok false → ¬ t.host.h.Starved)) s := by
  refine wp_fillQueue_rounds (P := fun t => t.host.h.Starved → t.host.h.scanning = true →
      ¬ t.PageCut t.host.h.nonBlocking)
    (Session.OnPage k) (fun t ht hstarved hscan hcut => ?_) (fun t ht _ hscan => ?_)
    (fun t ht hno _ => ⟨ht, fun _ => hno⟩) (fun _ _ _ _ ⟨_, h⟩ => by cases h) htidy hs
  · refine wp_mono (takeFrame_inPage env _ false (ht.inPage hstarved.2) (hcut hstarved hscan))
      fun r u hu => ?_
    match r, hu with
    | .error _, _ => exact fun ⟨_, h⟩ => by cases h
    | .ok .idle, hu => exact fun _ => ⟨.inl hu, fun h => by cases h⟩
    | .ok .done, hu => exact hu
  · rw [ht.feeds.scanning] at hscan
    cases hscan

theorem saneRead_onPage (env : Env) (n : Int) (hs : s.OnPage k)
    (htidy : Call.Tidy env [] (.read n) s) :
    wp (saneRead env n) (fun r t => ((∃ bs, r = .ok bs) → t.OnPage k) ∧
      (r = .error .eof → t.PageOver k)) s := by
  refine wp_mono (saneRead_of_fill (fun _ ht => ht.feeds.queue) fun hv hn hc =>
    fillQueue_onPage env hs (htidy hv hn hc)) fun r t ht => ⟨fun ⟨bs, hbs⟩ => ?_, fun heof => ?_⟩
  · obtain ⟨u, m, hu, hm, -, rfl⟩ := ht.data bs hbs
    apply hu.onHandle ⟨rfl, rfl, rfl, rfl, rfl, rfl⟩
    have hq : u.host.h.outPos ≤ u.host.h.out.length := hu.feeds.queue
    rw [Handle.pending, List.length_drop] at hm
    change u.host.h.outPos + m ≤ u.host.h.out.length
    omega
  · obtain ⟨ht, hend, -⟩ := ht.ended heof
    exact ht.pageOver hend

theorem runCalls_onPage (env : Env) (cs : List Call) (hcs : ∀ c ∈ cs, c.reads) (hs : s.OnPage k)
    (htidy : TidyCalls env [] cs s) (hok : ∀ r ∈ (runCalls env cs s).1, r.isOk) :
    (runCalls env cs s).2.OnPage k := by
  induction cs generalizing s with
  | nil => exact hs
  | cons c cs ih =>
    have hc : (c.run env s).1.isOk := hok _ List.mem_cons_self
    refine ih (fun d hd => hcs d (List.mem_cons_of_mem _ hd)) ?_ htidy.2
      fun r hr => hok r (List.mem_cons_of_mem _ hr)
    have hreads := hcs c List.mem_cons_self
    cases c with
    | read n =>
      have hread := saneRead_onPage env n hs htidy.1
      have hrun : wp (Call.run env (.read n)) (fun r t => r.isOk → t.OnPage k) s := by
        rw [Call.run, wp_bind]
        apply wp_mono hread
        rintro r t ⟨ht, _⟩
        cases r with
        | error _ => exact fun h => by cases h
        | ok _ => exact fun _ => ht ⟨_, rfl⟩
      exact hrun hc
    | setIoMode b =>
      have hrun : wp (Call.run env (.setIoMode b)) (fun _ t => t.OnPage k) s := by
        rw [Call.run, wp_bind]
        unfold saneSetIoMode
        rw [wp_bind, wp_read, after_ok, wp_ite]
        refine ⟨fun _ => ?_, fun _ => hs⟩
        exact hs.onHandle ⟨rfl, rfl, rfl, rfl, rfl, rfl⟩ hs.feeds.queue
      exact hrun
    | _ => cases hreads

theorem FeederJob.awaiting_onPage {env : Env} (hs : FeederJob env (k + 1) s)
    (h : s.Awaits env) : (s.awaiting env).OnPage k := by
  obtain ⟨fs, hi, hjob⟩ := hs.frames
  obtain ⟨hval, hfeed, hsettled⟩ := settled_spec s
  cases h with
  | resumed _ hf _ =>
    rw [hfeed hs.idle] at hf
    cases hf
  | begun _ _ _ hva hh hsched =>
    left
    cases hjob with
    | page hpage hjob =>
      have hfields : (s.awaiting env).host.h.cancelled = false ∧
          (s.awaiting env).host.h.val = s.host.h.val ∧ (s.awaiting env).host.h.scanning = true ∧
          (s.awaiting env).host.h.eof = false ∧ (s.awaiting env).host.h.Queue ∧
          (s.awaiting env).host.h.params.Positive := by
        rw [hh, ← hval]
        have hpos := s.settled.host.h.val.computeParameters_positive
        unfold Handle.prepared setMargins
        dsimp only
        split <;> exact ⟨rfl, rfl, rfl, rfl, Nat.le_refl 0, hpos⟩
      obtain ⟨hc, hv, hscan, heof, hq, hpos⟩ := hfields
      refine ⟨⟨hs.clean.suffix (hsched.trans hsettled), hva, hc, ?_, hscan, hq, hpos⟩, heof, fs, _,
        hi, hpage, hjob⟩
      rw [hv]
      exact hs.source

theorem Session.PageOver.awaiting_onPage {env : Env} (hs : s.PageOver (k + 1)) :
    (s.awaiting env).OnPage k := by
  obtain ⟨fs, hi, hjob⟩ := hs.frames
  have hsettled := settled_of_not_cancelled hs.cancelled
  unfold Session.awaiting
  rw [hsettled, if_pos hs.feeding]
  left
  cases hjob with
  | page hpage hjob =>
    exact ⟨⟨hs.clean, hs.valid, hs.cancelled, hs.source, hs.scanning, Nat.le_refl 0, hs.params⟩, rfl,
      fs, _, hi, hpage, hjob⟩

theorem page_read {env : Env} (hs : s.Awaits env → (s.awaiting env).OnPage k)
    (hstart : saneStart env s = (.ok (), t)) (hawait : AwaitTidy env (s.awaiting env))
    {cs : List Call} {n : Int} (hreads : ∀ c ∈ cs, c.reads)
    (htidy : TidyCalls env [] (cs ++ [.read n]) t) (hok : ∀ r ∈ (runCalls env cs t).1, r.isOk)
    (heof : (saneRead env n (runCalls env cs t).2).1 = .error .eof) :
    (saneRead env n (runCalls env cs t).2).2.PageOver k := by
  have ht : t.OnPage k := by
    have h := saneStart_awaiting env s fun h => awaitFirstRows_onPage env (hs h) hawait
    unfold wp at h
    rw [hstart] at h
    exact h rfl
  obtain ⟨htidy, hlast⟩ := tidyCalls_append htidy
  exact (saneRead_onPage env n (runCalls_onPage env cs hreads ht htidy hok) hlast).2 heof

theorem PagesRead.pageOver {env : Env} {j : Nat} (h : PagesRead env j s t)
    (hs : s.PageOver (j + k)) : t.PageOver k := by
  induction h with
  | none => rwa [Nat.zero_add] at hs
  | page hstart hawait hreads htidy hok heof _ ih =>
    rw [Nat.add_right_comm] at hs
    exact ih (page_read (fun _ => hs.awaiting_onPage) hstart hawait hreads htidy hok heof)

theorem FeederJob.pageOver {env : Env} (hs : FeederJob env k s) (hk : 0 < k)
    (h : PagesRead env k s t) : t.PageOver 0 := by
  cases h with
  | none => cases hk
  | page hstart hawait hreads htidy hok heof hrest =>
    exact hrest.pageOver (page_read hs.awaiting_onPage hstart hawait hreads htidy hok heof)

/-- The wait for a page that does not come, before the device ends the job. -/
structure Session.Closing (s : Session) : Prop extends s.Feeds where
  page : s.host.h.nextRow = 0 ∧ s.host.h.out = [] ∧ s.host.h.outPos = 0
  eof : s.host.h.eof = false
  frames : ∃ fs, s.inp.AtFrame fs ∧ JobFrames 0 fs

/-- The device has ended the job, and the page that did not come is all white. -/
structure Session.Blank (s : Session) : Prop where
  pending : s.host.h.pending =
    concatRange (fun _ => s.host.h.params.whiteLine) 0 s.host.h.params.lines
  params : s.host.h.params.Positive
  ended : s.host.h.scanning = false

theorem FrameDone.closing {env : Env} {f : WireFrame} {gs : List WireFrame}
    (h : FrameDone env f gs s t) (hs : s.Closing) (hc : t.inp.Clean) (hjob : JobFrames 0 (f :: gs)) :
    t.Closing ∨ t.Blank := by
  have hkind : f.cmd = evtJobEnd ∨ (f.Silent true ∧ JobFrames 0 gs) := by
    cases hjob with
    | jobEnd h => exact .inl h
    | silent h t => exact .inr ⟨h, t⟩
  cases h with
  | data hcmd _ =>
    obtain hend | ⟨hsil, -⟩ := hkind
    · exact absurd (hcmd.symm.trans hend) (by decide)
    · exact absurd hcmd hsil.1
  | silent hcmd hi hh =>
    obtain hend | ⟨-, hrest⟩ := hkind
    · exact absurd hend hcmd.2.2.1
    · left
      refine ⟨⟨hc, ?_, ?_, ?_, ?_, ?_, ?_⟩, ?_, ?_, gs, hi, hrest⟩ <;> rw [hh]
      exacts [hs.valid, hs.cancelled, hs.source, hs.scanning, hs.queue, hs.params, hs.page, hs.eof]
  | pageEnd hcmd hadf _ _ =>
    obtain hend | ⟨hsil, -⟩ := hkind
    · exact absurd (hcmd.symm.trans hend) (by decide)
    · exact absurd (hsil.2.2.2 hcmd) (by decide)
  | jobEnd hcmd hf =>
    -- The end of the job fills the page that was begun with white rows.
    obtain ⟨u, st, hu, hh, ⟨rfl, -⟩ | ⟨_, _, hbad⟩⟩ := hf.filled
    swap
    · cases hbad
    obtain ⟨hu, hrows⟩ := hu
    obtain ⟨hn, hout, -⟩ := hs.page
    have hnil : s.host.h.pending = [] := by rw [Handle.pending, hout, List.drop_nil]
    have hp : u.h.params = s.host.h.params := hu.control.params
    have hpend := (hu.queue hs.queue).2
    rw [hn, Nat.zero_max] at hrows
    rw [hn, hrows, hnil, List.nil_append] at hpend
    right
    refine ⟨?_, ?_, ?_⟩ <;> rw [hh]
    · change u.h.pending = concatRange (fun _ => u.h.params.whiteLine) 0 u.h.params.lines
      rw [hp]
      exact hpend
    · change u.h.params.Positive
      rw [hp]
      exact hs.params
    · rfl

theorem awaitFirstRows_closing (env : Env) (hs : s.Closing) :
    wp (awaitFirstRows env) (fun r t => (∀ st, r ≠ .ok (some st)) ∧ (r = .ok none → t.Blank)) s := by
  refine wp_awaitFirstRows (fun t => t.Closing ∨ t.Blank) (fun t ht hwait => ?_)
    (fun t ht hno => ⟨fun _ h => (by cases h), fun _ => ht.resolve_left fun hclosing => ?_⟩)
    (fun _ _ _ _ => ⟨fun _ h => (by cases h), fun h => by cases h⟩) (.inl hs)
  swap
  · exact hno ⟨hclosing.scanning, hclosing.page.2.1, by rw [hclosing.eof]; decide⟩
  have hclosing : t.Closing := ht.resolve_right fun hblank => by
    have hscan := hwait.1
    rw [hblank.ended] at hscan
    cases hscan
  obtain ⟨fs, hi, hjob⟩ := hclosing.frames
  have hcut : ¬ t.PageCut false := by
    cases hjob with
    | jobEnd h => exact not_pageCut false hclosing.clean hi (by rw [h]; decide)
    | silent h _ =>
      exact not_pageCut false hclosing.clean hi fun hend => absurd (h.2.2.2 hend) (by decide)
  refine wp_mono (wp_and (takeFrame_atFrame env false true hclosing.clean hi hcut)
    (takeFrame_uses env false true t)) fun r u ⟨hu, hsched⟩ => ?_
  have hc : u.inp.Clean := hclosing.clean.suffix hsched.1
  -- Nothing but silent frames may come before the end of the job.
  match r, hu with
  | .error _, _ => exact ⟨fun _ h => (by cases h), fun h => by cases h⟩
  | .ok (.aborted _), ⟨f, gs, hfs, hcmd⟩ =>
    subst hfs
    cases hjob with
    | jobEnd h => exact absurd (hcmd.symm.trans h) (by decide)
    | silent h _ => exact absurd hcmd h.2.1
  | .ok .idle, ⟨hi', hh⟩ =>
    left
    refine ⟨⟨hc, ?_, ?_, ?_, ?_, ?_, ?_⟩, ?_, ?_, fs, hi', hjob⟩ <;> rw [hh]
    exacts [hclosing.valid, hclosing.cancelled, hclosing.source, hclosing.scanning, hclosing.queue,
      hclosing.params, hclosing.page, hclosing.eof]
  | .ok .done, ⟨f, gs, hfs, hd⟩ =>
    subst hfs
    exact hd.closing hclosing hc hjob

/-- Behind the last page a start succeeds with a white page, or a transfer or the memory fails. -/
theorem saneStart_closing (env : Env) (hs : s.PageOver 0) :
    wp (saneStart env) (fun r t => (r = .ok () → t.Blank) ∧ ∀ e, r = .error e → e.Broken) s := by
  have hstart : saneStart env s = resumeJob env s := by
    rw [saneStart_settled env hs.valid, settled_of_not_cancelled hs.cancelled]
    unfold startSettled
    rw [bind_ok (a := s.host.h) (by rfl), if_pos hs.feeding]
  unfold wp
  rw [hstart]
  change wp (resumeJob env) (fun r t => (r = .ok () → t.Blank) ∧ ∀ e, r = .error e → e.Broken) s
  have hclosing : (s.onHandle Handle.resumed).Closing :=
    ⟨⟨hs.clean, hs.valid, hs.cancelled, hs.source, hs.scanning, Nat.le_refl 0, hs.params⟩,
      ⟨rfl, rfl, rfl⟩, rfl, hs.frames⟩
  unfold resumeJob
  rw [wp_bind, wp_setHandle, after_ok, wp_bind]
  refine wp_mono (wp_and (awaitFirstRows_closing env hclosing) (fails_awaitFirstRows env _))
    fun r t ⟨⟨hno, hblank⟩, hbroken⟩ => ?_
  match r, hno, hblank, hbroken with
  | .error e, _, _, hbroken =>
    exact ⟨fun h => (by cases h), fun e' h => hbroken e' (congrArg _ (Except.error.inj h))⟩
  | .ok (some st), hno, _, _ => exact absurd rfl (hno st)
  | .ok none, _, hblank, _ =>
    have hblank := hblank rfl
    rw [after_ok]
    dsimp only
    rw [wp_bind, wp_getHandle, after_ok, wp_ite]
    refine ⟨fun hout => ?_, fun _ => ⟨fun _ => hblank, fun _ h => by cases h⟩⟩
    have hlen := congrArg List.length hblank.pending
    rw [Handle.pending, hout, List.drop_nil,
      concatRange_length fun _ _ _ => t.host.h.params.whiteLine_length] at hlen
    exact absurd hlen (Nat.mul_pos hblank.params.lines hblank.params.bytesPerLine).ne

/-- What a feeder job is expected to end with: no further page, and not a byte of one. -/
def EndsOutOfDocs (env : Env) (s : Session) : Prop :=
  (saneStart env s).1 = .error .noDocs ∧ (saneStart env s).2.host.h.pending = []

/-- No feeder job ends as expected. Behind its last page a start succeeds once more and hands out a
page of white, unless a transfer or the memory fails. -/
theorem feederJob_not_endsOutOfDocs (env : Env) {k : Nat} (hk : 0 < k) {s t : Session}
    (hs : FeederJob env k s) (hread : PagesRead env k s t) :
    ¬ EndsOutOfDocs env t ∧
      ((saneStart env t).1 = .ok () →
        (saneStart env t).2.host.h.pending =
          concatRange (fun _ => (saneStart env t).2.host.h.params.whiteLine) 0
            (saneStart env t).2.host.h.params.lines) ∧
      ∀ e, (saneStart env t).1 = .error e → e.Broken := by
  have hclose := saneStart_closing env (hs.pageOver hk hread)
  unfold wp at hclose
  refine ⟨fun ⟨hdocs, _⟩ => ?_, fun hok => (hclose.1 hok).pending, hclose.2⟩
  obtain h | h | h := hclose.2 _ hdocs <;> cases h

/-- One sheet in the feeder: the device answers the handshake, sends a block of one row, ends the
page and then the job. -/
def sheetFrames : List WireFrame :=
  [.ofHost ⟨evtData, [0, 0, 1, 1, 1, 0].flatMap putBe32 ++ [7]⟩ (by decide),
    .ofHost ⟨evtPageEnd, []⟩ (by decide), .ofHost ⟨evtJobEnd, []⟩ (by decide)]

def oneSheet : Session where
  host :=
    { h := { Handle.zero with
        val := ⟨some .gray, 75, some .adf, 0, 0, 0, 0, 0, 0⟩
        hasAdf := true }
      valid := true, allocs := [], ditherReady := false }
  inp :=
    { inStream := HostFrame.encode ⟨cmdLock, []⟩ ++ (HostFrame.encode ⟨cmdAdfStatus, []⟩).set 11 1 ++
        HostFrame.encode ⟨cmdSetDefaults, []⟩ ++
        HostFrame.encode ⟨cmdGetSettings, List.replicate pantumSettingsLen 0⟩ ++
        HostFrame.encode ⟨cmdSetSettings, []⟩ ++ HostFrame.encode ⟨cmdStart, []⟩ ++
        encodeAll sheetFrames
      inSched := List.replicate 20 ⟨.success, 200⟩ }
  outp := ⟨List.replicate 20 ⟨.success, 200⟩, [], []⟩

def oneSheetRead : Session :=
  (saneRead plainEnv 4096 (runCalls plainEnv [.read 4096] (saneStart plainEnv oneSheet).2).2).2

theorem oneSheet_feederJob : FeederJob plainEnv 1 oneSheet where
  source := rfl
  idle := rfl
  clean := by
    unfold Inp.Clean
    decide
  frames := ⟨sheetFrames, by unfold Inp.AtFrame; decide +kernel,
    .page (.frame (.inl (by decide)) (.pageEnd (by decide))) (.jobEnd (by decide))⟩

theorem oneSheet_pagesRead : PagesRead plainEnv 1 oneSheet oneSheetRead :=
  have hstart : saneStart plainEnv oneSheet = (.ok (), (saneStart plainEnv oneSheet).2) :=
    eq_ok (by decide +kernel)
  have hawait : AwaitTidy plainEnv (oneSheet.awaiting plainEnv) := by decide +kernel
  have htidy : TidyCalls plainEnv [] ([.read 4096] ++ [.read 4096]) (saneStart plainEnv oneSheet).2 :=
    ⟨fun _ _ _ => by decide +kernel, fun _ _ _ => by decide +kernel, trivial⟩
  have hok : ∀ r ∈ (runCalls plainEnv [.read 4096] (saneStart plainEnv oneSheet).2).1, r.isOk := by
    decide +kernel
  have heof : (saneRead plainEnv 4096
      (runCalls plainEnv [.read 4096] (saneStart plainEnv oneSheet).2).2).1 = .error .eof := by
    decide +kernel
  .page hstart hawait (by decide) htidy hok heof .none

theorem feederJob_not_endsOutOfDocs_oneSheet : ¬ EndsOutOfDocs plainEnv oneSheetRead :=
  (feederJob_not_endsOutOfDocs plainEnv (by decide) oneSheet_feederJob oneSheet_pagesRead).1

/-- With one sheet in the feeder two starts succeed. -/
theorem feederJob_endsOutOfDocs_false : ¬ ∀ env k s t, 0 < k → FeederJob env k s →
    PagesRead env k s t → EndsOutOfDocs env t := by
  intro h
  have hdocs := (h plainEnv 1 oneSheet oneSheetRead (by decide) oneSheet_feederJob
    oneSheet_pagesRead).1
  have hgood : (saneStart plainEnv oneSheetRead).1 = .ok () := by decide +kernel
  exact absurd (hgood.symm.trans hdocs) (by decide)

end PantumOpen.Scan
