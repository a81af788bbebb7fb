import PantumOpen.Print.PagePlan

/-! The page loop over a whole raster stream: what each of the files holds when it ends. -/

namespace PantumOpen.Print
open Prog Stdio

variable {env : Env} {opt : JobOptions}

/-- The job after the pages `done`, with the raster at `raster` and `polls` tests of `job_cancelled`
behind it. -/
structure AtPage (env : Env) (opt : JobOptions) (s₀ : Filter) (done : List RasterPage)
    (raster : Raster) (polls : Nat) (s : Filter) : Prop where
  raster : s.raster = raster
  running : s.cancelled = false
  quiet : s.stdout.interrupted = false
  arrivals : s.arrivals = s₀.arrivals.drop polls
  stdout : writeAll (sinkBlocks env opt .stdout done).flatten s₀.stdout = (.ok (), s.stdout)
  fronts : s.fronts.Spooled (sinkBlocks env opt .fronts done)
  backs : s.backs.Spooled (sinkBlocks env opt .backs done)
  log : s.pageLines = s₀.pageLines ++ linesOf done

structure Fresh (s : Filter) : Prop where
  running : s.cancelled = false
  quiet : s.stdout.interrupted = false
  fronts : s.fronts = {}
  backs : s.backs = {}

theorem Fresh.atPage {s : Filter} (h : Fresh s) : AtPage env opt s [] s.raster 0 s where
  raster := rfl
  running := h.running
  quiet := h.quiet
  arrivals := rfl
  stdout := by
    have hnil : (sinkBlocks env opt .stdout []).flatten = [] := by
      cases hd : opt.manualDuplex <;> simp [sinkBlocks, sinkPages, hd]
    rw [hnil, writeAll_nil]
    rfl
  fronts := by
    have hnil : sinkBlocks env opt .fronts [] = [] := by
      cases hd : opt.manualDuplex <;> simp [sinkBlocks, sinkPages, odds, hd]
    rw [h.fronts, hnil]
    exact PageSpool.spooled_empty
  backs := by
    have hnil : sinkBlocks env opt .backs [] = [] := by
      cases hd : opt.manualDuplex <;> simp [sinkBlocks, sinkPages, evens, hd]
    rw [h.backs, hnil]
    exact PageSpool.spooled_empty
  log := (List.append_nil _).symm

theorem jobCancelled_eq {s : Filter} (hrun : s.cancelled = false) (hquiet : s.stdout.interrupted = false) :
    jobCancelled s = (.ok (s.arrivals.headD false),
      { s with cancelled := s.arrivals.headD false, arrivals := s.arrivals.tail }) := by
  unfold jobCancelled
  rw [hrun, hquiet]
  rfl

section
variable {s₀ s : Filter} {done : List RasterPage} {p : RasterPage} {raster : Raster} {polls : Nat}

theorem AtPage.next_arrival (h : AtPage env opt s₀ done raster polls s) :
    s.arrivals.headD false = s₀.arrivals.getD polls false := by
  rw [h.arrivals]
  simp [List.headD_eq_head?_getD, List.getD_eq_getElem?_getD]

theorem AtPage.poll (h : AtPage env opt s₀ done raster polls s)
    (hno : s₀.arrivals.getD polls false = false) :
    ∃ t, jobCancelled s = (.ok false, t) ∧ t.files = s.files ∧
      AtPage env opt s₀ done raster (polls + 1) t := by
  have hnext := h.next_arrival
  rw [hno] at hnext
  have hpoll := jobCancelled_eq h.running h.quiet
  rw [hnext] at hpoll
  refine ⟨_, hpoll, rfl, h.raster, rfl, h.quiet, ?_, h.stdout, h.fronts, h.backs, h.log⟩
  change s.arrivals.tail = _
  rw [h.arrivals, List.tail_drop]

theorem AtPage.poll_cancelled (h : AtPage env opt s₀ done raster polls s)
    (hyes : s₀.arrivals.getD polls false = true) :
    ∃ t, jobCancelled s = (.ok true, t) ∧ t.cancelled = true ∧ t.files = s.files := by
  have hnext := h.next_arrival
  rw [hyes] at hnext
  have hpoll := jobCancelled_eq h.running h.quiet
  rw [hnext] at hpoll
  exact ⟨_, hpoll, rfl, rfl⟩

theorem AtPage.readHeader (h : AtPage env opt s₀ done raster polls s) (next : Raster) :
    AtPage env opt s₀ done next polls { s with raster := next } :=
  ⟨rfl, h.running, h.quiet, h.arrivals, h.stdout, h.fronts, h.backs, h.log⟩

end

section
variable {s₀ s : Filter} {done : List RasterPage} {p : RasterPage} {rest : List RasterPage} {polls : Nat}

def Filter.announce (s : Filter) (page : UInt32) (hdr : PageHeader) : Filter :=
  { s with log := s.log ++ [.page page hdr.copies] ++ [.info s!"Rendering page {page}"] }

theorem announce_pageLines (s : Filter) (page : UInt32) (hdr : PageHeader) :
    (s.announce page hdr).pageLines = s.pageLines ++ [(page, hdr.copies)] := by
  simp [Filter.announce, Filter.pageLines, Diagnostic.pageLine, List.filterMap_append]

theorem printPage_error {prog : Progress} {hdr : PageHeader} {s t : Filter}
    (h : renderPage env (prog.page + 1) (pageSink opt (prog.page + 1)) hdr opt
      (s.announce (prog.page + 1) hdr) = (.error (), t)) :
    ∃ st q t', printPage env opt prog hdr s = (.ok (.inr (st, q)), t') ∧
      (st ≠ 0 ∨ t'.cancelled = true) ∧ t'.files = t.files := by
  have hstart : zoom (Filter.file (pageSink opt (prog.page + 1))) (ftell (ε := Unit))
      (s.announce (prog.page + 1) hdr) = (.ok ((Filter.file (pageSink opt (prog.page + 1))).get
        (s.announce (prog.page + 1) hdr)).pos, s.announce (prog.page + 1) hdr) :=
    Prod.ext rfl ((Filter.file _).set_get _)
  have hrender : attempt (renderPage env (prog.page + 1) (pageSink opt (prog.page + 1)) hdr opt)
      (s.announce (prog.page + 1) hdr) = (.ok (.error ()), t) := by
    simp only [attempt, h]
  unfold printPage
  rw [msg_bind, msg_bind]
  unfold Filter.announce at hstart hrender
  dsimp only at hstart hrender ⊢
  rw [bind_ok hstart, bind_ok hrender]
  dsimp only
  rcases hc : jobCancelled t with ⟨_ | c, t'⟩
  · exact absurd hc (by simp [jobCancelled])
  · rw [bind_ok hc]
    have hfiles : t'.files = t.files ∧ t'.cancelled = c := by
      unfold jobCancelled at hc
      obtain ⟨hc1, rfl⟩ := Prod.mk.inj hc
      exact ⟨rfl, Except.ok.inj hc1⟩
    cases c
    · exact ⟨1, _, t', rfl, .inl one_ne_zero, hfiles.1⟩
    · exact ⟨0, _, t', rfl, .inr hfiles.2, hfiles.1⟩

theorem printPage_rendered {prog : Progress} {hdr : PageHeader} {s t : Filter}
    (h : renderPage env (prog.page + 1) (pageSink opt (prog.page + 1)) hdr opt
      (s.announce (prog.page + 1) hdr) = (.ok (), t)) {r : Except Unit Unit} {u : Filter}
    (hmark : markPage env (prog.page + 1) (pageSink opt (prog.page + 1))
      ((Filter.file (pageSink opt (prog.page + 1))).get s).pos t = (r, u)) :
    (r = .ok () → printPage env opt prog hdr s = (.ok (.inl ⟨prog.page + 1, hdr⟩), u)) ∧
    (r = .error () → ∃ t', printPage env opt prog hdr s =
      (.ok (.inr (1, { prog with page := prog.page + 1 })), t') ∧ t'.files = u.files) := by
  have hpos : ((Filter.file (pageSink opt (prog.page + 1))).get (s.announce (prog.page + 1) hdr)).pos =
      ((Filter.file (pageSink opt (prog.page + 1))).get s).pos := by
    cases pageSink opt (prog.page + 1) <;> rfl
  have hstart : zoom (Filter.file (pageSink opt (prog.page + 1))) (ftell (ε := Unit))
      (s.announce (prog.page + 1) hdr) = (.ok ((Filter.file (pageSink opt (prog.page + 1))).get s).pos,
        s.announce (prog.page + 1) hdr) :=
    Prod.ext (congrArg Except.ok hpos) ((Filter.file _).set_get _)
  have hrender : attempt (renderPage env (prog.page + 1) (pageSink opt (prog.page + 1)) hdr opt)
      (s.announce (prog.page + 1) hdr) = (.ok (.ok ()), t) := by
    simp only [attempt, h]
  have hattempt : attempt (markPage env (prog.page + 1) (pageSink opt (prog.page + 1))
      ((Filter.file (pageSink opt (prog.page + 1))).get s).pos) t = (.ok r, u) := by
    simp only [attempt, hmark]
  unfold printPage
  rw [msg_bind, msg_bind]
  unfold Filter.announce at hstart hrender
  dsimp only at hstart hrender ⊢
  rw [bind_ok hstart, bind_ok hrender]
  dsimp only
  rw [bind_ok hattempt]
  constructor
  · rintro rfl
    rfl
  · rintro rfl
    exact ⟨_, rfl, rfl⟩

theorem putBlock_ok {k : Sink} {bs : List UInt8} {s : Filter} {f : File}
    (h : writeAll bs ((Filter.file k).get s) = (.ok (), f)) :
    putBlock env k bs s = (.ok (), (Filter.file k).set f s) := by
  have hput : attempt (zoom (Filter.file k) (writeAll bs)) s =
      (.ok (.ok ()), (Filter.file k).set f s) := by
    simp only [attempt, zoom, h]
  unfold putBlock
  rw [bind_ok hput]
  rfl

theorem putBlock_error {k : Sink} {bs : List UInt8} {s : Filter} {f : File}
    (h : writeAll bs ((Filter.file k).get s) = (.error (), f)) :
    ∃ e, putBlock env k bs s = (.error (), { (Filter.file k).set f s with
      log := ((Filter.file k).set f s).log ++ [.error e] }) := by
  have hput : attempt (zoom (Filter.file k) (writeAll bs)) s =
      (.ok (.error ()), (Filter.file k).set f s) := by
    simp only [attempt, zoom, h]
  unfold putBlock
  rw [bind_ok hput]
  exact ⟨_, rfl⟩

def Filter.setSpool : Sink → PageSpool → Filter → Filter
  | .stdout, _, s => s
  | .fronts, sp, s => { s with fronts := sp }
  | .backs, sp, s => { s with backs := sp }

theorem putBlock_spool {k : Sink} (hk : k ≠ .stdout) {s : Filter} {bs : List (List UInt8)}
    (h : (s.spool k).Spooled bs) (b : List UInt8) :
    putBlock env k b s =
      (.ok (), s.setSpool k { s.spool k with fp := (s.spool k).fp.put b }) := by
  have hwrite : writeAll b ((Filter.file k).get s) = (.ok (), (s.spool k).fp.put b) := by
    rw [spool_file hk]
    exact writeAll_none h.cut b
  rw [putBlock_ok hwrite]
  cases k
  · exact absurd rfl hk
  · rfl
  · rfl

theorem markPage_spool {k : Sink} (hk : k ≠ .stdout) (page : UInt32) (start : Nat) (s : Filter)
    {sp sp' : PageSpool} {r : Except Unit Unit}
    (h : spoolMark (env.allocs page).slots start sp = (r, sp')) :
    markPage env page k start (s.setSpool k sp) = (r, s.setSpool k sp') := by
  cases k
  · exact absurd rfl hk
  · simp only [markPage, zoom, Filter.frontsLens, Filter.setSpool, h]
  · simp only [markPage, zoom, Filter.backsLens, Filter.setSpool, h]

theorem sinkBlocks_length {k : Sink} (hd : opt.manualDuplex = true)
    (hk : pageSink opt (pageNumber done.length) = k) :
    (sinkBlocks env opt k done).length = done.length / 2 := by
  obtain ⟨hodds, hevens⟩ := odds_evens_length done
  rw [pageSink_number, hd, if_pos rfl] at hk
  unfold sinkBlocks
  rw [List.length_map]
  split at hk
  · subst hk
    simp only [sinkPages, hd, if_true, hodds]
    omega
  · subst hk
    simp only [sinkPages, hd, if_true, hevens]

theorem AtPage.print_stdout (hd : opt.manualDuplex = false)
    (h : AtPage env opt s₀ done ⟨p.lines, rest⟩ polls s) (hp : Prints env opt done.length p) :
    (∃ t, printPage env opt (progressAfter done) p.hdr s =
        (.ok (.inl (progressAfter (done ++ [p]))), t) ∧
      AtPage env opt s₀ (done ++ [p]) ⟨[], rest⟩ polls t) ∨
    (∃ st q t, printPage env opt (progressAfter done) p.hdr s = (.ok (.inr (st, q)), t) ∧
      (st ≠ 0 ∨ t.cancelled = true) ∧
      writeAll (sinkBlocks env opt .stdout (done ++ [p])).flatten s₀.stdout = (.error (), t.stdout)) := by
  have hnum := progressAfter_next done
  have hk : pageSink opt (pageNumber done.length) = .stdout := by
    rw [pageSink_number, hd]
    rfl
  have hblocks : (sinkBlocks env opt .stdout (done ++ [p])).flatten =
      (sinkBlocks env opt .stdout done).flatten ++ blockBytes env opt p := by
    rw [sinkBlocks_append, hk, if_pos rfl, List.flatten_append, List.flatten_singleton]
  have hfronts : sinkBlocks env opt .fronts (done ++ [p]) = sinkBlocks env opt .fronts done := by
    rw [sinkBlocks_append, hk, if_neg (by decide), List.append_nil]
  have hbacks : sinkBlocks env opt .backs (done ++ [p]) = sinkBlocks env opt .backs done := by
    rw [sinkBlocks_append, hk, if_neg (by decide), List.append_nil]
  have hwrite := writeAll_append_ok h.stdout (blockBytes env opt p)
  have hrender := renderPage_block (k := .stdout) hp.renders
    (s := s.announce (pageNumber done.length) p.hdr) (congrArg Raster.lines h.raster)
  set s₁ : Filter := { s.announce (pageNumber done.length) p.hdr with
    raster := ⟨[], (s.announce (pageNumber done.length) p.hdr).raster.pages⟩ }
  -- Nothing is written of a page that is not rendered, so its block counts as one write.
  rcases hw : writeAll (blockBytes env opt p) s.stdout with ⟨⟨⟩ | ⟨⟩, f⟩
  · right
    obtain ⟨e, he⟩ := @putBlock_error env .stdout _ s₁ _ hw
    obtain ⟨st, q, t', hprint, hwhy, hfiles⟩ := @printPage_error env opt
      (progressAfter done) p.hdr s _ (by
        rw [hnum, hk]
        exact hrender.trans he)
    have hout : t'.stdout = f := congrArg Prod.fst hfiles
    exact ⟨st, q, t', hprint, hwhy, by rw [hblocks, hwrite, hw, hout]⟩
  · left
    have hput := @putBlock_ok env .stdout _ s₁ _ hw
    have hrendered : renderPage env ((progressAfter done).page + 1)
        (pageSink opt ((progressAfter done).page + 1)) p.hdr opt
        (s.announce ((progressAfter done).page + 1) p.hdr) = (.ok (), (Filter.file .stdout).set f s₁) := by
      rw [hnum, hk]
      exact hrender.trans hput
    have hmarked : markPage env ((progressAfter done).page + 1)
        (pageSink opt ((progressAfter done).page + 1))
        ((Filter.file (pageSink opt ((progressAfter done).page + 1))).get s).pos
        ((Filter.file .stdout).set f s₁) = (.ok (), (Filter.file .stdout).set f s₁) := by
      rw [hnum, hk]
      rfl
    obtain ⟨hprint, -⟩ := printPage_rendered hrendered hmarked
    rw [hnum, ← progressAfter_append] at hprint
    have hquiet : f.interrupted = false := by
      have hint := writeAll_interrupted (blockBytes env opt p) s.stdout
      rw [hw, h.quiet] at hint
      exact Bool.eq_false_iff.mpr fun hyes => by simpa using hint.mp hyes
    refine ⟨_, hprint rfl, ?_, h.running, hquiet, h.arrivals, ?_, ?_, ?_, ?_⟩
    · exact congrArg (fun r : Raster => Raster.mk [] r.pages) h.raster
    · rw [hblocks, hwrite, hw]
      rfl
    · rw [hfronts]
      exact h.fronts
    · rw [hbacks]
      exact h.backs
    · rw [linesOf_append, ← List.append_assoc, ← h.log]
      exact announce_pageLines s (pageNumber done.length) p.hdr

theorem AtPage.spooled {k : Sink} (hk : k ≠ .stdout) {raster : Raster}
    (h : AtPage env opt s₀ done raster polls s) : (s.spool k).Spooled (sinkBlocks env opt k done) := by
  cases k
  · exact absurd rfl hk
  · exact h.fronts
  · exact h.backs

theorem AtPage.print_spool (hd : opt.manualDuplex = true)
    (h : AtPage env opt s₀ done ⟨p.lines, rest⟩ polls s)
    (hr : Renders env opt (pageNumber done.length) p) :
    (Prints env opt done.length p → ∃ t, printPage env opt (progressAfter done) p.hdr s =
        (.ok (.inl (progressAfter (done ++ [p]))), t) ∧
      AtPage env opt s₀ (done ++ [p]) ⟨[], rest⟩ polls t) ∧
    (¬ Prints env opt done.length p → ∃ q t, printPage env opt (progressAfter done) p.hdr s =
        (.ok (.inr (1, q)), t) ∧ t.stdout = s.stdout) := by
  have hnum := progressAfter_next done
  obtain ⟨k, hk, hks⟩ : ∃ k, pageSink opt (pageNumber done.length) = k ∧ k ≠ .stdout := by
    rw [pageSink_number, hd, if_pos rfl]
    split
    · exact ⟨_, rfl, by decide⟩
    · exact ⟨_, rfl, by decide⟩
  have hlen := @sinkBlocks_length env opt _ _ hd hk
  have hspool := h.spooled hks
  have hrender := renderPage_block (k := k) hr
    (s := s.announce (pageNumber done.length) p.hdr) (congrArg Raster.lines h.raster)
  set s₁ : Filter := { s.announce (pageNumber done.length) p.hdr with
    raster := ⟨[], (s.announce (pageNumber done.length) p.hdr).raster.pages⟩ } with hs₁
  have hsame : s₁.spool k = s.spool k := by cases k <;> rfl
  have hput := @putBlock_spool env _ hks s₁ _ (hsame ▸ hspool) (blockBytes env opt p)
  rw [hsame] at hput
  have hstart : ((Filter.file k).get s).pos = (s.spool k).fp.pos := by rw [spool_file hks]
  have hout (sp : PageSpool) : (s₁.setSpool k sp).stdout = s.stdout := by cases k <;> rfl
  have hrendered : renderPage env ((progressAfter done).page + 1)
      (pageSink opt ((progressAfter done).page + 1)) p.hdr opt
      (s.announce ((progressAfter done).page + 1) p.hdr) =
        (.ok (), s₁.setSpool k { s.spool k with fp := (s.spool k).fp.put (blockBytes env opt p) }) := by
    rw [hnum, hk]
    exact hrender.trans hput
  have hmarked {r : Except Unit Unit} {sp : PageSpool}
      (hmark : spoolMark (env.allocs (pageNumber done.length)).slots (s.spool k).fp.pos
        { s.spool k with fp := (s.spool k).fp.put (blockBytes env opt p) } = (r, sp)) :
      markPage env ((progressAfter done).page + 1) (pageSink opt ((progressAfter done).page + 1))
        ((Filter.file (pageSink opt ((progressAfter done).page + 1))).get s).pos
        (s₁.setSpool k { s.spool k with fp := (s.spool k).fp.put (blockBytes env opt p) }) =
          (r, s₁.setSpool k sp) := by
    rw [hnum, hk, hstart]
    exact markPage_spool hks (pageNumber done.length) _ s₁ hmark
  -- The spool has room for the mark of the page, or it could not get it.
  refine ⟨fun hp => ?_, fun hp => ?_⟩
  · obtain ⟨sp, hmark, hsp⟩ := @PageSpool.Spooled.mark _ _ hspool (blockBytes env opt p)
      (env.allocs (pageNumber done.length)).slots (by rw [hlen]; exact hp.marks hd)
    obtain ⟨hprint, -⟩ := printPage_rendered hrendered (hmarked hmark)
    rw [hnum, ← progressAfter_append] at hprint
    refine ⟨_, hprint rfl, ?_⟩
    have hblocks := @sinkBlocks_append env opt k done p
    rw [if_pos hk] at hblocks
    have hothers (k' : Sink) (hk' : k' ≠ k) :
        sinkBlocks env opt k' (done ++ [p]) = sinkBlocks env opt k' done := by
      rw [sinkBlocks_append, if_neg fun he => hk' (he.symm.trans hk), List.append_nil]
    have hraster : s₁.raster = ⟨[], rest⟩ :=
      congrArg (fun r : Raster => Raster.mk [] r.pages) h.raster
    have hlog : s₁.pageLines = s₀.pageLines ++ linesOf (done ++ [p]) := by
      rw [linesOf_append, ← List.append_assoc, ← h.log]
      exact announce_pageLines s (pageNumber done.length) p.hdr
    have hstdout : writeAll (sinkBlocks env opt .stdout (done ++ [p])).flatten s₀.stdout =
        (.ok (), s.stdout) := by
      rw [hothers .stdout hks.symm]
      exact h.stdout
    cases k with
    | stdout => exact absurd rfl hks
    | fronts =>
      refine ⟨hraster, h.running, h.quiet, h.arrivals, hstdout, ?_, ?_, hlog⟩
      · rw [hblocks]
        exact hsp
      · rw [hothers .backs (by decide)]
        exact h.backs
    | backs =>
      refine ⟨hraster, h.running, h.quiet, h.arrivals, hstdout, ?_, ?_, hlog⟩
      · rw [hothers .fronts (by decide)]
        exact h.fronts
      · rw [hblocks]
        exact hsp
  · have hroom : marks (env.allocs (pageNumber done.length)).slots (done.length / 2) = false :=
      Bool.eq_false_iff.mpr fun hyes => hp ⟨hr, fun _ => hyes⟩
    obtain ⟨sp, hmark⟩ := @PageSpool.Spooled.mark_error _ _ hspool (blockBytes env opt p)
      (env.allocs (pageNumber done.length)).slots (by rw [hlen]; exact hroom)
    obtain ⟨-, hprint⟩ := printPage_rendered hrendered (hmarked hmark)
    obtain ⟨t, ht, hfiles⟩ := hprint rfl
    exact ⟨_, t, ht, (congrArg Prod.fst hfiles).trans (hout sp)⟩

theorem AtPage.not_printed (h : AtPage env opt s₀ done ⟨p.lines, rest⟩ polls s)
    (hacc : p.hdr.accepted = true) (hp : ¬ Prints env opt done.length p) :
    ∃ st q t, printPage env opt (progressAfter done) p.hdr s = (.ok (.inr (st, q)), t) ∧
      (st ≠ 0 ∨ t.cancelled = true) ∧ t.stdout = s.stdout := by
  by_cases hr : Renders env opt (pageNumber done.length) p
  · have hd : opt.manualDuplex = true :=
      Bool.eq_true_of_not_eq_false fun hd => hp ⟨hr, fun h => by simp [hd] at h⟩
    obtain ⟨q, t, ht, hout⟩ := (h.print_spool hd hr).2 hp
    exact ⟨1, q, t, ht, .inl one_ne_zero, hout⟩
  · obtain ⟨t, ht, hfiles⟩ := renderPage_error (k := pageSink opt (pageNumber done.length)) hacc hr
      (s := s.announce (pageNumber done.length) p.hdr) (congrArg Raster.lines h.raster)
    obtain ⟨st, q, t', hprint, hwhy, hfiles'⟩ := @printPage_error env opt
      (progressAfter done) p.hdr s t (by
        rw [progressAfter_next]
        exact ht)
    exact ⟨st, q, t', hprint, hwhy, congrArg Prod.fst (hfiles'.trans hfiles)⟩

end

/-! ### The loop -/

section
variable {s₀ s : Filter} {pages : List RasterPage}

/-- The loop has ended before the stream was printed, with what there was to print until then, or as
much of it as got through, on standard output. -/
structure Ended (env : Env) (opt : JobOptions) (s₀ : Filter) (pages : List RasterPage) (st : Nat)
    (t : Filter) : Prop where
  why : st ≠ 0 ∨ t.cancelled = true
  stdout : t.stdout =
    (writeAll (sinkBlocks env opt .stdout (printed env opt s₀.arrivals 0 pages)).flatten s₀.stdout).2
  early : finishes env opt s₀.arrivals pages = true →
    (writeAll (sinkBlocks env opt .stdout pages).flatten s₀.stdout).1 = .error ()

structure Finished (env : Env) (opt : JobOptions) (s₀ : Filter) (pages : List RasterPage)
    (t : Filter) : Prop where
  finishes : finishes env opt s₀.arrivals pages = true
  state : AtPage env opt s₀ pages ⟨[], []⟩ (pages.length + 1) t

def LoopEnd (env : Env) (opt : JobOptions) (s₀ : Filter) (pages : List RasterPage)
    (r : Except Unit (Nat × Progress)) (t : Filter) : Prop :=
  (r = .ok (0, progressAfter pages) ∧ Finished env opt s₀ pages t) ∨
    ∃ st q, r = .ok (st, q) ∧ Ended env opt s₀ pages st t

/-- The loop before page `done.length`, all pages up to there printed. -/
structure Before (env : Env) (opt : JobOptions) (s₀ : Filter) (pages done rest : List RasterPage)
    (s : Filter) : Prop where
  stream : pages = done ++ rest
  state : AtPage env opt s₀ done ⟨[], rest⟩ done.length s
  plan : printed env opt s₀.arrivals 0 pages =
    done ++ printed env opt (s₀.arrivals.drop done.length) done.length rest

theorem Before.stopped {done rest : List RasterPage} (h : Before env opt s₀ pages done rest s)
    (hrest : printed env opt (s₀.arrivals.drop done.length) done.length rest = [])
    (hend : rest = [] → s₀.arrivals.getD done.length false = true) {st : Nat} {t : Filter}
    (hwhy : st ≠ 0 ∨ t.cancelled = true) (hout : t.stdout = s.stdout) :
    Ended env opt s₀ pages st t := by
  have hdone := h.plan
  rw [hrest, List.append_nil] at hdone
  refine ⟨hwhy, ?_, fun hfin => ?_⟩
  · rw [hdone, h.state.stdout, hout]
  · obtain ⟨hall, hno⟩ := finishes_iff.mp hfin
    have hnil : rest = [] := by
      have heq : done ++ rest = done := by rw [← h.stream, ← hall, hdone]
      simpa using heq
    have hlen : pages.length = done.length := by rw [h.stream, hnil, List.append_nil]
    rw [hlen, hend hnil] at hno
    exact absurd hno (by decide)

theorem headD_drop (l : List Bool) (n : Nat) : (l.drop n).headD false = l.getD n false := by
  simp [List.headD_eq_head?_getD, List.getD_eq_getElem?_getD]

theorem Before.round {done rest : List RasterPage} (h : Before env opt s₀ pages done rest s) :
    wp (pageRound env opt (progressAfter done)) (Round (fun prog t => ∃ p rest', rest = p :: rest' ∧
      prog = progressAfter (done ++ [p]) ∧ Before env opt s₀ pages (done ++ [p]) rest' t)
      (LoopEnd env opt s₀ pages)) s := by
  have hcancel : s₀.arrivals.getD done.length false = true →
      printed env opt (s₀.arrivals.drop done.length) done.length rest = [] := by
    intro hyes
    cases rest with
    | nil => rfl
    | cons p rest => exact printed_stop (.inl (by rw [headD_drop, hyes]))
  -- A signal that has come by now is seen before the next header is read.
  by_cases hyes : s₀.arrivals.getD done.length false = true
  · obtain ⟨t, hpoll, hc, hfiles⟩ := h.state.poll_cancelled hyes
    have hround : pageRound env opt (progressAfter done) s = (.ok (.inr (0, progressAfter done)), t) := by
      unfold pageRound
      rw [bind_ok hpoll]
      rfl
    unfold wp
    rw [hround]
    exact .inr ⟨0, _, rfl, h.stopped (hcancel hyes) (fun _ => hyes) (.inr hc) (congrArg Prod.fst hfiles)⟩
  · have hno := Bool.eq_false_iff.mpr hyes
    obtain ⟨t, hpoll, hfiles, hat⟩ := h.state.poll hno
    have hpages := h.stream
    cases rest with
    | nil =>
      -- The end of the raster ends the job as it should.
      have hhdr : zoom Filter.rasterLens cupsRasterReadHeader2 t = (.ok none, t) := by
        simp only [zoom, Filter.rasterLens, hat.raster, cupsRasterReadHeader2]
        rw [← hat.raster]
      have hround : pageRound env opt (progressAfter done) s =
          (.ok (.inr (0, progressAfter done)), t) := by
        unfold pageRound
        rw [bind_ok hpoll]
        exact bind_ok hhdr
      obtain rfl : pages = done := hpages.trans (List.append_nil done)
      have hall := h.plan
      rw [printed, List.append_nil] at hall
      unfold wp
      rw [hround]
      exact .inl ⟨rfl, finishes_iff.mpr ⟨hall, hno⟩, hat⟩
    | cons p rest =>
      have hhdr : zoom Filter.rasterLens cupsRasterReadHeader2 t =
          (.ok (some p.hdr), { t with raster := ⟨p.lines, rest⟩ }) := by
        simp only [zoom, Filter.rasterLens, hat.raster, cupsRasterReadHeader2]
      have hread := hat.readHeader ⟨p.lines, rest⟩
      have hfail (st : Nat) (q : Progress) (u : Filter) (hp : ¬ Prints env opt done.length p)
          (hwhy : st ≠ 0 ∨ u.cancelled = true) (hout : u.stdout = s.stdout) :
          LoopEnd env opt s₀ pages (.ok (st, q)) u :=
        .inr ⟨st, q, rfl, h.stopped (printed_stop (.inr hp)) (fun h => by cases h) hwhy hout⟩
      have hsame : t.stdout = s.stdout := congrArg Prod.fst hfiles
      by_cases hacc : p.hdr.accepted = true
      · have hformat : (!p.hdr.formatOk) = false ∧ (!p.hdr.spaceOk) = false := by
          unfold PageHeader.accepted at hacc
          simpa using hacc
        have hround : pageRound env opt (progressAfter done) s =
            printPage env opt (progressAfter done) p.hdr { t with raster := ⟨p.lines, rest⟩ } := by
          unfold pageRound
          rw [bind_ok hpoll]
          simp only [Bool.false_eq_true, if_false]
          rw [bind_ok hhdr]
          simp only [hformat.1, hformat.2, Bool.false_eq_true, if_false]
        unfold wp
        rw [hround]
        -- An accepted page is printed whole, cut off by stdout, or given up before it is written.
        by_cases hp : Prints env opt done.length p
        · have hnext (u : Filter) (hu : AtPage env opt s₀ (done ++ [p]) ⟨[], rest⟩ (done.length + 1) u) :
              Before env opt s₀ pages (done ++ [p]) rest u := by
            refine ⟨by rw [hpages, List.append_assoc, List.singleton_append], ?_, ?_⟩
            · rwa [List.length_append, List.length_singleton]
            · rw [h.plan, printed, if_pos ⟨by rw [headD_drop, hno], hp⟩, List.tail_drop,
                List.length_append, List.length_singleton, List.append_assoc, List.singleton_append]
          cases hd : opt.manualDuplex
          · rcases hread.print_stdout hd hp with ⟨u, hprint, hu⟩ | ⟨st, q, u, hprint, hwhy, hcut⟩
            · rw [hprint]
              exact ⟨p, rest, rfl, rfl, hnext u hu⟩
            · rw [hprint]
              have hall (more : List RasterPage) :
                  writeAll (sinkBlocks env opt .stdout (done ++ p :: more)).flatten s₀.stdout =
                    (.error (), u.stdout) := by
                have hblocks : (sinkBlocks env opt .stdout (done ++ p :: more)).flatten =
                    (sinkBlocks env opt .stdout (done ++ [p])).flatten ++
                      (more.map (blockBytes env opt)).flatten := by
                  simp [sinkBlocks_stdout, hd]
                rw [hblocks]
                exact writeAll_append_error hcut _
              refine .inr ⟨st, q, rfl, hwhy, ?_, fun _ => ?_⟩
              · rw [h.plan, printed, if_pos ⟨by rw [headD_drop, hno], hp⟩, hall]
              · rw [hpages, hall]
          · obtain ⟨u, hprint, hu⟩ := (hread.print_spool hd hp.renders).1 hp
            rw [hprint]
            exact ⟨p, rest, rfl, rfl, hnext u hu⟩
        · obtain ⟨st, q, u, hprint, hwhy, hout⟩ := hread.not_printed hacc hp
          rw [hprint]
          exact hfail st q u hp hwhy (hout.trans hsame)
      · have hp : ¬ Prints env opt done.length p := fun hp => hacc hp.renders.accepted
        have hround : ∃ u, pageRound env opt (progressAfter done) s =
            (.ok (.inr (1, progressAfter done)), u) ∧ u.stdout = s.stdout := by
          unfold pageRound
          rw [bind_ok hpoll]
          simp only [Bool.false_eq_true, if_false]
          rw [bind_ok hhdr]
          unfold PageHeader.accepted at hacc
          dsimp only
          by_cases hf : p.hdr.formatOk = true
          · have hs : (!p.hdr.spaceOk) = true := by simpa [hf] using hacc
            rw [if_neg (by simp [hf]), if_pos hs]
            exact ⟨_, rfl, hsame⟩
          · rw [if_pos (by simpa using hf)]
            exact ⟨_, rfl, hsame⟩
        obtain ⟨u, hround, hout⟩ := hround
        unfold wp
        rw [hround]
        exact hfail 1 _ u hp (.inl one_ne_zero) hout

/-- The loop, from the first page on. Every turn takes a page, so the turns are enough. -/
theorem pageLoop_end (hs : Fresh s) (hr : s.raster = ⟨[], pages⟩) :
    wp (pageLoop env opt) (LoopEnd env opt s pages) s := by
  have hstart : Before env opt s pages [] pages s := by
    refine ⟨rfl, ?_, rfl⟩
    have hat : AtPage env opt s [] s.raster 0 s := hs.atPage
    rwa [hr] at hat
  have hloop : wp (loop (pageRound env opt) (fun p => pure (0, p)) (pages.length + 1) {})
      (LoopEnd env opt s pages) s := by
    refine wp_loop_of_measure (fun prog t => ∃ done rest, prog = progressAfter done ∧
      Before env opt s pages done rest t) (fun _ t => t.raster.pages.length) ?_
      ⟨[], pages, rfl, hstart⟩ (by rw [hr]; exact Nat.lt_succ_self _)
    rintro _ t ⟨done, rest, rfl, h⟩
    apply wp_mono h.round
    intro r u hround
    match r, hround with
    | .ok (.inl prog), ⟨p, rest', hrest, hprog, hu⟩ =>
      refine ⟨⟨_, _, hprog, hu⟩, ?_⟩
      rw [hu.state.raster, h.state.raster, hrest]
      exact Nat.lt_succ_self _
    | .ok (.inr b), hend => exact hend
    | .error e, hend => exact hend
  unfold pageLoop
  rw [wp_bind, wp_gets, after_ok, hr]
  exact hloop

end

end PantumOpen.Print
