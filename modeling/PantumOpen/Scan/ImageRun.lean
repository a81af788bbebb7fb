import PantumOpen.Scan.PageRun
import PantumOpen.Scan.ParameterFreeze

/-! The image of a page as a function of the rows the device scans: however they are cut into
blocks and transfers, and however they are read, the frontend gets the same bytes. -/

namespace PantumOpen.Scan
open Prog Bytes Buffer

/-- The rows of a page as the device scans them, numbered from `first` on, with the samples of
`pixels` useful pixels in each. -/
structure Raster where
  first : Nat
  pixels : Nat
  rows : List (List UInt8)
  fits : first + rows.length ≤ 2 ^ 32

def Raster.pageRow (img : Raster) (env : Env) (h : Handle) (r : Nat) : List UInt8 :=
  if img.first ≤ r ∧ r < img.first + img.rows.length then
    (convertRow env h (ofList (img.rows.getD (r - img.first) [])) img.pixels r env.uninit).bytes
      h.params.bytesPerLine
  else h.params.whiteLine

/-- The rows a page has once `i` rows of `img` have been placed. -/
def Raster.placed (img : Raster) (lines i : Nat) : Nat := if i = 0 then 0 else min lines (img.first + i)

/-- A data block with the rows `i` to `j` of `img`. Its stride is any that has room for the useful
pixels. -/
structure WireFrame.Carries (f : WireFrame) (img : Raster) (planes i j : Nat) : Prop where
  cmd : f.cmd = evtData
  first : f.block.first = img.first + i
  rows : i + f.block.rows = j
  bound : j ≤ img.rows.length
  pixels : getBe32 f.payload 16 = img.pixels
  stride : planes * img.pixels ≤ f.block.stride
  content : ∀ r < f.block.rows,
    (f.block.raw.drop (r * f.block.stride)).take (planes * img.pixels) = img.rows.getD (i + r) []

/-- The frames of a page of which `i` rows have been sent: blocks that carry on where the last one
stopped, frames that leave the page alone, and the end of the page. -/
inductive PageShows (img : Raster) (planes : Nat) (adf : Bool) : Nat → List WireFrame → Prop
  | silent {i : Nat} {f : WireFrame} {fs : List WireFrame} (h : f.Silent adf)
      (t : PageShows img planes adf i fs) : PageShows img planes adf i (f :: fs)
  | data {i j : Nat} {f : WireFrame} {fs : List WireFrame} (h : f.Carries img planes i j)
      (t : PageShows img planes adf j fs) : PageShows img planes adf i (f :: fs)
  | ended {e : WireFrame} {fs : List WireFrame}
      (h : e.cmd = evtJobEnd ∨ (e.cmd = evtPageEnd ∧ adf = true)) :
      PageShows img planes adf img.rows.length (e :: fs)

variable {img : Raster} {env : Env} {h h₀ : Handle} {s t : Session}

theorem SameControl.sameRows {h' : Handle} (a : SameControl h h') : h'.SameRows h := by
  unfold SameControl at a
  rw [a]
  exact ⟨rfl, rfl, rfl, rfl, rfl, rfl, rfl, rfl⟩

theorem Handle.SameRows.pageRow (a : h.SameRows h₀) (img : Raster) (env : Env) :
    img.pageRow env h = img.pageRow env h₀ := by
  unfold Raster.pageRow
  rw [a.convertRow env, a.params]

theorem WireFrame.Carries.avail {f : WireFrame} {i j : Nat} {p : Parameters}
    (hf : f.Carries img p.planes i j) (hplanes : f.planes = p.planes) : f.block.avail = img.pixels := by
  have hpos : 0 < p.planes := by
    unfold Parameters.planes
    split <;> decide
  have hroom : img.pixels ≤ f.block.stride / p.planes :=
    (Nat.le_div_iff_mul_le hpos).mpr (by rw [Nat.mul_comm]; exact hf.stride)
  change min (f.block.stride / f.planes) (getBe32 f.payload 16) = img.pixels
  rw [hf.pixels, hplanes]
  exact Nat.min_eq_right hroom

theorem WireFrame.Carries.target {f : WireFrame} {planes i j : Nat} (hf : f.Carries img planes i j)
    (hpos : 0 < f.block.rows) (lines : Nat) :
    f.block.target lines (img.placed lines i) = img.placed lines j := by
  have hrows := hf.rows
  have hend : f.block.first + f.block.rows = img.first + j := by
    rw [hf.first, ← hrows, Nat.add_assoc]
  have hfits : img.first + j ≤ 2 ^ 32 := (Nat.add_le_add_left hf.bound _).trans img.fits
  unfold Block.target Raster.placed
  rw [hend, Nat.min_eq_left hfits, if_neg (show ¬ j = 0 by omega)]
  split_ifs <;> omega

theorem WireFrame.Carries.blockRow {f : WireFrame} {i j : Nat}
    (hf : f.Carries img h.params.planes i j) (hp : h.params.Layout)
    (hplanes : f.planes = h.params.planes) {r : Nat}
    (hlo : img.placed h.params.lines i ≤ r) (hhi : r < img.placed h.params.lines j) :
    blockRow env h f.block r = img.pageRow env h r := by
  have hfirst := hf.first
  have hrows := hf.rows
  have hbound := hf.bound
  unfold Raster.placed at hlo hhi
  unfold Scan.blockRow Raster.pageRow
  by_cases hr : img.first + i ≤ r
  · have hj : r < img.first + j := by
      split_ifs at hhi <;> omega
    rw [if_pos (by omega), if_pos (by omega), hf.avail hplanes]
    refine convertRow_bytes_congr ⟨rfl, rfl⟩ hp (fun k hk => ?_) r _ _
    have hk : k < h.params.planes * img.pixels :=
      Nat.lt_of_lt_of_le hk (Nat.mul_le_mul_left _ (Nat.min_le_left _ _))
    have hq : r - img.first = i + (r - f.block.first) := by omega
    rw [hq, ← hf.content _ (by omega)]
    simp only [ofList, shift, List.getD_eq_getElem?_getD, List.getElem?_take, List.getElem?_drop, hk,
      if_true]
  · have hi : i = 0 := by
      split_ifs at hlo hhi <;> omega
    rw [if_neg (by omega), if_neg (by omega)]

theorem Raster.pageRow_rest {r : Nat} (hlo : img.placed h.params.lines img.rows.length ≤ r)
    (hhi : r < h.params.lines) : img.pageRow env h r = h.params.whiteLine := by
  unfold Raster.pageRow
  rw [if_neg]
  unfold placed at hlo
  split_ifs at hlo <;> omega

theorem Raster.placed_le (lines i : Nat) : img.placed lines i ≤ lines := by
  unfold placed
  split_ifs <;> omega

/-- The part of a page that there is so far: it shows `img` through the handle `h₀`, and the bytes
`ds` of it have been delivered. -/
structure Session.Drawn (env : Env) (img : Raster) (h₀ : Handle) (ds : List UInt8) (s : Session) :
    Prop where
  clean : s.inp.Clean
  valid : s.host.valid = true
  cancelled : s.host.h.cancelled = false
  rows : s.host.h.SameRows h₀
  source : s.host.h.val.sourceIsAdf = h₀.val.sourceIsAdf
  queue : s.host.h.Queue
  content : ds ++ s.host.h.pending = concatRange (img.pageRow env h₀) 0 s.host.h.nextRow

structure Session.Drawing (env : Env) (img : Raster) (h₀ : Handle) (ds : List UInt8) (s : Session) :
    Prop extends s.Drawn env img h₀ ds where
  scanning : s.host.h.scanning = true
  eof : s.host.h.eof = false
  frames : ∃ i fs, s.inp.AtFrame fs ∧ PageShows img h₀.params.planes h₀.val.sourceIsAdf i fs ∧
    s.host.h.nextRow = img.placed h₀.params.lines i

structure Session.Whole (env : Env) (img : Raster) (h₀ : Handle) (ds : List UInt8) (s : Session) :
    Prop extends s.Drawn env img h₀ ds where
  eof : s.host.h.eof = true
  lines : s.host.h.nextRow = h₀.params.lines

def Session.Draws (env : Env) (img : Raster) (h₀ : Handle) (ds : List UInt8) (s : Session) : Prop :=
  s.Drawing env img h₀ ds ∨ s.Whole env img h₀ ds

variable {ds : List UInt8}

theorem Session.Draws.drawn (h : s.Draws env img h₀ ds) : s.Drawn env img h₀ ds :=
  h.elim (·.toDrawn) (·.toDrawn)

theorem Session.Draws.drawing (h : s.Draws env img h₀ ds) (heof : ¬ s.host.h.eof = true) :
    s.Drawing env img h₀ ds := h.resolve_right fun hwhole => heof hwhole.eof

theorem Session.Draws.whole (h : s.Draws env img h₀ ds) (heof : s.host.h.eof = true) :
    s.Whole env img h₀ ds := h.resolve_left fun hd => by rw [hd.eof] at heof; cases heof

theorem Emits.drawn {g : Nat → List UInt8} (he : Emits g s.host t.host)
    (hs : s.Drawn env img h₀ ds) (hc : t.inp.Clean)
    (hg : ∀ r, s.host.h.nextRow ≤ r → r < t.host.h.nextRow → g r = img.pageRow env h₀ r) :
    t.Drawn env img h₀ ds where
  clean := hc
  valid := he.valid.trans hs.valid
  cancelled := he.control.cancelled.trans hs.cancelled
  rows := he.control.sameRows.trans hs.rows
  source := by
    rw [he.control.val]
    exact hs.source
  queue := (he.queue hs.queue).1
  content := by
    rw [(he.queue hs.queue).2, ← List.append_assoc, hs.content, concatRange_congr hg,
      concatRange_append (Nat.zero_le _) he.mono]

structure EndsPage (g : Handle → Handle) : Prop extends FlagsOnly g where
  rows : ∀ h, (g h).SameRows h
  val : ∀ h, (g h).val = h.val
  eof : ∀ h, (g h).eof = true

theorem endsPage_jobDone : EndsPage Handle.jobDone :=
  ⟨flagsOnly_jobDone, fun _ => ⟨rfl, rfl, rfl, rfl, rfl, rfl, rfl, rfl⟩, fun _ => rfl, fun _ => rfl⟩

theorem endsPage_pageDone : EndsPage Handle.pageDone :=
  ⟨flagsOnly_pageDone, fun _ => ⟨rfl, rfl, rfl, rfl, rfl, rfl, rfl, rfl⟩, fun _ => rfl, fun _ => rfl⟩

theorem PageFilled.whole {g : Handle → Handle} (hf : PageFilled g s (.ok .done) t)
    (hg : EndsPage g) (hs : s.Drawn env img h₀ ds) (hc : t.inp.Clean)
    (hnext : s.host.h.nextRow = img.placed h₀.params.lines img.rows.length) :
    t.Whole env img h₀ ds := by
  obtain ⟨u, st, hu, hh, ⟨rfl, -⟩ | ⟨_, _, hbad⟩⟩ := hf.filled
  swap
  · cases hbad
  obtain ⟨hu, hrows⟩ := hu
  have hle : s.host.h.nextRow ≤ h₀.params.lines := hnext ▸ img.placed_le _ _
  rw [hs.rows.params, max_eq_right hle] at hrows
  have hd : ({ t with host := u } : Session).Drawn env img h₀ ds := by
    apply Emits.drawn (t := { t with host := u }) hu hs hc
    intro r hlo hhi
    rw [hs.rows.params]
    change r < u.h.nextRow at hhi
    rw [hrows] at hhi
    rw [hnext] at hlo
    exact (Raster.pageRow_rest hlo hhi).symm
  refine ⟨⟨hc, ?_, ?_, ?_, ?_, ?_, ?_⟩, ?_, ?_⟩ <;> rw [hh]
  · exact hd.valid
  · exact (hg.cancelled _).trans hd.cancelled
  · exact (hg.rows _).trans hd.rows
  · exact (congrArg OptionValues.sourceIsAdf (hg.val _)).trans hd.source
  · change (g u.h).outPos ≤ (g u.h).out.length
    rw [hg.out, hg.outPos]
    exact hd.queue
  · change ds ++ (g u.h).out.drop (g u.h).outPos = concatRange _ 0 (g u.h).nextRow
    rw [hg.out, hg.outPos, hg.nextRow]
    exact hd.content
  · exact hg.eof _
  · exact (hg.nextRow _).trans hrows

theorem FrameDone.draws {f : WireFrame} {gs : List WireFrame} {i : Nat} (h : FrameDone env f gs s t)
    (hs : s.Drawing env img h₀ ds) (hc : t.inp.Clean) (hp : h₀.params.Layout)
    (hpage : PageShows img h₀.params.planes h₀.val.sourceIsAdf i (f :: gs))
    (hnext : s.host.h.nextRow = img.placed h₀.params.lines i) : t.Draws env img h₀ ds := by
  have hkind : (f.Silent h₀.val.sourceIsAdf ∧ PageShows img h₀.params.planes h₀.val.sourceIsAdf i gs) ∨
      (∃ j, f.Carries img h₀.params.planes i j ∧
        PageShows img h₀.params.planes h₀.val.sourceIsAdf j gs) ∨
      (i = img.rows.length ∧ (f.cmd = evtJobEnd ∨ (f.cmd = evtPageEnd ∧ h₀.val.sourceIsAdf = true))) := by
    cases hpage with
    | silent h t => exact .inl ⟨h, t⟩
    | data h t => exact .inr (.inl ⟨_, h, t⟩)
    | ended h => exact .inr (.inr ⟨rfl, h⟩)
  -- What the frame did and what the device meant by it have to be the same thing.
  cases h with
  | data hcmd hb =>
    obtain ⟨hsil, -⟩ | ⟨j, hcar, hrest⟩ | ⟨-, hend | ⟨hend, -⟩⟩ := hkind
    · exact absurd hcmd hsil.1
    · left
      have hplanes : f.planes = h₀.params.planes := by
        rw [hb.planes, hs.rows.params]
      have hj : f.block.target s.host.h.params.lines s.host.h.nextRow =
          img.placed h₀.params.lines j := by
        rw [hs.rows.params, hnext]
        exact hcar.target hb.rows _
      have hlast : t.host.h.nextRow = img.placed h₀.params.lines j := hb.emits.2.trans hj
      refine ⟨hb.emits.1.drawn hs.toDrawn hc fun r hlo hhi => ?_,
        hb.emits.1.control.scanning.trans hs.scanning, hb.emits.1.control.eof.trans hs.eof, j, gs,
        hb.inp, hrest, hlast⟩
      have hrow := hs.rows
      rw [← hrow.pageRow img env]
      rw [hnext, ← hrow.params] at hlo
      rw [hlast, ← hrow.params] at hhi
      rw [← hrow.params] at hcar hp hplanes
      exact hcar.blockRow hp hplanes hlo hhi
    · exact absurd (hcmd.symm.trans hend) (by decide)
    · exact absurd (hcmd.symm.trans hend) (by decide)
  | silent hcmd hi hh =>
    rw [hs.source] at hcmd
    obtain ⟨-, hrest⟩ | ⟨j, hcar, -⟩ | ⟨-, hend | ⟨hend, hadf⟩⟩ := hkind
    · left
      have he : Emits (img.pageRow env h₀) s.host t.host := by
        rw [hh]
        exact .refl _ _
      exact ⟨he.drawn hs.toDrawn hc fun _ _ _ => rfl, he.control.scanning.trans hs.scanning,
        he.control.eof.trans hs.eof, i, gs, hi, hrest, by rw [hh]; exact hnext⟩
    · exact absurd hcar.cmd hcmd.1
    · exact absurd hend hcmd.2.2.1
    · exact absurd ((hcmd.2.2.2 hend).symm.trans hadf) (by decide)
  | pageEnd hcmd hadf hi hf =>
    rw [hs.source] at hadf
    obtain ⟨hsil, -⟩ | ⟨j, hcar, -⟩ | ⟨rfl, -⟩ := hkind
    · exact absurd ((hsil.2.2.2 hcmd).symm.trans hadf) (by decide)
    · exact absurd (hcar.cmd.symm.trans hcmd) (by decide)
    · exact .inr (hf.whole endsPage_pageDone hs.toDrawn hc hnext)
  | jobEnd hcmd hf =>
    obtain ⟨hsil, -⟩ | ⟨j, hcar, -⟩ | ⟨rfl, -⟩ := hkind
    · exact absurd hcmd hsil.2.2.1
    · exact absurd (hcar.cmd.symm.trans hcmd) (by decide)
    · exact .inr (hf.whole endsPage_jobDone hs.toDrawn hc hnext)

def DrawStep (env : Env) (img : Raster) (h₀ : Handle) (ds : List UInt8) :
    Except Status Pumped → Session → Prop
  | .error _, _ => True
  | .ok (.aborted _), _ => False
  | .ok .idle, t => t.Draws env img h₀ ds
  | .ok .done, t => t.Draws env img h₀ ds

theorem takeFrame_draws (probe report : Bool) (hs : s.Drawing env img h₀ ds)
    (hp : h₀.params.Layout) (hcut : ¬ s.PageCut probe) :
    wp (takeFrame env probe report) (DrawStep env img h₀ ds) s := by
  obtain ⟨i, fs, hi, hpage, hnext⟩ := hs.frames
  refine wp_mono (wp_and (takeFrame_atFrame env probe report hs.clean hi hcut)
    (takeFrame_uses env probe report s)) fun r t ⟨ht, hsched⟩ => ?_
  have hc : t.inp.Clean := hs.clean.suffix hsched.1
  match r, ht with
  | .error _, _ => exact trivial
  | .ok (.aborted _), ⟨f, gs, hfs, hcmd⟩ =>
    subst hfs
    cases hpage with
    | silent h _ => exact h.2.1 hcmd
    | data h _ => exact absurd (h.cmd.symm.trans hcmd) (by decide)
    | ended h =>
      obtain h | ⟨h, -⟩ := h
      · exact absurd (h.symm.trans hcmd) (by decide)
      · exact absurd (h.symm.trans hcmd) (by decide)
  | .ok .idle, ⟨hi', hh⟩ =>
    have he : Emits (img.pageRow env h₀) s.host t.host := by
      rw [hh]
      exact .refl _ _
    exact .inl ⟨he.drawn hs.toDrawn hc fun _ _ _ => rfl, he.control.scanning.trans hs.scanning,
      he.control.eof.trans hs.eof, i, fs, hi', hpage, by rw [hh]; exact hnext⟩
  | .ok .done, ⟨f, gs, hfs, hd⟩ =>
    subst hfs
    exact hd.draws hs hc hp hpage hnext

theorem awaitFirstRows_draws (hs : s.Draws env img h₀ ds) (hp : h₀.params.Layout)
    (htidy : AwaitTidy env s) :
    wp (awaitFirstRows env) (fun r t => (r = .ok none → t.Draws env img h₀ ds) ∧
      ∀ st, r ≠ .ok (some st)) s := by
  refine wp_awaitFirstRows_rounds (P := fun t => t.host.h.Waiting → ¬ t.PageCut false)
    (Session.Draws env img h₀ ds) (fun t ht hwait hcut => ?_)
    (fun t ht _ => ⟨fun _ => ht, fun _ h => by cases h⟩)
    (fun _ _ _ _ => ⟨fun h => (by cases h), fun _ h => by cases h⟩) htidy hs
  apply wp_mono (takeFrame_draws false true (ht.drawing hwait.2.2) hp (hcut hwait))
  intro r u hu
  match r, hu with
  | .error _, _ => exact ⟨fun h => (by cases h), fun _ h => by cases h⟩
  | .ok .idle, hu => exact hu
  | .ok .done, hu => exact hu

theorem fillQueue_draws (hs : s.Draws env img h₀ ds) (hp : h₀.params.Layout)
    (htidy : FillTidy env s) :
    wp (fillQueue env) (fun r t => (∃ b, r = .ok b) → t.Draws env img h₀ ds ∧
      (r = .ok false → ¬ t.host.h.Starved)) s := by
  refine wp_fillQueue_rounds (P := fun t => t.host.h.Starved → t.host.h.scanning = true →
      ¬ t.PageCut t.host.h.nonBlocking)
    (Session.Draws env img h₀ ds) (fun t ht hstarved hscan hcut => ?_) (fun t ht hstarved hscan => ?_)
    (fun t ht hno _ => ⟨ht, fun _ => hno⟩) (fun _ _ _ _ ⟨_, h⟩ => by cases h) htidy hs
  · refine wp_mono (takeFrame_draws _ false (ht.drawing hstarved.2) hp (hcut hstarved hscan))
      fun r u hu => ?_
    match r, hu with
    | .error _, _ => exact fun ⟨_, h⟩ => by cases h
    | .ok .idle, hu => exact fun _ => ⟨hu, fun h => by cases h⟩
    | .ok .done, hu => exact hu
  · rw [(ht.drawing hstarved.2).scanning] at hscan
    cases hscan

theorem Session.Draws.onHandle {g : Handle → Handle} {ds' : List UInt8} (hs : s.Draws env img h₀ ds)
    (hg : JobFlags s.host.h (g s.host.h)) (hrows : (g s.host.h).SameRows s.host.h)
    (hnext : (g s.host.h).nextRow = s.host.h.nextRow) (hq : (g s.host.h).Queue)
    (hcontent : ds' ++ (g s.host.h).pending = ds ++ s.host.h.pending) :
    (s.onHandle g).Draws env img h₀ ds' := by
  have hdrawn : (s.onHandle g).Drawn env img h₀ ds' :=
    ⟨hs.drawn.clean, hs.drawn.valid, hg.cancelled.trans hs.drawn.cancelled,
      hrows.trans hs.drawn.rows, (congrArg OptionValues.sourceIsAdf hg.val).trans hs.drawn.source, hq,
      hcontent.trans (hs.drawn.content.trans (congrArg _ hnext.symm))⟩
  obtain hd | hw := hs
  · obtain ⟨i, fs, hi, hpage, hn⟩ := hd.frames
    exact .inl ⟨hdrawn, hg.scanning.trans hd.scanning, hg.eof.trans hd.eof, i, fs, hi, hpage,
      hnext.trans hn⟩
  · exact .inr ⟨hdrawn, hg.eof.trans hw.eof, hnext.trans hw.lines⟩

theorem saneRead_draws (n : Int) (hs : s.Draws env img h₀ ds) (hp : h₀.params.Layout)
    (htidy : Call.Tidy env [] (.read n) s) :
    wp (saneRead env n) (fun r t => (∀ bs, r = .ok bs → t.Draws env img h₀ (ds ++ bs)) ∧
      (r = .error .eof → ds = concatRange (img.pageRow env h₀) 0 h₀.params.lines)) s := by
  refine wp_mono (saneRead_of_fill (fun _ ht => ht.drawn.queue) fun hv hn hc =>
    fillQueue_draws hs hp (htidy hv hn hc)) fun r t ht => ⟨fun bs hbs => ?_, fun heof => ?_⟩
  · obtain ⟨u, m, hu, hm, rfl, rfl⟩ := ht.data bs hbs
    have hq : u.host.h.outPos ≤ u.host.h.out.length := hu.drawn.queue
    refine hu.onHandle ⟨rfl, rfl, rfl, rfl, rfl, rfl⟩ ⟨rfl, rfl, rfl, rfl, rfl, rfl, rfl, rfl⟩ rfl
      (hu.drawn.queue.advance hm) ?_
    rw [List.append_assoc, Handle.advance_pending, List.take_append_drop]
  · obtain ⟨ht, hend, hnil⟩ := ht.ended heof
    have hcontent := ht.drawn.content
    rwa [hnil, List.append_nil, (ht.whole hend).lines] at hcontent

theorem runCalls_draws (cs : List Call) (hcs : ∀ c ∈ cs, c.reads) (hs : s.Draws env img h₀ ds)
    (hp : h₀.params.Layout) (htidy : TidyCalls env [] cs s)
    (hok : ∀ r ∈ (runCalls env cs s).1, r.isOk) :
    (runCalls env cs s).2.Draws env img h₀ (ds ++ delivered (runCalls env cs s).1) := by
  induction cs generalizing s ds with
  | nil => exact (List.append_nil ds).symm ▸ hs
  | cons c cs ih =>
    have hstep : (c.run env s).2.Draws env img h₀ (ds ++ dataOf (c.run env s).1) := by
      have hreads := hcs c List.mem_cons_self
      have hok := hok _ List.mem_cons_self
      cases c with
      | read n =>
        have hrun : wp (Call.run env (.read n)) (fun r t => r.isOk →
            t.Draws env img h₀ (ds ++ dataOf r)) s := by
          rw [Call.run, wp_bind]
          apply wp_mono (saneRead_draws n hs hp htidy.1)
          rintro r t ⟨ht, _⟩
          cases r with
          | error _ => exact fun h => by cases h
          | ok bs => exact fun _ => ht bs rfl
        exact hrun hok
      | setIoMode b =>
        have hrun : wp (Call.run env (.setIoMode b)) (fun r t =>
            t.Draws env img h₀ (ds ++ dataOf r)) s := by
          rw [Call.run, wp_bind]
          unfold saneSetIoMode
          rw [wp_bind, wp_read, after_ok, wp_ite]
          refine ⟨fun _ => ?_, fun _ => ?_⟩
          swap
          · change s.Draws env img h₀ (ds ++ [])
            rwa [List.append_nil]
          exact hs.onHandle ⟨rfl, rfl, rfl, rfl, rfl, rfl⟩ ⟨rfl, rfl, rfl, rfl, rfl, rfl, rfl, rfl⟩ rfl
            hs.drawn.queue (congrArg (· ++ s.host.h.pending) (List.append_nil ds))
        exact hrun
      | _ => cases hreads
    have hrest := ih (fun d hd => hcs d (List.mem_cons_of_mem _ hd)) hstep htidy.2
      fun r hr => hok r (List.mem_cons_of_mem _ hr)
    rwa [List.append_assoc] at hrest

/-! ### Scans -/

def Raster.page (img : Raster) (env : Env) (v : OptionValues) : List UInt8 :=
  concatRange (img.pageRow env (jobHandle env v)) 0 v.computeParameters.lines

theorem jobHandle_params (env : Env) (v : OptionValues) :
    (jobHandle env v).params = v.computeParameters ∧ (jobHandle env v).val = v := by
  unfold jobHandle Handle.prepared setMargins
  dsimp only
  split <;> exact ⟨rfl, rfl⟩

/-- Between two pages the job of a handle runs, with the options it was started with. -/
def Handle.Resumable (env : Env) (h : Handle) : Prop :=
  h.feeding = true → h.scanning = true ∧ h.SameRows (jobHandle env h.val)

theorem Reachable.resumable (h : Reachable env s) : s.host.h.Resumable env := fun hf =>
  have hscan := h.disciplined.steady.feeding hf
  ⟨hscan, h.ready hscan⟩

/-- A page that is started in `s` and read to its end without an error, be it the first of a job or a
later one of a feeder job. The device shows `img`, and `cs` are the reads up to the one that reports
the end of the file. -/
structure CleanScan (env : Env) (img : Raster) (s t : Session) (cs : List Call) (n : Int) : Prop where
  job : s.host.h.Resumable env
  clean : s.inp.Clean
  frames : ∃ fs, (s.awaiting env).inp.AtFrame fs ∧
    PageShows img s.host.h.val.computeParameters.planes s.host.h.val.sourceIsAdf 0 fs
  start : saneStart env s = (.ok (), t)
  await : AwaitTidy env (s.awaiting env)
  reads : ∀ c ∈ cs, c.reads
  tidy : TidyCalls env [] (cs ++ [.read n]) t
  good : ∀ r ∈ (runCalls env cs t).1, r.isOk
  ended : (saneRead env n (runCalls env cs t).2).1 = .error .eof

theorem CleanScan.awaiting_draws {cs : List Call} {n : Int} (hs : CleanScan env img s t cs n)
    (h : s.Awaits env) : (s.awaiting env).Draws env img (jobHandle env s.host.h.val) [] := by
  obtain ⟨fs, hi, hpage⟩ := hs.frames
  obtain ⟨hval, hfeed, hsettled⟩ := settled_spec s
  obtain ⟨hparams, hval'⟩ := jobHandle_params env s.host.h.val
  -- The rows of a page that is resumed come from the options its job was started with.
  cases h with
  | resumed hva hf hawait =>
    have hcancelled := settled_feeding hf
    rw [settled_of_not_cancelled hcancelled] at hf hawait
    rw [hawait] at hi ⊢
    obtain ⟨hscan, hsame⟩ := hs.job hf
    have hrows : (s.onHandle Handle.resumed).host.h.SameRows (jobHandle env s.host.h.val) :=
      .trans (⟨rfl, rfl, rfl, rfl, rfl, rfl, rfl, rfl⟩ : s.host.h.resumed.SameRows s.host.h) hsame
    refine .inl ⟨⟨hs.clean, hva, hcancelled, hrows, ?_, Nat.le_refl 0, ?_⟩, hscan, rfl, 0, fs, hi, ?_, rfl⟩
    · rw [hval']
      rfl
    · exact (concatRange_self _ 0).symm
    · rw [hparams, hval']
      exact hpage
  | begun _ _ _ hva hh hsched =>
    have hrows : (s.settled.host.h.prepared env).accepted.SameRows (jobHandle env s.host.h.val) := by
      rw [← hval]
      have hflags : (s.settled.host.h.prepared env).accepted.SameRows (s.settled.host.h.prepared env) :=
        ⟨rfl, rfl, rfl, rfl, rfl, rfl, rfl, rfl⟩
      exact hflags.trans (s.settled.host.h.sameRows_jobHandle env)
    rw [← hh] at hrows
    have hfields : (s.awaiting env).host.h.cancelled = false ∧
        (s.awaiting env).host.h.val = s.host.h.val ∧ (s.awaiting env).host.h.scanning = true ∧
        (s.awaiting env).host.h.eof = false ∧ (s.awaiting env).host.h.nextRow = 0 ∧
        (s.awaiting env).host.h.out = [] ∧ (s.awaiting env).host.h.outPos = 0 := by
      rw [hh, ← hval]
      unfold Handle.prepared setMargins
      dsimp only
      split <;> exact ⟨rfl, rfl, rfl, rfl, rfl, rfl, rfl⟩
    obtain ⟨hc, hv, hscan, heof, hnext, hout, hpos⟩ := hfields
    refine .inl ⟨⟨hs.clean.suffix (hsched.trans hsettled), hva, hc, hrows, ?_, ?_, ?_⟩, hscan, heof, 0,
      fs, hi, ?_, hnext⟩
    · rw [hv, hval']
    · rw [Handle.Queue, hout, hpos]
      exact Nat.le_refl 0
    · rw [Handle.pending, hout, hnext, concatRange_self, List.drop_nil, List.nil_append]
    · rw [hparams, hval']
      exact hpage

/-- What is delivered of a page depends on its rows and the options alone. -/
theorem CleanScan.delivered_eq {cs : List Call} {n : Int} (hs : CleanScan env img s t cs n) :
    delivered (runCalls env cs t).1 = img.page env s.host.h.val := by
  obtain ⟨hparams, -⟩ := jobHandle_params env s.host.h.val
  have hp : (jobHandle env s.host.h.val).params.Layout := by
    rw [hparams]
    exact s.host.h.val.computeParameters_layout
  have ht : t.Draws env img (jobHandle env s.host.h.val) [] := by
    have h := saneStart_awaiting env s fun h => awaitFirstRows_draws (hs.awaiting_draws h) hp hs.await
    unfold wp at h
    rw [hs.start] at h
    exact h rfl
  obtain ⟨htidy, hlast⟩ := tidyCalls_append hs.tidy
  have hreads := runCalls_draws cs hs.reads ht hp htidy hs.good
  have hend := (saneRead_draws n hreads hp hlast).2 hs.ended
  rw [List.nil_append, hparams] at hend
  exact hend

theorem Raster.page_agrees {env' : Env} (henv : env.Agrees env') (v : OptionValues) :
    img.page env v = img.page env' v := by
  have hh : jobHandle env' v = jobHandle env v := by
    unfold jobHandle Handle.prepared
    rw [henv.toneCurve]
  have hp : (jobHandle env v).params.Layout := by
    rw [(jobHandle_params env v).1]
    exact v.computeParameters_layout
  unfold page
  apply concatRange_congr
  intro r _ _
  unfold pageRow
  rw [hh]
  split
  · exact convertRow_bytes_congr henv hp (fun _ _ => rfl) r _ _
  · rfl

/-- Two scans of the same rows with the same options deliver the same bytes. The two runs of the
program share the tone curves and the dither mask, not what their memory held before. -/
theorem cleanScan_determined {env env' : Env} (henv : env.Agrees env') {img : Raster}
    {s s' t t' : Session} {cs cs' : List Call} {n n' : Int} (h : CleanScan env img s t cs n)
    (h' : CleanScan env' img s' t' cs' n') (hval : s'.host.h.val = s.host.h.val) :
    delivered (runCalls env cs t).1 = delivered (runCalls env' cs' t').1 := by
  rw [h.delivered_eq, h'.delivered_eq, hval, Raster.page_agrees henv]

/-- A window of eleven by eleven pixels away from the edges of the page. -/
def smallWindow : OptionValues :=
  ⟨some .gray, 75, some .flatbed, 0, 0, 655360, 655360, 720896, 720896⟩

def scanOf (fs : List WireFrame) (sched : List Xfer) : Session where
  host := ⟨{ Handle.zero with val := smallWindow }, true, [], false⟩
  inp :=
    { inStream := HostFrame.encode ⟨cmdLock, []⟩ ++ HostFrame.encode ⟨cmdSetDefaults, []⟩ ++
        HostFrame.encode ⟨cmdGetSettings, List.replicate pantumSettingsLen 0⟩ ++
        HostFrame.encode ⟨cmdSetSettings, []⟩ ++ HostFrame.encode ⟨cmdStart, []⟩ ++ encodeAll fs
      inSched := sched }
  outp := ⟨List.replicate 20 ⟨.success, 200⟩, [], []⟩

def threeRows : Raster := ⟨2, 2, [[1, 2], [3, 4], [5, 6]], by decide⟩

theorem encode_jobEnd :
    ((HostFrame.mk evtJobEnd []).encode.take 32).length = pantumHeaderLen ∧
    getBe32 ((HostFrame.mk evtJobEnd []).encode.take 32) 0 = pantumMagic ∧
    getBe32 ((HostFrame.mk evtJobEnd []).encode.take 32) 20 = ([] : List UInt8).length ∧
    ([] : List UInt8).length ≤ pantumMaxPayload := by
  decide

def wholeFrames : List WireFrame :=
  [.ofHost ⟨evtData, [0, 2, 3, 1, 2, 0].flatMap putBe32 ++ [1, 2, 3, 4, 5, 6]⟩ (by decide),
    .ofHost ⟨evtJobEnd, []⟩ encode_jobEnd]

/-- The rows in two padded blocks, with the end of a page that is none between them. -/
def cutFrames : List WireFrame :=
  [.ofHost ⟨evtData, [0, 2, 1, 1, 2, 0].flatMap putBe32 ++ [1, 2, 9, 9]⟩ (by decide),
    .ofHost ⟨evtPageEnd, [8]⟩ (by decide),
    .ofHost ⟨evtData, [0, 3, 2, 1, 2, 0].flatMap putBe32 ++ [3, 4, 9, 5, 6, 9]⟩ (by decide),
    .ofHost ⟨evtJobEnd, []⟩ encode_jobEnd]

def wholeScan : Session := scanOf wholeFrames (List.replicate 20 ⟨.success, 4096⟩)

/-- The same rows in transfers of seven and twenty bytes, with an idle poll. -/
def cutScan : Session :=
  scanOf cutFrames
    (List.replicate 50 ⟨.success, 7⟩ ++ ⟨.timeout, 0⟩ :: List.replicate 60 ⟨.success, 20⟩)

theorem wholeFrames_shows : PageShows threeRows 1 false 0 wholeFrames :=
  .data (j := 3) ⟨by decide, by decide, by decide, by decide, by decide, by decide, by decide⟩
    (.ended (.inl (by decide)))

theorem cutFrames_shows : PageShows threeRows 1 false 0 cutFrames :=
  .data (j := 1) ⟨by decide, by decide, by decide, by decide, by decide, by decide, by decide⟩
    (.silent (by unfold WireFrame.Silent; decide)
      (.data (j := 3) ⟨by decide, by decide, by decide, by decide, by decide, by decide, by decide⟩
        (.ended (.inl (by decide)))))

theorem wholeScan_clean : CleanScan plainEnv threeRows wholeScan (saneStart plainEnv wholeScan).2
    [.read 4096, .read 4096] 1 where
  job h := by cases h
  clean := by
    unfold Inp.Clean
    decide
  frames := ⟨wholeFrames, by unfold Inp.AtFrame; decide +kernel, wholeFrames_shows⟩
  start := eq_ok (by decide +kernel)
  await := by decide +kernel
  reads := by decide
  tidy := ⟨fun _ _ _ => by decide +kernel, fun _ _ _ => by decide +kernel,
    fun _ _ _ => by decide +kernel, trivial⟩
  good := by decide +kernel
  ended := by decide +kernel

/-- Another run of the program, which found something else in its memory. -/
def otherEnv : Env := { plainEnv with uninit := fun _ => 1 }

def pollingReads : List Call :=
  [.setIoMode true, .read 50, .read 50, .read 50, .read 50, .read 50]

theorem cutScan_clean :
    CleanScan otherEnv threeRows cutScan (saneStart otherEnv cutScan).2 pollingReads 1 where
  job h := by cases h
  clean := by
    unfold Inp.Clean
    decide +kernel
  frames := ⟨cutFrames, by unfold Inp.AtFrame; decide +kernel, cutFrames_shows⟩
  start := eq_ok (by decide +kernel)
  await := by decide +kernel
  reads := by decide
  tidy := ⟨trivial, fun _ _ _ => by decide +kernel, fun _ _ _ => by decide +kernel,
    fun _ _ _ => by decide +kernel, fun _ _ _ => by decide +kernel, fun _ _ _ => by decide +kernel,
    fun _ _ _ => by decide +kernel, trivial⟩
  good := by decide +kernel
  ended := by decide +kernel

theorem cleanScan_determined_cut :
    delivered (runCalls plainEnv [.read 4096, .read 4096] (saneStart plainEnv wholeScan).2).1 =
      delivered (runCalls otherEnv pollingReads
        (saneStart otherEnv cutScan).2).1 := by
  have hval : cutScan.host.h.val = wholeScan.host.h.val := rfl
  have henv : plainEnv.Agrees otherEnv := ⟨rfl, rfl⟩
  exact cleanScan_determined henv wholeScan_clean cutScan_clean hval

end PantumOpen.Scan
