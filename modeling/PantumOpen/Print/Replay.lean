import PantumOpen.Print.Framing
import PantumOpen.Print.PageLoop

/-! The second half of a manual duplex job, as far as standard output and the accounting are
concerned. -/

namespace PantumOpen.Print
open Prog Stdio

variable {env : Env} {opt : JobOptions}

theorem blockBytes_flatten (pages : List RasterPage) : (pages.map (blockBytes env opt)).flatten =
    (pages.flatMap (pageBlock env opt)).flatMap Chunk.bytes := by
  induction pages with
  | nil => rfl
  | cons p pages ih =>
    rw [List.map_cons, List.flatten_cons, ih, List.flatMap_cons, List.flatMap_append]
    rfl

/-- The sheet that an odd number of pages leaves without a back. -/
def blankOut (env : Env) (opt : JobOptions) (pages : List RasterPage) : Prog Unit File Unit :=
  if pages.length % 2 = 0 then pure ()
  else if blankRenders env opt (pageNumber pages.length) (progressAfter pages).lastHdr then
    writeChunks (blankBlock env opt (progressAfter pages).lastHdr)
  else fail ()

/-- What the backs of a job send to standard output: the blank sheet even when the pause is cut
short. -/
def backsOut (env : Env) (opt : JobOptions) (pages : List RasterPage) : Prog Unit File Unit := do
  let paused ← attempt (writeChunk pauseChunk)
  let blank ← attempt (blankOut env opt pages)
  match paused, blank with
  | .ok _, .ok _ => writeChunks ((evens pages).reverse.flatMap (pageBlock env opt))
  | _, _ => fail ()

def replayOut (env : Env) (opt : JobOptions) (pages : List RasterPage) : Prog Unit File Unit := do
  writeChunks ((odds pages).flatMap (pageBlock env opt))
  backsOut env opt pages

def blankLine (pages : List RasterPage) : List (UInt32 × UInt32) :=
  if pages.length % 2 = 0 then [] else [(pageNumber pages.length, 1)]

/-- A part of the job that works on standard output alone: what it writes, whether it goes well, and
the pages it has told the scheduler of when it does. -/
structure Emits (m : Prog Unit File Unit) (lines : List (UInt32 × UInt32)) (s : Filter) (ok : Prop)
    (t : Filter) : Prop where
  stdout : t.stdout = (m s.stdout).2
  outcome : ok ↔ (m s.stdout).1 = .ok ()
  cancelled : t.cancelled = s.cancelled
  arrivals : t.arrivals = s.arrivals
  log : ok → t.pageLines = s.pageLines ++ lines

theorem even_sides (pages : List RasterPage) :
    (evens pages).length < (odds pages).length ↔ ¬ pages.length % 2 = 0 := by
  obtain ⟨hodds, hevens⟩ := odds_evens_length pages
  omega

theorem flatMap_range_getD (bs : List (List UInt8)) :
    ((List.range bs.length).flatMap fun i => bs.getD i []) = bs.flatten := by
  induction bs with
  | nil => rfl
  | cons b bs ih =>
    rw [List.length_cons, List.range_succ_eq_map, List.flatMap_cons, List.flatMap_map, List.flatten_cons]
    exact congrArg (b ++ ·) ih

theorem flatMap_range_reverse (bs : List (List UInt8)) :
    ((List.range bs.length).flatMap fun j => bs.getD (bs.length - 1 - j) []) = bs.reverse.flatten := by
  rw [← flatMap_range_getD bs.reverse, List.length_reverse]
  apply List.flatMap_congr
  intro j hj
  have hj := List.mem_range.mp hj
  rw [List.getD_eq_getElem?_getD, List.getD_eq_getElem?_getD, List.getElem?_reverse hj]

def sendBlank (env : Env) (opt : JobOptions) (p : Progress) (fronts backs : Nat) :
    Prog Unit Filter (Except Unit Unit) :=
  if backs < fronts then do
    msg (.page (p.page + 1) 1)
    attempt (renderBlankPage env (p.page + 1) .stdout p.lastHdr opt)
  else pure (.ok ())

def sendBacks (env : Env) (p : Progress) (fronts backs : Nat) (paused blank : Except Unit Unit) :
    Prog Unit Filter (Nat × UInt32) :=
  let page := if backs < fronts then p.page + 1 else p.page
  match paused, blank with
  | .ok _, .ok _ => do
    match ← attempt (forIndex 0 (fun j _ => spoolCopy .backs (backs - 1 - j)) backs ()) with
    | .error _ =>
      msg (.error s!"Cannot replay the manual duplex spool: {env.strerror}")
      pure (1, page)
    | .ok _ => pure (0, page)
  | _, _ => pure (1, page)

theorem replayBacks_eq (p : Progress) (fronts : Nat) : replayBacks env opt p fronts = (do
    let paused ← attempt (zoom (Filter.file .stdout) (writeChunk pauseChunk))
    let backs ← gets fun s => s.backs.slots.length
    let blank ← sendBlank env opt p fronts backs
    sendBacks env p fronts backs paused blank) := by
  unfold replayBacks
  refine congrArg (Bind.bind _) (funext fun paused => congrArg (Bind.bind _) (funext fun backs => ?_))
  by_cases h : backs < fronts
  · have hblank : sendBlank env opt p fronts backs = (do
        msg (.page (p.page + 1) 1)
        attempt (renderBlankPage env (p.page + 1) .stdout p.lastHdr opt)) := if_pos h
    rw [hblank, Prog.bind_assoc]
    exact if_pos h
  · have hblank : sendBlank env opt p fronts backs = pure (.ok ()) := if_neg h
    rw [hblank]
    exact if_neg h

section
variable {s : Filter} {pages : List RasterPage}

theorem sendBlank_emits (s : Filter) (pages : List RasterPage) :
    ∃ r t, sendBlank env opt (progressAfter pages) (odds pages).length (evens pages).length s =
        (.ok r, t) ∧ t.spool .backs = s.spool .backs ∧
      Emits (blankOut env opt pages) (blankLine pages) s (r = .ok ()) t := by
  unfold sendBlank
  rw [progressAfter_next]
  unfold blankLine blankOut
  -- An even number of pages has a back for every front.
  by_cases he : pages.length % 2 = 0
  · rw [if_neg (fun h => even_sides pages |>.mp h he), if_pos he, if_pos he]
    exact ⟨.ok (), s, rfl, rfl, rfl, ⟨fun _ => rfl, fun _ => rfl⟩, rfl, rfl,
      fun _ => (List.append_nil _).symm⟩
  · rw [if_pos (even_sides pages |>.mpr he), if_neg he, if_neg he, msg_bind]
    set s₁ : Filter := { s with log := s.log ++ [.page (pageNumber pages.length) 1] } with hs₁
    have hlog : s₁.pageLines = s.pageLines ++ [(pageNumber pages.length, 1)] := pageLines_msg s _
    by_cases hb : blankRenders env opt (pageNumber pages.length) (progressAfter pages).lastHdr = true
    · rw [if_pos hb, writeChunks_eq]
      have hrender := renderBlankPage_block (k := .stdout) hb
      rcases hw : writeAll ((blankBlock env opt (progressAfter pages).lastHdr).flatMap Chunk.bytes)
        s.stdout with ⟨⟨⟩ | ⟨⟩, f⟩
      · obtain ⟨e, he⟩ := @putBlock_error env .stdout _ s₁ _ hw
        refine ⟨.error (), { s₁ with stdout := f, log := s₁.log ++ [.error e] }, ?_, rfl, ?_, ?_, rfl,
          rfl, nofun⟩
        · simp only [attempt, hrender, he]
          rfl
        · rw [hw]
        · rw [hw]
      · have hput := @putBlock_ok env .stdout _ s₁ _ hw
        refine ⟨.ok (), { s₁ with stdout := f }, ?_, rfl, ?_, ?_, rfl, rfl, fun _ => hlog⟩
        · simp only [attempt, hrender, hput]
          rfl
        · rw [hw]
        · rw [hw]
    · rw [if_neg hb]
      obtain ⟨e, he⟩ := renderBlankPage_error (k := .stdout) (Bool.eq_false_iff.mpr hb) s₁
      refine ⟨.error (), { s₁ with log := s₁.log ++ [.error e] }, ?_, rfl, rfl, ?_, rfl, rfl, nofun⟩
      · simp only [attempt, he]
      · simp [fail]

theorem copyStep {k : Sink} (hk : k ≠ .stdout) {ps : List RasterPage}
    (h : (s.spool k).Holds (ps.map (blockBytes env opt))) (order : Nat → Nat)
    (horder : ∀ i < ps.length, order i < ps.length) (qs : List RasterPage)
    (hqs : ((List.range ps.length).flatMap fun i => (ps.map (blockBytes env opt)).getD (order i) []) =
      (qs.map (blockBytes env opt)).flatten) :
    ∃ r pos f, attempt (forIndex 0 (fun i _ => spoolCopy k (order i)) ps.length ()) s =
        (.ok r, s.copied k pos f) ∧
      writeChunks (qs.flatMap (pageBlock env opt)) s.stdout = (r, f) := by
  obtain ⟨pos, hcopy⟩ := spoolCopies_eq hk h order (n := ps.length) (by
    intro i hi
    rw [List.length_map]
    exact horder i hi)
  rw [hqs, blockBytes_flatten, ← writeChunks_eq] at hcopy
  refine ⟨_, pos, _, ?_, rfl⟩
  simp only [attempt, hcopy]

theorem copied_pageLines (k : Sink) (pos : Nat) (f : File) (s : Filter) :
    (s.copied k pos f).pageLines = s.pageLines := by
  cases k <;> rfl

def backsRest (env : Env) (opt : JobOptions) (pages : List RasterPage) (paused blank : Except Unit Unit) :
    Prog Unit File Unit :=
  match paused, blank with
  | .ok _, .ok _ => writeChunks ((evens pages).reverse.flatMap (pageBlock env opt))
  | _, _ => fail ()

theorem replayBacks_emits (hb : (s.spool .backs).Holds ((evens pages).map (blockBytes env opt))) :
    ∃ st q t, replayBacks env opt (progressAfter pages) (odds pages).length s = (.ok (st, q), t) ∧
      Emits (backsOut env opt pages) (blankLine pages) s (st = 0) t := by
  have hnum : (s.spool .backs).slots.length = (evens pages).length := by
    rw [hb.slots, slotsFrom_length, List.length_map]
  have hpause : attempt (zoom (Filter.file .stdout) (writeChunk pauseChunk)) s =
      (.ok (writeChunk pauseChunk s.stdout).1,
        { s with stdout := (writeChunk pauseChunk s.stdout).2 }) := rfl
  rcases hw : writeChunk pauseChunk s.stdout with ⟨r₁, f₁⟩
  rw [hw] at hpause
  obtain ⟨r₂, t, hblank, hspool, hout, hok, hcancel, harr, hlog⟩ :=
    @sendBlank_emits env opt { s with stdout := f₁ } pages
  have hgets : (gets fun s => s.backs.slots.length : Prog Unit Filter Nat) { s with stdout := f₁ } =
      (.ok (evens pages).length, { s with stdout := f₁ }) := Prod.ext (congrArg Except.ok hnum) rfl
  have hrun : replayBacks env opt (progressAfter pages) (odds pages).length s =
      sendBacks env (progressAfter pages) (odds pages).length (evens pages).length r₁ r₂ t := by
    rw [replayBacks_eq, bind_ok hpause, bind_ok hgets, bind_ok hblank]
  have houtput : backsOut env opt pages s.stdout =
      backsRest env opt pages r₁ (blankOut env opt pages f₁).1 t.stdout := by
    have hfirst : attempt (writeChunk pauseChunk) s.stdout = (.ok r₁, f₁) := by
      simp only [attempt, hw]
    unfold backsOut
    rw [bind_ok hfirst, hout]
    rfl
  rw [hrun]
  -- The pause, the blank sheet and the back sides each end the output where they fail.
  cases r₁ with
  | error e =>
    refine ⟨1, _, t, rfl, ?_, ?_, hcancel, harr, fun h => by cases h⟩
    · rw [houtput]
      rfl
    · rw [houtput]
      simp [backsRest, fail]
  | ok =>
    cases r₂ with
    | error e =>
      have hno : (blankOut env opt pages f₁).1 = .error () := by
        rcases hb : (blankOut env opt pages f₁).1 with ⟨⟩ | ⟨⟩
        · rfl
        · cases hok.mpr hb
      rw [hno] at houtput
      refine ⟨1, _, t, rfl, ?_, ?_, hcancel, harr, fun h => by cases h⟩
      · rw [houtput]
        rfl
      · rw [houtput]
        simp [backsRest, fail]
    | ok =>
      have hyes : (blankOut env opt pages f₁).1 = .ok () := hok.mp rfl
      rw [hyes] at houtput
      dsimp only [backsRest] at houtput
      have hholds : (t.spool .backs).Holds ((evens pages).map (blockBytes env opt)) := hspool ▸ hb
      obtain ⟨r, pos, f, hcopy, hwrite⟩ := copyStep (k := .backs) (by decide) hholds
        (fun j => (evens pages).length - 1 - j) (fun j hj => by omega)
        (evens pages).reverse (by
          have hrev := flatMap_range_reverse ((evens pages).map (blockBytes env opt))
          rw [List.length_map] at hrev
          rw [hrev, List.map_reverse])
      simp only [hwrite] at houtput
      unfold sendBacks
      dsimp only
      rw [bind_ok hcopy]
      cases r with
      | error e =>
        refine ⟨1, _, _, rfl, ?_, ?_, hcancel, harr, fun h => by cases h⟩
        · rw [houtput]
          rfl
        · rw [houtput]
          simp
      | ok =>
        refine ⟨0, _, _, rfl, ?_, ?_, hcancel, harr, fun _ => ?_⟩
        · rw [houtput]
          rfl
        · rw [houtput]
          simp
        · rw [copied_pageLines]
          exact hlog rfl

theorem replaySpools_emits (hf : (s.spool .fronts).Holds ((odds pages).map (blockBytes env opt)))
    (hb : (s.spool .backs).Holds ((evens pages).map (blockBytes env opt))) :
    ∃ st q t, replaySpools env opt (progressAfter pages) s = (.ok (st, q), t) ∧
      Emits (replayOut env opt pages) (blankLine pages) s (st = 0) t := by
  have hnum : (s.spool .fronts).slots.length = (odds pages).length := by
    rw [hf.slots, slotsFrom_length, List.length_map]
  have hgets : (gets fun s => s.fronts.slots.length : Prog Unit Filter Nat) s =
      (.ok (odds pages).length, s) := Prod.ext (congrArg Except.ok hnum) rfl
  obtain ⟨r, pos, f, hcopy, hwrite⟩ := copyStep (k := .fronts) (by decide) hf (fun i => i)
    (fun i hi => hi) (odds pages) (by
      have hall := flatMap_range_getD ((odds pages).map (blockBytes env opt))
      rwa [List.length_map] at hall)
  unfold replaySpools replayOut
  rw [bind_ok hgets, bind_ok hcopy]
  cases r with
  | error e =>
    refine ⟨1, _, _, rfl, ?_, ?_, rfl, rfl, nofun⟩
    · rw [bind_error hwrite]
      rfl
    · rw [bind_error hwrite]
      simp
  | ok =>
    dsimp only
    rw [msg_bind, msg_bind]
    set s₁ : Filter := { s.copied .fronts pos f with
      log := (s.copied .fronts pos f).log ++ [.state "+MDuplex"] ++
        [.info ("Manual duplex: take the stack out of the output tray, " ++
          "turn it over and put it back printed side down")] } with hs₁
    have hb₁ : (s₁.spool .backs).Holds ((evens pages).map (blockBytes env opt)) := hb
    have hlog : s₁.pageLines = s.pageLines := by
      simp [hs₁, Filter.pageLines, Diagnostic.pageLine, Filter.copied, Filter.file]
    obtain ⟨st, q, t, hrun, hout, hok, hcancel, harr, hlines⟩ := @replayBacks_emits env opt _ _ hb₁
    refine ⟨st, q, t, hrun, ?_, ?_, hcancel, harr, fun h => hlog ▸ hlines h⟩
    · rw [bind_ok hwrite]
      exact hout
    · rw [bind_ok hwrite]
      exact hok

end

end PantumOpen.Print
