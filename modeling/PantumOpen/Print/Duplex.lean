import PantumOpen.Print.StreamForm

/-! Manual duplex: the pages of the simplex job, in the order in which they are printed. -/

namespace PantumOpen.Print
open Prog Stdio

variable {env : Env} {opt : JobOptions}

def Completes (env : Env) (opt : JobOptions) (s : Filter) : Prop :=
  (main env opt s).1 = .ok 0 ∧ (main env opt s).2.cancelled = false

theorem main_rasterClosed (hraster : env.rasterOpens = false) (s : Filter) :
    (main env opt s).1 = .ok 1 := by
  unfold main
  rw [msg_bind, hraster]
  split <;> rfl

theorem main_spoolsClosed (hd : opt.manualDuplex = true) (hspools : env.spoolsOpen = false)
    (s : Filter) : (main env opt s).1 = .ok 1 := by
  unfold main
  rw [msg_bind, hd, hspools]
  rfl

theorem Completes.completed {r : RasterStream} {arrivals : List Bool}
    (h : Completes env opt (.start r arrivals none)) :
    env.rasterOpens = true ∧ ∃ s : Filter, Completed env opt s r.pages
        (main env opt (.start r arrivals none)).2 ∧ s.arrivals = arrivals ∧
        s.stdout = File.put { cut := none } headBytes ∧ s.pageLines = [] ∧
        (main env opt (.start r arrivals none)).2.stdout =
          (jobOut env opt arrivals r.pages { cut := none }).2 := by
  have hraster : env.rasterOpens = true := Bool.eq_true_of_not_eq_false fun hno => by
    have hzero := h.1.symm.trans (main_rasterClosed hno _)
    exact absurd (Except.ok.inj hzero) (by decide)
  have hspools (hd : opt.manualDuplex = true) : env.spoolsOpen = true :=
    Bool.eq_true_of_not_eq_false fun hno => by
      have hzero := h.1.symm.trans (main_spoolsClosed hd hno _)
      exact absurd (Except.ok.inj hzero) (by decide)
  obtain ⟨st, t, hrun, hout, hdone⟩ := @main_spec env opt hraster hspools r arrivals none
  unfold Completes at h
  rw [hrun] at h ⊢
  obtain ⟨s, hcompleted, hbegin, harr, hlines⟩ := hdone (Except.ok.inj h.1) h.2
  rw [beginDoc_eq, writeAll_none rfl] at hbegin
  exact ⟨hraster, s, hcompleted, harr, (Prod.mk.inj hbegin).2.symm, hlines, hout⟩

def duplexChunks (env : Env) (opt : JobOptions) (pages : List RasterPage) : List Chunk :=
  (odds pages).flatMap (pageBlock env opt) ++ [pauseChunk] ++
    (if pages.length % 2 = 0 then [] else blankBlock env opt (progressAfter pages).lastHdr) ++
    (evens pages).reverse.flatMap (pageBlock env opt)

def bodyChunks (env : Env) (opt : JobOptions) (pages : List RasterPage) : List Chunk :=
  if opt.manualDuplex then duplexChunks env opt pages else pages.flatMap (pageBlock env opt)

theorem blankOut_eq {pages : List RasterPage} (h : pages.length % 2 = 0 ∨
    blankRenders env opt (pageNumber pages.length) (progressAfter pages).lastHdr = true) :
    blankOut env opt pages = writeChunks
      (if pages.length % 2 = 0 then [] else blankBlock env opt (progressAfter pages).lastHdr) := by
  unfold blankOut
  by_cases he : pages.length % 2 = 0
  · rw [if_pos he, if_pos he]
    rfl
  · rw [if_neg he, if_neg he, if_pos (h.resolve_left he)]

theorem writeChunks_none {f : File} (hf : f.cut = none) (cs : List Chunk) :
    writeChunks cs f = (.ok (), f.put (cs.flatMap Chunk.bytes)) := by
  rw [writeChunks_eq, writeAll_none hf]

theorem replayOut_none {pages : List RasterPage} {f : File} (hf : f.cut = none)
    (hok : (replayOut env opt pages f).1 = .ok ()) :
    (replayOut env opt pages f).2 = f.put ((duplexChunks env opt pages).flatMap Chunk.bytes) := by
  have hfirst := writeChunks_none hf ((odds pages).flatMap (pageBlock env opt))
  set f₁ := f.put (((odds pages).flatMap (pageBlock env opt)).flatMap Chunk.bytes)
  have hpause : attempt (writeChunk pauseChunk) f₁ = (.ok (.ok ()), f₁.put pauseChunk.bytes) := by
    simp only [attempt, writeChunk_eq, writeAll_none (show f₁.cut = none from hf)]
  set f₂ := f₁.put pauseChunk.bytes
  have hblank : pages.length % 2 = 0 ∨
      blankRenders env opt (pageNumber pages.length) (progressAfter pages).lastHdr = true := by
    by_contra hno
    rw [not_or] at hno
    have hfail : (replayOut env opt pages f).1 = .error () := by
      unfold replayOut backsOut blankOut
      rw [if_neg hno.1, if_neg hno.2, bind_ok hfirst, bind_ok hpause]
      rfl
    cases hfail.symm.trans hok
  have hsheet := writeChunks_none (show f₂.cut = none from hf)
    (if pages.length % 2 = 0 then [] else blankBlock env opt (progressAfter pages).lastHdr)
  rw [← blankOut_eq hblank] at hsheet
  set f₃ := f₂.put ((if pages.length % 2 = 0 then []
    else blankBlock env opt (progressAfter pages).lastHdr).flatMap Chunk.bytes)
  have hblanked : attempt (blankOut env opt pages) f₂ = (.ok (.ok ()), f₃) := by
    simp only [attempt, hsheet]
  unfold replayOut backsOut
  rw [bind_ok hfirst, bind_ok hpause, bind_ok hblanked]
  dsimp only
  rw [writeChunks_none (show f₃.cut = none from hf)]
  simp only [f₃, f₂, f₁, File.put_put, duplexChunks, List.flatMap_append, List.append_assoc,
    List.flatMap_singleton]

theorem Completes.stdout {r : RasterStream} {arrivals : List Bool}
    (h : Completes env opt (.start r arrivals none)) :
    (main env opt (.start r arrivals none)).2.stdout.bytes =
      frame ((bodyChunks env opt r.pages).flatMap Chunk.bytes) := by
  obtain ⟨-, s, hdone, harr, hhead, -, hout⟩ := h.completed
  have hall : printed env opt arrivals 0 r.pages = r.pages :=
    harr ▸ (finishes_iff.mp hdone.finishes).1
  rw [hout]
  cases hd : opt.manualDuplex
  · rw [jobOut_bytes (bodyOut_simplex hd arrivals r.pages), hall, blockBytes_flatten]
    unfold bodyChunks
    rw [hd]
    rfl
  · obtain ⟨hrep, hok⟩ := hdone.replayed hd
    rw [harr] at hrep
    rw [hhead] at hok
    have hbody : bodyOut env opt arrivals r.pages = replayOut env opt r.pages := by
      unfold bodyOut
      rw [hd, hrep]
      rfl
    unfold jobOut bodyChunks
    rw [beginDoc_eq, bind_ok (writeAll_none rfl headBytes), attempt_bind, hbody,
      replayOut_none rfl hok, endDoc_eq, writeAll_none rfl tailBytes, File.put_put, File.put_put, hd]
    exact put_start _

def JobOptions.simplex (opt : JobOptions) : JobOptions := { opt with manualDuplex := false }

theorem printed_simplex {arrivals : List Bool} {i : Nat} {pages : List RasterPage}
    (h : printed env opt arrivals i pages = pages) : printed env opt.simplex arrivals i pages = pages := by
  induction pages generalizing arrivals i with
  | nil => rfl
  | cons p pages ih =>
    by_cases hp : arrivals.headD false = false ∧ Prints env opt i p
    · rw [printed, if_pos hp] at h
      have hsimplex : Prints env opt.simplex i p :=
        ⟨⟨hp.2.renders.accepted, hp.2.renders.drawable, hp.2.renders.compressed⟩,
          fun h => by cases h⟩
      rw [printed, if_pos ⟨hp.1, hsimplex⟩, ih (List.cons.inj h).2]
    · rw [printed, if_neg hp] at h
      cases h

/-- The pages of a manual duplex job are those of the simplex job: the fronts in their order, then,
after the pause and a blank sheet for an odd last page, the backs from the last to the first. -/
theorem manualDuplex_permutes (hd : opt.manualDuplex = true) {r : RasterStream} {arrivals : List Bool}
    (h : Completes env opt (.start r arrivals none)) :
    ∃ (last : RasterPage) (blocks : List (List UInt8)),
      r.pages.getLast? = some last ∧ blocks.length = r.pages.length ∧
      (∀ (i : Nat) (p : RasterPage), r.pages[i]? = some p →
        blocks[i]? = some ((pageBlock env opt p).flatMap Chunk.bytes)) ∧
      (main env opt.simplex (.start r arrivals none)).2.stdout.bytes = frame blocks.flatten ∧
      (main env opt (.start r arrivals none)).2.stdout.bytes =
        frame ((odds blocks).flatten ++ pauseChunk.bytes ++
          (if r.pages.length % 2 = 1 then (blankBlock env opt last.hdr).flatMap Chunk.bytes else []) ++
          (evens blocks).reverse.flatten) := by
  obtain ⟨hraster, s, hdone, harr, -⟩ := h.completed
  have hall : printed env opt arrivals 0 r.pages = r.pages :=
    harr ▸ (finishes_iff.mp hdone.finishes).1
  have hne : r.pages ≠ [] := fun hnil => hdone.counted (by rw [hnil]; rfl)
  have hlast : r.pages.getLast? = some (r.pages.getLast hne) := List.getLast?_eq_some_getLast hne
  have hprogress : (progressAfter r.pages).lastHdr = (r.pages.getLast hne).hdr := by
    unfold progressAfter
    rw [hlast]
    rfl
  obtain ⟨hodds, hevens⟩ := odds_evens_map (blockBytes env opt) r.pages
  obtain ⟨st, t, hrun, hout, -⟩ := @main_spec env opt.simplex hraster nofun r arrivals
    none
  refine ⟨r.pages.getLast hne, r.pages.map (blockBytes env opt), hlast, List.length_map _,
    fun i p hp => ?_, ?_, ?_⟩
  · rw [List.getElem?_map, hp]
    rfl
  · rw [hrun, hout, jobOut_bytes (bodyOut_simplex rfl arrivals r.pages), printed_simplex hall]
    rfl
  · rw [h.stdout, hodds, hevens, ← List.map_reverse, blockBytes_flatten, blockBytes_flatten]
    unfold bodyChunks duplexChunks
    rw [hd, if_pos rfl, hprogress]
    -- The back of an odd last page is the blank sheet.
    by_cases he : r.pages.length % 2 = 0
    · have hodd : ¬ r.pages.length % 2 = 1 := by omega
      rw [if_pos he, if_neg hodd]
      simp only [List.flatMap_append, List.flatMap_singleton, List.flatMap_nil]
    · have hodd : r.pages.length % 2 = 1 := by omega
      rw [if_neg he, if_pos hodd]
      simp only [List.flatMap_append, List.flatMap_singleton]

/-- A page of one dot, to be printed three times. -/
def dotPage : RasterPage where
  hdr := ⟨(600, 600), 3, (100, 100), 1, 1, 0, 8, 1, 0⟩
  lines := [[0]]
  wide := by decide
  tall := by decide

/-- The same page with other copies. -/
def dotCopies (n : UInt32) : RasterPage where
  hdr := { dotPage.hdr with numCopies := n }
  lines := dotPage.lines
  wide := dotPage.wide
  tall := dotPage.tall

def dotEnv : Env := { jbig := fun _ _ _ => [List.replicate 20 0] }

def dotOptions : JobOptions := ⟨2, false, false, false, true, 0⟩

theorem dotPage_completes : Completes dotEnv dotOptions (.start dotPage.alone [] none) := by
  unfold Completes
  decide +kernel

/-- A job of five pages of one dot, which differ in their copies. -/
def dotPages : RasterStream where
  pages := [dotCopies 1, dotCopies 2, dotCopies 4, dotCopies 5, dotPage]
  whole := by
    unfold RasterPage.Whole
    decide

theorem dotPages_complete : Completes dotEnv dotOptions (.start dotPages [] none) := by
  unfold Completes
  decide +kernel

theorem manualDuplex_permutes_dotPages :
    ∃ (last : RasterPage) (blocks : List (List UInt8)),
      dotPages.pages.getLast? = some last ∧ blocks.length = 5 ∧
      (∀ (i : Nat) (p : RasterPage), dotPages.pages[i]? = some p →
        blocks[i]? = some ((pageBlock dotEnv dotOptions p).flatMap Chunk.bytes)) ∧
      (main dotEnv dotOptions.simplex (.start dotPages [] none)).2.stdout.bytes = frame blocks.flatten ∧
      (main dotEnv dotOptions (.start dotPages [] none)).2.stdout.bytes =
        frame ((odds blocks).flatten ++ pauseChunk.bytes ++
          (blankBlock dotEnv dotOptions last.hdr).flatMap Chunk.bytes ++
          (evens blocks).reverse.flatten) :=
  manualDuplex_permutes rfl dotPages_complete

end PantumOpen.Print
