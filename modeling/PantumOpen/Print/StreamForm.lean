import PantumOpen.Print.JobOutput
import PantumOpen.Print.Reference

/-! The stream of a job without manual duplex: its frame and the page blocks in it. -/

namespace PantumOpen.Print
open Prog Stdio

variable {env : Env} {opt : JobOptions}

/-- What ends a job before its page `i`, counted from 0. -/
inductive Stops (env : Env) (opt : JobOptions) (arrivals : List Bool) (pages : List RasterPage)
    (i : Nat) : Prop where
  | cancelled (h : arrivals.getD i false = true)
  | missing (h : pages.length ≤ i)
  | rejected {p : RasterPage} (hp : pages[i]? = some p) (h : p.hdr.accepted = false)
  | unread {p : RasterPage} (hp : pages[i]? = some p)
      (h : p.lines.length < min (pageLayout p.hdr opt).srcH p.hdr.cupsHeight.toNat)
  | unallocated {p : RasterPage} (hp : pages[i]? = some p)
      (h : (env.allocs (pageNumber i)).bitmap = false ∨ (env.allocs (pageNumber i)).row = false ∨
        ((pageLayout p.hdr opt).rotate90 = true ∧ (env.allocs (pageNumber i)).gray = false))
  | uncompressed {p : RasterPage} (hp : pages[i]? = some p)
      (h : compresses (env.allocs (pageNumber i)).grow
        (sheetImage env p.hdr (pageLayout p.hdr opt) opt p.lines) = false)

theorem stops_iff {arrivals : List Bool} {pages : List RasterPage} {i : Nat} :
    Stops env opt arrivals pages i ↔ arrivals.getD i false = true ∨ pages[i]? = none ∨
      ∃ p, pages[i]? = some p ∧ ¬ Renders env opt (pageNumber i) p := by
  constructor
  · rintro (h | h | ⟨hp, h⟩ | ⟨hp, h⟩ | ⟨hp, h⟩ | ⟨hp, h⟩)
    · exact .inl h
    · exact .inr (.inl (List.getElem?_eq_none h))
    · exact .inr (.inr ⟨_, hp, fun hr => absurd (h.symm.trans hr.accepted) (by decide)⟩)
    · exact .inr (.inr ⟨_, hp, fun hr => absurd hr.drawable.lines (Nat.not_le.mpr h)⟩)
    · refine .inr (.inr ⟨_, hp, fun hr => ?_⟩)
      rcases h with h | h | ⟨hrot, h⟩
      · exact absurd (h.symm.trans hr.drawable.bitmap) (by decide)
      · exact absurd (h.symm.trans hr.drawable.row) (by decide)
      · exact absurd (h.symm.trans (hr.drawable.gray hrot)) (by decide)
    · exact .inr (.inr ⟨_, hp, fun hr => absurd (h.symm.trans hr.compressed) (by decide)⟩)
  · rintro (h | h | ⟨p, hp, h⟩)
    · exact .cancelled h
    · exact .missing (List.getElem?_eq_none_iff.mp h)
    · by_contra hno
      refine h ⟨?_, ⟨?_, ?_, fun hrot => ?_, ?_⟩, ?_⟩
      · exact Bool.eq_true_of_not_eq_false fun hf => hno (.rejected hp hf)
      · exact Bool.eq_true_of_not_eq_false fun hf => hno (.unallocated hp (.inl hf))
      · exact Bool.eq_true_of_not_eq_false fun hf => hno (.unallocated hp (.inr (.inl hf)))
      · exact Bool.eq_true_of_not_eq_false fun hf => hno (.unallocated hp (.inr (.inr ⟨hrot, hf⟩)))
      · exact Nat.le_of_not_lt fun hf => hno (.unread hp hf)
      · exact Bool.eq_true_of_not_eq_false fun hf => hno (.uncompressed hp hf)

theorem prints_simplex (hd : opt.manualDuplex = false) {i : Nat} {p : RasterPage} :
    Prints env opt i p ↔ Renders env opt (pageNumber i) p :=
  ⟨fun h => h.renders, fun h => ⟨h, fun hyes => absurd (hd.symm.trans hyes) (by decide)⟩⟩

/-- The pages of a simplex job are printed up to the first that stops it. -/
theorem printed_least (hd : opt.manualDuplex = false) (arrivals : List Bool) (pages : List RasterPage) :
    IsLeast {i | Stops env opt arrivals pages i} (printed env opt arrivals 0 pages).length := by
  obtain ⟨hbefore, hat⟩ := @printed_spec env opt arrivals 0 pages
  refine ⟨stops_iff.mpr ?_, fun i hi => Nat.le_of_not_lt fun hlt => ?_⟩
  · rw [Nat.zero_add] at hat
    simpa only [prints_simplex hd] using hat
  · obtain ⟨hno, p, hp, hprints⟩ := hbefore i hlt
    rw [Nat.zero_add, prints_simplex hd] at hprints
    rcases stops_iff.mp hi with h | h | ⟨q, hq, h⟩
    · exact absurd (hno.symm.trans h) (by decide)
    · exact absurd (h.symm.trans hp) nofun
    · obtain rfl : p = q := Option.some.inj (hp.symm.trans hq)
      exact h hprints

def frame (body : List UInt8) : List UInt8 := headBytes ++ body ++ tailBytes

theorem put_start (bs : List UInt8) : (File.put {} bs).bytes = bs := by
  simp [File.put]

theorem jobOut_bytes {arrivals : List Bool} {pages : List RasterPage} {body : List UInt8}
    (hbody : bodyOut env opt arrivals pages = writeAll body) :
    (jobOut env opt arrivals pages { cut := none }).2.bytes = frame body := by
  have hjob : (jobOut env opt arrivals pages { cut := none }).2 =
      File.put { cut := none } (frame body) := by
    unfold jobOut
    rw [beginDoc_eq, bind_ok (writeAll_none rfl headBytes), attempt_bind, hbody,
      writeAll_none rfl body, endDoc_eq, writeAll_none rfl tailBytes, File.put_put, File.put_put]
    rfl
  rw [hjob]
  exact put_start _

theorem bodyOut_simplex (hd : opt.manualDuplex = false) (arrivals : List Bool)
    (pages : List RasterPage) : bodyOut env opt arrivals pages =
      writeAll (((printed env opt arrivals 0 pages).map (blockBytes env opt)).flatten) := by
  unfold bodyOut
  rw [hd, blockBytes_flatten, writeChunks_eq]
  rfl

def RasterPage.alone (p : RasterPage) : RasterStream := ⟨[p], fun _ h => absurd h List.not_mem_nil⟩

/-- Memory is all that can keep a page from rendering elsewhere. -/
theorem Renders.elsewhere {env' : Env} {n n' : UInt32} {p : RasterPage} (h : Renders env opt n p)
    (hjbig : env'.jbig = env.jbig) (halloc : env'.allocs n' = {}) : Renders env' opt n' p := by
  refine ⟨h.accepted, ⟨by rw [halloc], by rw [halloc], fun _ => by rw [halloc], h.drawable.lines⟩, ?_⟩
  have hc := h.compressed
  have himage : sheetImage env' p.hdr (pageLayout p.hdr opt) opt p.lines =
      sheetImage env p.hdr (pageLayout p.hdr opt) opt p.lines := by
    unfold sheetImage
    rw [hjbig]
  rw [himage, halloc]
  exact compresses_room hc

theorem pageBlock_congr {env' : Env} (hjbig : env'.jbig = env.jbig) (p : RasterPage) :
    blockBytes env' opt p = blockBytes env opt p := by
  unfold blockBytes pageBlock sheetImage
  rw [hjbig]

theorem solo_stream (hd : opt.manualDuplex = false) (hraster : env.rasterOpens = true) {p : RasterPage}
    (h : Renders env opt 1 p) :
    (main env opt (.start p.alone [] none)).2.stdout.bytes = frame (blockBytes env opt p) := by
  obtain ⟨st, t, hrun, hout, -⟩ := @main_spec env opt hraster
    (fun hyes => absurd (hd.symm.trans hyes) (by decide)) p.alone [] none
  have hprinted : printed env opt [] 0 [p] = [p] := by
    have hp : Prints env opt 0 p := (prints_simplex hd).mpr h
    rw [printed, if_pos ⟨rfl, hp⟩]
    rfl
  rw [hrun, hout, jobOut_bytes (bodyOut_simplex hd [] p.alone.pages)]
  change frame ((printed env opt [] 0 [p]).map (blockBytes env opt)).flatten = _
  rw [hprinted, List.map_singleton, List.flatten_singleton]

/-- The stream of a job is the frame of a document around the blocks of the pages before the first
that stops it, each of them the block of a job of its own. -/
theorem stream_wellFormed (hd : opt.manualDuplex = false) (hraster : env.rasterOpens = true)
    (r : RasterStream) (arrivals : List Bool) :
    ∃ (m : Nat) (blocks : List (List UInt8)),
      IsLeast {i | Stops env opt arrivals r.pages i} m ∧ blocks.length = m ∧
      (main env opt (.start r arrivals none)).2.stdout.bytes = frame blocks.flatten ∧
      ∀ i p, i < m → r.pages[i]? = some p →
        blocks[i]? = some ((pageBlock env opt p).flatMap Chunk.bytes) ∧
        (∀ env' : Env, env'.jbig = env.jbig → env'.allocs 1 = {} → env'.rasterOpens = true →
          (main env' opt (.start p.alone [] none)).2.stdout.bytes =
            frame ((pageBlock env opt p).flatMap Chunk.bytes)) ∧
        ∀ (k : Sink) (s : Filter), p.hdr.cupsHeight.toNat ≤ s.raster.lines.length →
          (renderPage env (pageNumber i) k p.hdr opt s).2.raster.lines =
            s.raster.lines.drop p.hdr.cupsHeight.toNat := by
  obtain ⟨st, t, hrun, hout, -⟩ := @main_spec env opt hraster
    (fun hyes => absurd (hd.symm.trans hyes) (by decide)) r arrivals none
  have hprefix := @printed_isPrefixOf env opt arrivals 0 r.pages
  obtain ⟨hbefore, -⟩ := @printed_spec env opt arrivals 0 r.pages
  refine ⟨_, (printed env opt arrivals 0 r.pages).map (blockBytes env opt), printed_least hd arrivals
    r.pages, List.length_map _, ?_, fun i p hi hp => ?_⟩
  · rw [hrun, hout, jobOut_bytes (bodyOut_simplex hd arrivals r.pages)]
  · obtain ⟨-, q, hq, hprints⟩ := hbefore i hi
    obtain rfl : p = q := Option.some.inj (hp.symm.trans hq)
    rw [Nat.zero_add, prints_simplex hd] at hprints
    refine ⟨?_, fun env' hjbig halloc hraster' => ?_, fun k s hs => ?_⟩
    · have hsame := List.prefix_iff_getElem?.mp hprefix i hi
      rw [hp] at hsame
      rw [List.getElem?_map, List.getElem?_eq_getElem hi, ← hsame]
      rfl
    · rw [solo_stream hd hraster' (hprints.elsewhere hjbig halloc), pageBlock_congr hjbig]
      rfl
    · have hdraw : Drawable env (pageNumber i) p.hdr (pageLayout p.hdr opt) s.raster.lines :=
        ⟨hprints.drawable.bitmap, hprints.drawable.row, hprints.drawable.gray,
          (Nat.min_le_right _ _).trans hs⟩
      exact renderPage_raster hdraw rfl

theorem stream_wellFormed_blackPage :
    let env : Env := { jbig := fun bitmap _ _ => [bitmap] }
    let opt : JobOptions := ⟨2, true, false, true, false, 0⟩
    ∃ (m : Nat) (blocks : List (List UInt8)),
      IsLeast {i | Stops env opt [] blackPage.alone.pages i} m ∧ blocks.length = m ∧
      (main env opt (.start blackPage.alone [] none)).2.stdout.bytes = frame blocks.flatten := by
  intro env opt
  obtain ⟨m, blocks, hleast, hlen, hout, -⟩ :=
    @stream_wellFormed env opt rfl rfl blackPage.alone []
  exact ⟨m, blocks, hleast, hlen, hout⟩

end PantumOpen.Print
