import PantumOpen.Print.PageStream
import PantumOpen.Print.Rendering

/-! What becomes of one page: it is written out whole, or it fails before any file is touched. -/

namespace PantumOpen.Print
open Prog Stdio

variable {env : Env} {opt : JobOptions} {page : UInt32} {k : Sink} {p : RasterPage}

def Filter.files (s : Filter) : File × PageSpool × PageSpool := (s.stdout, s.fronts, s.backs)

def sheetImage (env : Env) (hdr : PageHeader) (lay : PageLayout) (opt : JobOptions)
    (lines : List (List UInt8)) : List (List UInt8) :=
  env.jbig (pageBitmap hdr lay opt lines) (lay.videoX * lay.depth) lay.videoY

def pageBlock (env : Env) (opt : JobOptions) (p : RasterPage) : List Chunk :=
  pageChunks p.hdr (pageLayout p.hdr opt) opt
    (sheetImage env p.hdr (pageLayout p.hdr opt) opt p.lines).flatten

def blankImage (env : Env) (lay : PageLayout) : List (List UInt8) :=
  let bmpW := if lay.rotate90 then lay.videoY else lay.videoX
  let bmpH := if lay.rotate90 then lay.videoX else lay.videoY
  env.jbig (List.replicate (bmpW.toNat * lay.depth.toNat / 8 * bmpH.toNat) 0) (bmpW * lay.depth) bmpH

def blankBlock (env : Env) (opt : JobOptions) (hdr : PageHeader) : List Chunk :=
  pageChunks hdr (pageLayout hdr opt) opt (blankImage env (pageLayout hdr opt)).flatten

def compresses (grow : Nat → Bool) (pieces : List (List UInt8)) : Bool :=
  !((jbigCollect grow pieces).failed || (jbigCollect grow pieces).data.length < jbigBihLen)

theorem bufAppend_failed (room : Bool) {b : Buf} (src : List UInt8) (h : b.failed = true) :
    bufAppend room b src = b := by
  rw [bufAppend, if_pos h]

theorem bufAppend_data {room : Bool} {b : Buf} {src : List UInt8}
    (h : (bufAppend room b src).failed = false) :
    b.failed = false ∧ (bufAppend room b src).data = b.data ++ src := by
  unfold bufAppend at h ⊢
  by_cases hb : b.failed = true
  · rw [if_pos hb, hb] at h
    exact absurd h (by decide)
  · rw [if_neg hb] at h ⊢
    refine ⟨Bool.eq_false_iff.mpr hb, ?_⟩
    by_cases hlen : b.data.length + src.length > b.cap
    · rw [if_pos hlen] at h ⊢
      cases room
      · exact absurd h (by simp)
      · rfl
    · rw [if_neg hlen]

theorem jbigCollect_data {grow : Nat → Bool} {pieces : List (List UInt8)}
    (h : (jbigCollect grow pieces).failed = false) :
    (jbigCollect grow pieces).data = pieces.flatten := by
  have key (pieces : List (List UInt8)) : ∀ b : Buf × Nat,
      (pieces.foldl (fun b piece => (bufAppend (grow b.2) b.1 piece, b.2 + 1)) b).1.failed = false →
        b.1.failed = false ∧
        (pieces.foldl (fun b piece => (bufAppend (grow b.2) b.1 piece, b.2 + 1)) b).1.data =
          b.1.data ++ pieces.flatten := by
    induction pieces with
    | nil => exact fun b hb => ⟨hb, by simp⟩
    | cons piece pieces ih =>
      intro b hb
      obtain ⟨hone, hdata⟩ := ih _ hb
      obtain ⟨hfail, happend⟩ := bufAppend_data hone
      refine ⟨hfail, ?_⟩
      rw [List.foldl_cons, hdata, happend, List.flatten_cons, List.append_assoc]
  exact (key pieces ({}, 0) h).2

theorem jbigCollect_room (pieces : List (List UInt8)) :
    (jbigCollect (fun _ => true) pieces).failed = false := by
  have key (pieces : List (List UInt8)) : ∀ b : Buf × Nat, b.1.failed = false →
      (pieces.foldl (fun b piece => (bufAppend true b.1 piece, b.2 + 1)) b).1.failed = false := by
    induction pieces with
    | nil => exact fun b hb => hb
    | cons piece pieces ih =>
      refine fun b hb => ih _ ?_
      unfold bufAppend
      simp only [hb, Bool.false_eq_true, if_false, if_true]
      split <;> rfl
  exact key pieces ({}, 0) rfl

theorem compresses_room {grow : Nat → Bool} {pieces : List (List UInt8)}
    (h : compresses grow pieces = true) : compresses (fun _ => true) pieces = true := by
  unfold compresses at h ⊢
  rw [Bool.not_eq_true', Bool.or_eq_false_iff] at h
  have hroom := jbigCollect_room pieces
  rw [hroom, jbigCollect_data hroom, ← jbigCollect_data h.1, h.2]
  rfl

theorem jbigCompress_ok {bitmap : List UInt8} {w h : UInt32}
    (hc : compresses (env.allocs page).grow (env.jbig bitmap w h) = true) :
    jbigCompress env page bitmap w h = pure (env.jbig bitmap w h).flatten := by
  unfold compresses at hc
  rw [Bool.not_eq_true'] at hc
  unfold jbigCompress
  simp only [hc, Bool.false_eq_true, if_false]
  rw [Bool.or_eq_false_iff] at hc
  rw [jbigCollect_data hc.1]

theorem jbigCompress_error {bitmap : List UInt8} {w h : UInt32}
    (hc : compresses (env.allocs page).grow (env.jbig bitmap w h) = false) (s : Filter) :
    jbigCompress env page bitmap w h s =
      (.error (), { s with log := s.log ++ [.error "Out of memory while compressing a page"] }) := by
  unfold compresses at hc
  rw [Bool.not_eq_false'] at hc
  unfold jbigCompress
  simp only [hc, if_true]
  rfl

def putBlock (env : Env) (k : Sink) (bs : List UInt8) : Prog Unit Filter Unit := do
  match ← attempt (zoom (Filter.file k) (writeAll bs)) with
  | .ok _ => pure ()
  | .error _ =>
    msg (.error s!"Cannot write the page out: {env.strerror}")
    fail ()

theorem finishPage_ok {hdr : PageHeader} {lay : PageLayout} {bitmap : List UInt8} {bmpW bmpH : UInt32}
    (hc : compresses (env.allocs page).grow (env.jbig bitmap (bmpW * lay.depth) bmpH) = true) :
    finishPage env page k hdr lay opt bitmap bmpW bmpH =
      putBlock env k ((pageChunks hdr lay opt (env.jbig bitmap (bmpW * lay.depth) bmpH).flatten).flatMap
        Chunk.bytes) := by
  unfold finishPage putBlock
  rw [jbigCompress_ok hc, ← emitPage_eq]
  rfl

theorem finishPage_error {hdr : PageHeader} {lay : PageLayout} {bitmap : List UInt8}
    {bmpW bmpH : UInt32}
    (hc : compresses (env.allocs page).grow (env.jbig bitmap (bmpW * lay.depth) bmpH) = false)
    (s : Filter) : finishPage env page k hdr lay opt bitmap bmpW bmpH s =
      (.error (), { s with log := s.log ++ [.error "Out of memory while compressing a page"] }) :=
  bind_error (jbigCompress_error hc s)

section
variable {hdr : PageHeader} {lay : PageLayout} {lines : List (List UInt8)}

theorem keeps_readLine (y : Nat) (row : Buffer) : Keeps Filter.files (readLine hdr lay y row) := by
  refine keeps_ite (keeps_bind (keeps_zoom (fun _ _ => rfl) _) fun r => ?_)
    (keeps_ite (keeps_pure _) (keeps_pure _))
  cases r with
  | some pixels => exact keeps_pure _
  | none =>
    apply keeps_bind (fun _ => rfl)
    intro c
    cases c <;> exact keeps_bind (keeps_modify fun _ => rfl) fun _ => keeps_fail ()

theorem keeps_rasterizePage : Keeps Filter.files (rasterizePage env page hdr lay opt) := by
  refine keeps_ite (keeps_bind (keeps_modify fun _ => rfl) fun _ => keeps_fail ()) ?_
  refine keeps_bind (keeps_forIndex (fun y b => ?_) _ _) fun b => ?_
  · exact keeps_bind (keeps_readLine y b.row) fun _ => keeps_pure _
  · exact keeps_bind (keeps_zoom (fun _ _ => rfl) _) fun _ => keeps_pure _

theorem drawLine_short (s : Filter) {y : Nat} (hy : y < hdr.cupsHeight.toNat) (hend : lines.length ≤ y)
    (b : PageBuffers) : ∃ t, drawLine hdr lay opt y b (s.atLine lines y) = (.error (), t) := by
  have hread : zoom Filter.rasterLens cupsRasterReadPixels (s.atLine lines y) =
      (.ok none, s.atLine lines y) := by
    simp only [zoom, Filter.rasterLens, Filter.atLine, List.drop_eq_nil_of_le hend,
      cupsRasterReadPixels]
  have hline : ∃ t, readLine hdr lay y b.row (s.atLine lines y) = (.error (), t) := by
    unfold readLine
    rw [if_pos hy, bind_ok hread]
    rcases hc : jobCancelled (s.atLine lines y) with ⟨_ | c, t⟩
    · exact ⟨t, bind_error hc⟩
    · cases c
      · exact ⟨_, bind_ok hc⟩
      · exact ⟨_, bind_ok hc⟩
  obtain ⟨t, ht⟩ := hline
  exact ⟨t, bind_error ht⟩

theorem drawLine_loop_short (s : Filter) (h : lines.length < min lay.srcH hdr.cupsHeight.toNat)
    (b : PageBuffers) :
    ∃ t, forIndex 0 (drawLine hdr lay opt) lay.srcH b (s.atLine lines 0) = (.error (), t) := by
  obtain ⟨t, ht⟩ := @drawLine_short opt hdr lay lines s _
    (show lines.length < hdr.cupsHeight.toNat by omega) le_rfl
    (drawLines hdr lay opt lines lines.length b)
  have hstep (y : Nat) (hy : y < lines.length) : drawLine hdr lay opt (0 + y)
      (drawLines hdr lay opt lines y b) (s.atLine lines y) =
        (.ok (drawLines hdr lay opt lines (y + 1) b), s.atLine lines (y + 1)) := by
    have hline := @drawLine_ok hdr lay opt lines s _
      (fun _ => hy) (drawLines hdr lay opt lines y b)
    rw [Nat.min_eq_left (by omega), Nat.min_eq_left (by omega)] at hline
    rw [Nat.zero_add, hline]
    simp only [drawLines, Buffer.forRange, Nat.zero_add]
  refine ⟨t, forIndex_error (a := fun n => drawLines hdr lay opt lines n b)
    (s := fun n => s.atLine lines n) (show lines.length < lay.srcH by omega) hstep ?_⟩
  rw [Nat.zero_add]
  exact ht

theorem rasterizePage_error (hd : ¬ Drawable env page hdr lay lines) {s : Filter}
    (hs : s.raster.lines = lines) : ∃ t, rasterizePage env page hdr lay opt s = (.error (), t) := by
  have hstart : s.atLine lines 0 = s := by
    rw [← hs]
    rfl
  unfold rasterizePage
  dsimp only
  by_cases ha : (!(env.allocs page).bitmap || !(env.allocs page).row ||
      (lay.rotate90 && !(env.allocs page).gray)) = true
  · rw [if_pos ha]
    exact ⟨_, rfl⟩
  · have hshort : lines.length < min lay.srcH hdr.cupsHeight.toNat := by
      refine Nat.lt_of_not_le fun hlines => hd ?_
      simp only [Bool.or_eq_true, Bool.not_eq_true', Bool.and_eq_true, not_or, not_and,
        Bool.not_eq_false] at ha
      exact ⟨ha.1.1, ha.1.2, ha.2, hlines⟩
    obtain ⟨t, ht⟩ := @drawLine_loop_short opt _ _ _ s hshort
      ⟨(env.uninit page).row.memset 0 0xff (rowlen hdr lay), (env.uninit page).gray,
        (env.uninit page).bitmap⟩
    rw [hstart] at ht
    rw [if_neg ha]
    exact ⟨t, bind_error ht⟩

end

/-- The page passes its checks, its lines can be read as far as they are drawn, and it finds the
memory it needs. -/
structure Renders (env : Env) (opt : JobOptions) (page : UInt32) (p : RasterPage) : Prop where
  accepted : p.hdr.accepted = true
  drawable : Drawable env page p.hdr (pageLayout p.hdr opt) p.lines
  compressed : compresses (env.allocs page).grow
    (sheetImage env p.hdr (pageLayout p.hdr opt) opt p.lines) = true

theorem drawable_iff {hdr : PageHeader} {lay : PageLayout} {lines : List (List UInt8)} :
    Drawable env page hdr lay lines ↔ ((env.allocs page).bitmap = true ∧
      (env.allocs page).row = true ∧ (lay.rotate90 = true → (env.allocs page).gray = true) ∧
      min lay.srcH hdr.cupsHeight.toNat ≤ lines.length) :=
  ⟨fun h => ⟨h.bitmap, h.row, h.gray, h.lines⟩, fun ⟨hb, hr, hg, hl⟩ => ⟨hb, hr, hg, hl⟩⟩

instance {hdr : PageHeader} {lay : PageLayout} {lines : List (List UInt8)} :
    Decidable (Drawable env page hdr lay lines) := decidable_of_iff _ drawable_iff.symm

theorem renders_iff : Renders env opt page p ↔ (p.hdr.accepted = true ∧
    Drawable env page p.hdr (pageLayout p.hdr opt) p.lines ∧
    compresses (env.allocs page).grow
      (sheetImage env p.hdr (pageLayout p.hdr opt) opt p.lines) = true) :=
  ⟨fun h => ⟨h.accepted, h.drawable, h.compressed⟩, fun ⟨ha, hd, hc⟩ => ⟨ha, hd, hc⟩⟩

instance : Decidable (Renders env opt page p) := decidable_of_iff _ renders_iff.symm

theorem RasterPage.atEnd (p : RasterPage) (s : Filter) :
    s.atLine p.lines p.hdr.cupsHeight.toNat = { s with raster := ⟨[], s.raster.pages⟩ } := by
  unfold Filter.atLine
  rw [List.drop_eq_nil_of_le p.tall]

/-- A page that renders is one block of bytes. -/
theorem renderPage_block (h : Renders env opt page p) {s : Filter} (hs : s.raster.lines = p.lines) :
    renderPage env page k p.hdr opt s =
      putBlock env k ((pageBlock env opt p).flatMap Chunk.bytes)
        { s with raster := ⟨[], s.raster.pages⟩ } := by
  obtain ⟨-, -, -, -, hwide⟩ := PageHeader.accepted_bounds h.accepted
  obtain ⟨b, hb⟩ := rasterizePage_ok opt h.drawable hs
  unfold renderPage
  rw [bind_ok hb, rendered_bytes (pageLayout_regular h.accepted opt) hwide, p.atEnd,
    finishPage_ok h.compressed]
  rfl

/-- A page that does not render leaves no byte in any file. -/
theorem renderPage_error (hacc : p.hdr.accepted = true) (h : ¬ Renders env opt page p) {s : Filter}
    (hs : s.raster.lines = p.lines) :
    ∃ t, renderPage env page k p.hdr opt s = (.error (), t) ∧ t.files = s.files := by
  obtain ⟨-, -, -, -, hwide⟩ := PageHeader.accepted_bounds hacc
  unfold renderPage
  by_cases hd : Drawable env page p.hdr (pageLayout p.hdr opt) p.lines
  · obtain ⟨b, hb⟩ := rasterizePage_ok opt hd hs
    have hc : compresses (env.allocs page).grow
        (sheetImage env p.hdr (pageLayout p.hdr opt) opt p.lines) = false :=
      Bool.eq_false_iff.mpr fun hc => h ⟨hacc, hd, hc⟩
    rw [bind_ok hb, rendered_bytes (pageLayout_regular hacc opt) hwide, finishPage_error hc]
    exact ⟨_, rfl, rfl⟩
  · obtain ⟨t, ht⟩ := @rasterizePage_error env opt page _ _ _ hd _ hs
    refine ⟨t, bind_error ht, ?_⟩
    have hkeep := @keeps_rasterizePage env opt page p.hdr (pageLayout p.hdr opt) s
    rwa [ht] at hkeep

theorem keeps_finishPage {hdr : PageHeader} {lay : PageLayout} {bitmap : List UInt8}
    {bmpW bmpH : UInt32} :
    Keeps Filter.raster (finishPage env page k hdr lay opt bitmap bmpW bmpH) := by
  refine keeps_bind ?_ fun bie => keeps_bind (keeps_attempt (keeps_zoom (fun f s => ?_) _)) fun r => ?_
  · exact keeps_ite (keeps_bind (keeps_modify fun _ => rfl) fun _ => keeps_fail ()) (keeps_pure _)
  · cases k <;> rfl
  · cases r
    · exact keeps_bind (keeps_modify fun _ => rfl) fun _ => keeps_fail ()
    · exact keeps_pure _

theorem renderPage_raster {hdr : PageHeader} {lines : List (List UInt8)}
    (h : Drawable env page hdr (pageLayout hdr opt) lines) {s : Filter} (hs : s.raster.lines = lines) :
    (renderPage env page k hdr opt s).2.raster.lines = lines.drop hdr.cupsHeight.toNat := by
  obtain ⟨b, hb⟩ := rasterizePage_ok opt h hs
  unfold renderPage
  rw [bind_ok hb]
  exact congrArg Raster.lines (keeps_finishPage _)

def blankRenders (env : Env) (opt : JobOptions) (page : UInt32) (hdr : PageHeader) : Bool :=
  (env.allocs page).bitmap && compresses (env.allocs page).grow (blankImage env (pageLayout hdr opt))

theorem renderBlankPage_block {hdr : PageHeader} (h : blankRenders env opt page hdr = true) :
    renderBlankPage env page k hdr opt =
      putBlock env k ((blankBlock env opt hdr).flatMap Chunk.bytes) := by
  unfold blankRenders at h
  rw [Bool.and_eq_true] at h
  unfold renderBlankPage
  dsimp only
  rw [h.1]
  exact finishPage_ok h.2

theorem renderBlankPage_error {hdr : PageHeader} (h : blankRenders env opt page hdr = false)
    (s : Filter) :
    ∃ e, renderBlankPage env page k hdr opt s = (.error (), { s with log := s.log ++ [.error e] }) := by
  unfold blankRenders at h
  unfold renderBlankPage
  cases hb : (env.allocs page).bitmap
  · exact ⟨_, rfl⟩
  · rw [hb, Bool.true_and] at h
    exact ⟨_, finishPage_error h s⟩

end PantumOpen.Print
