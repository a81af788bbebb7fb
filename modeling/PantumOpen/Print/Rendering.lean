import PantumOpen.Print.Page
import PantumOpen.Print.Sheet

/-! The line by line rendering of a page: whatever the buffers held, what it leaves in the bitmap is
the dithered page. -/

namespace PantumOpen.Print
open Prog Buffer

variable {hdr : PageHeader} {lay : PageLayout} {opt : JobOptions} {lines : List (List UInt8)}

def loadLine (hdr : PageHeader) (lay : PageLayout) (lines : List (List UInt8)) (y : Nat)
    (row : Buffer) : Buffer :=
  if y < hdr.cupsHeight.toNat then
    (row.memcpy 0 (ofList (lines.getD y [])) hdr.cupsBytesPerLine.toNat).memset (copyW hdr lay) 0xff
      (rowlen hdr lay - copyW hdr lay)
  else if y = hdr.cupsHeight.toNat then row.memset 0 0xff (rowlen hdr lay)
  else row

def drawLines (hdr : PageHeader) (lay : PageLayout) (opt : JobOptions) (lines : List (List UInt8)) :
    Nat → PageBuffers → PageBuffers :=
  forRange 0 fun y b => placeLine lay opt y { b with row := loadLine hdr lay lines y b.row }

def turnPage (lay : PageLayout) (opt : JobOptions) (b : PageBuffers) : PageBuffers :=
  if lay.rotate90 then forRange 0 (turnLine lay opt) lay.videoY.toNat b else b

/-- The raster line of the page, in the order of the raster, that ends up as line `d`. -/
def PageLayout.place (lay : PageLayout) (opt : JobOptions) (y : Nat) : Nat :=
  if opt.rotate180 then lay.srcH - 1 - y else y

theorem reverseRow_apply (row : Buffer) (n i : Nat) :
    reverseRow row n i = if i < n then row (n - 1 - i) else row i := by
  have hinv : ∀ i, (reverseRow row n) i =
      if i < n ∧ (i < n / 2 ∨ n ≤ i + n / 2) then row (n - 1 - i) else row i := by
    unfold reverseRow
    refine forRange_inv (P := fun a (b : Buffer) => ∀ i, b i =
      if i < n ∧ (i < a ∨ n ≤ i + a) then row (n - 1 - i) else row i) (fun i => ?_) fun a b ha h i => ?_
    · have hno : ¬ (i < n ∧ (i < 0 ∨ n ≤ i + 0)) := by omega
      rw [if_neg hno]
    · rw [Nat.zero_add]
      have hlo : b a = row a := by rw [h, if_neg (by omega)]
      have hhi : b (n - 1 - a) = row (n - 1 - a) := by rw [h, if_neg (by omega)]
      rw [store_apply, store_apply, hlo, hhi, h]
      by_cases h1 : i = n - 1 - a
      · rw [if_pos h1, if_pos (by omega), h1]
        congr 1
        omega
      · rw [if_neg h1]
        by_cases h2 : i = a
        · rw [if_pos h2, if_pos (by omega), h2]
        · have hsame : (i < n ∧ (i < a + 1 ∨ n ≤ i + (a + 1))) ↔ i < n ∧ (i < a ∨ n ≤ i + a) := by omega
          rw [if_neg h2]
          simp only [hsame]
  rw [hinv]
  by_cases hi : i < n
  · by_cases hmid : i < n / 2 ∨ n ≤ i + n / 2
    · rw [if_pos ⟨hi, hmid⟩, if_pos hi]
    · have hself : n - 1 - i = i := by omega
      rw [if_neg (fun h => hmid h.2), if_pos hi, hself]
  · rw [if_neg (fun h => hi h.1), if_neg hi]

theorem loadLine_apply (hwide : hdr.cupsWidth.toNat ≤ hdr.cupsBytesPerLine.toNat) {y : Nat}
    {row : Buffer} (hwhite : hdr.cupsHeight.toNat < y → ∀ j < rowlen hdr lay, row j = 0xff) {j : Nat}
    (hj : j < rowlen hdr lay) :
    loadLine hdr lay lines y row j =
      (pixels lines).crop (min hdr.cupsWidth.toNat lay.srcW) hdr.cupsHeight.toNat 0xff y j := by
  have hcopy : copyW hdr lay ≤ hdr.cupsBytesPerLine.toNat := (Nat.min_le_left _ _).trans hwide
  unfold loadLine Plane.crop
  by_cases hy : y < hdr.cupsHeight.toNat
  · rw [if_pos hy]
    simp only [memset, memcpy]
    by_cases hx : j < copyW hdr lay
    · rw [if_neg (by omega), if_pos (by omega), if_pos ⟨hy, hx⟩]
      rfl
    · rw [if_pos (by omega), if_neg fun h => hx h.2]
  · have hout : ¬ (y < hdr.cupsHeight.toNat ∧ j < min hdr.cupsWidth.toNat lay.srcW) := fun h => hy h.1
    by_cases hlast : y = hdr.cupsHeight.toNat
    · rw [if_neg hy, if_pos hlast, if_neg hout]
      simp only [memset]
      rw [if_pos (by omega)]
    · rw [if_neg hy, if_neg hlast, if_neg hout]
      exact hwhite (by omega) j hj

theorem lines_disjoint {a b w j : Nat} (hab : a ≠ b) (hj : j < w) :
    ¬ (b * w ≤ a * w + j ∧ a * w + j < b * w + w) := by
  rcases Nat.lt_or_gt_of_ne hab with h | h
  · have := Nat.mul_le_mul_right w h
    rw [Nat.succ_mul] at this
    omega
  · have := Nat.mul_le_mul_right w h
    rw [Nat.succ_mul] at this
    omega

theorem place_ne {y n : Nat} (hy : y < n) (hn : n < lay.srcH) : lay.place opt y ≠ lay.place opt n := by
  unfold PageLayout.place
  split <;> omega

theorem srcW_le_rowlen (hdr : PageHeader) (lay : PageLayout) : lay.srcW ≤ rowlen hdr lay :=
  (Nat.le_max_right _ _).trans (Nat.le_max_left _ _)

def placedRow (lay : PageLayout) (opt : JobOptions) (row : Buffer) : Buffer :=
  if opt.rotate180 then reverseRow row lay.srcW else row

theorem placedRow_apply (hwide : hdr.cupsWidth.toNat ≤ hdr.cupsBytesPerLine.toNat) {n : Nat}
    (hn : n < lay.srcH) {row : Buffer}
    (hwhite : hdr.cupsHeight.toNat < n → ∀ j < rowlen hdr lay, row j = 0xff) {x : Nat}
    (hx : x < lay.srcW) :
    placedRow lay opt (loadLine hdr lay lines n row) x =
      laidOut hdr lay opt lines (lay.place opt n) x := by
  have hlen := srcW_le_rowlen hdr lay
  unfold placedRow laidOut PageLayout.place
  cases opt.rotate180
  · exact loadLine_apply hwide hwhite (by omega)
  · have hback : lay.srcH - 1 - (lay.srcH - 1 - n) = n := by omega
    simp only [if_true, Plane.turn180]
    rw [reverseRow_apply, if_pos hx, loadLine_apply hwide hwhite (by omega), hback]

theorem placedRow_white {n : Nat} (hn : hdr.cupsHeight.toNat ≤ n) {row : Buffer}
    (hwhite : hdr.cupsHeight.toNat < n → ∀ j < rowlen hdr lay, row j = 0xff) {j : Nat}
    (hj : j < rowlen hdr lay) : placedRow lay opt (loadLine hdr lay lines n row) j = 0xff := by
  have hload (j : Nat) (hj : j < rowlen hdr lay) : loadLine hdr lay lines n row j = 0xff := by
    unfold loadLine
    rw [if_neg (Nat.not_lt.mpr hn)]
    split
    · simp only [memset]
      rw [if_pos (by omega)]
    · exact hwhite (by omega) j hj
  have hlen := srcW_le_rowlen hdr lay
  unfold placedRow
  split
  · rw [reverseRow_apply]
    split
    · exact hload _ (by omega)
    · exact hload j hj
  · exact hload j hj

structure Drawn (hdr : PageHeader) (lay : PageLayout) (opt : JobOptions) (lines : List (List UInt8))
    (n : Nat) (b : PageBuffers) : Prop where
  white : hdr.cupsHeight.toNat < n → ∀ j < rowlen hdr lay, b.row j = 0xff
  gray : lay.rotate90 = true → ∀ y < n, ∀ x < lay.srcW,
    b.gray (lay.place opt y * lay.srcW + x) = laidOut hdr lay opt lines (lay.place opt y) x
  bitmap : lay.rotate90 = false → ∀ y < n, ∀ j < lay.bpl,
    b.bitmap (lay.place opt y * lay.bpl + j) = packedByte lay.depth.toNat
      (dots lay.depth.toNat opt.negative (laidOut hdr lay opt lines) (lay.place opt y)) j

theorem placeLine_eq (lay : PageLayout) (opt : JobOptions) (y : Nat) (b : PageBuffers) :
    placeLine lay opt y b =
      if lay.rotate90 then ⟨placedRow lay opt b.row, b.gray.memcpy (lay.place opt y * lay.srcW)
        (placedRow lay opt b.row) lay.srcW, b.bitmap⟩
      else ⟨placedRow lay opt b.row, b.gray, halftoneRow b.bitmap (lay.place opt y * lay.bpl)
        (placedRow lay opt b.row) lay.videoX.toNat (lay.place opt y) lay.depth.toNat opt.negative⟩ :=
  rfl

theorem halftoneRow_plane (hreg : lay.Regular) {out gray : Buffer} {off y : Nat} {p : Plane UInt8}
    (hgray : ∀ x < lay.videoX.toNat, gray x = p y x) (i : Nat) :
    halftoneRow out off gray lay.videoX.toNat y lay.depth.toNat opt.negative i =
      if off ≤ i ∧ i < off + lay.bpl then
        packedByte lay.depth.toNat (dots lay.depth.toNat opt.negative p y) (i - off)
      else out i := by
  rw [halftoneRow_apply hreg.depth _ _ _ hreg.bpl_mul]
  split
  · rename_i hi
    apply packedByte_congr
    intro x _ hx
    have hle := Nat.mul_le_mul_right (8 / lay.depth.toNat) (show i - off + 1 ≤ lay.bpl by omega)
    rw [← hreg.bpl_mul] at hle
    rw [hgray x (by omega)]
    rfl
  · rfl

theorem Drawn.step (hreg : lay.Regular) (hwide : hdr.cupsWidth.toNat ≤ hdr.cupsBytesPerLine.toNat)
    {n : Nat} (hn : n < lay.srcH) {b : PageBuffers} (h : Drawn hdr lay opt lines n b) :
    Drawn hdr lay opt lines (n + 1)
      (placeLine lay opt n { b with row := loadLine hdr lay lines n b.row }) := by
  have hrow {x : Nat} (hx : x < lay.srcW) : placedRow lay opt (loadLine hdr lay lines n b.row) x =
      laidOut hdr lay opt lines (lay.place opt n) x := placedRow_apply hwide hn h.white hx
  rw [placeLine_eq]
  cases hr : lay.rotate90
  · have hsrc : lay.srcW = lay.videoX.toNat := by simp [PageLayout.srcW, hr]
    refine ⟨fun hlt j hj => ?_, fun hno => absurd (hr.symm.trans hno) (by decide), fun _ y hy j hj => ?_⟩
    · exact placedRow_white (by omega) h.white hj
    · simp only [Bool.false_eq_true, if_false]
      rw [halftoneRow_plane hreg fun x hx => hrow (by rwa [hsrc])]
      rcases Nat.lt_succ_iff_lt_or_eq.mp hy with hlt | rfl
      · rw [if_neg (lines_disjoint (place_ne hlt hn) hj)]
        exact h.bitmap hr y hlt j hj
      · rw [if_pos (by omega), Nat.add_sub_cancel_left]
  · refine ⟨fun hlt j hj => ?_, fun _ y hy x hx => ?_, fun hno => absurd (hr.symm.trans hno) (by decide)⟩
    · exact placedRow_white (by omega) h.white hj
    · simp only [if_true, memcpy]
      rcases Nat.lt_succ_iff_lt_or_eq.mp hy with hlt | rfl
      · rw [if_neg (lines_disjoint (place_ne hlt hn) hx)]
        exact h.gray hr y hlt x hx
      · rw [if_pos (by omega), Nat.add_sub_cancel_left, hrow hx]

theorem drawLines_drawn (hreg : lay.Regular)
    (hwide : hdr.cupsWidth.toNat ≤ hdr.cupsBytesPerLine.toNat) (b : PageBuffers) :
    Drawn hdr lay opt lines lay.srcH (drawLines hdr lay opt lines lay.srcH b) := by
  unfold drawLines
  refine forRange_inv ⟨nofun, fun _ _ h => absurd h (Nat.not_lt_zero _),
    fun _ _ h => absurd h (Nat.not_lt_zero _)⟩ fun n b hn h => ?_
  rw [Nat.zero_add]
  exact h.step hreg hwide hn

theorem exists_place (lay : PageLayout) (opt : JobOptions) {d : Nat} (hd : d < lay.srcH) :
    ∃ y < lay.srcH, lay.place opt y = d := by
  unfold PageLayout.place
  split
  · exact ⟨lay.srcH - 1 - d, by omega, by omega⟩
  · exact ⟨d, hd, rfl⟩

theorem turnLine_bitmap (hreg : lay.Regular) (hr : lay.rotate90 = true) {b : PageBuffers}
    {p : Plane UInt8} (hgray : ∀ d < lay.srcH, ∀ x < lay.srcW, b.gray (d * lay.srcW + x) = p d x)
    {y : Nat} (hy : y < lay.videoY.toNat) (i : Nat) :
    (turnLine lay opt y b).bitmap i =
      if y * lay.bpl ≤ i ∧ i < y * lay.bpl + lay.bpl then
        packedByte lay.depth.toNat (dots lay.depth.toNat opt.negative (p.turn90 lay.srcH) y)
          (i - y * lay.bpl)
      else b.bitmap i := by
  have hsrcH : lay.srcH = lay.videoX.toNat := by simp [PageLayout.srcH, hr]
  have hsrcW : lay.srcW = lay.videoY.toNat := by simp [PageLayout.srcW, hr]
  refine halftoneRow_plane hreg (fun x hx => ?_) i
  rw [forRange_store_apply, if_pos hx, hgray _ (by omega) y (by omega)]
  rfl

theorem rendered_bytes (hreg : lay.Regular)
    (hwide : hdr.cupsWidth.toNat ≤ hdr.cupsBytesPerLine.toNat) (b : PageBuffers) :
    (turnPage lay opt (drawLines hdr lay opt lines lay.srcH b)).bitmap.bytes
      (lay.bpl * lay.videoY.toNat) = pageBitmap hdr lay opt lines := by
  have hdrawn : Drawn hdr lay opt lines lay.srcH (drawLines hdr lay opt lines lay.srcH b) :=
    drawLines_drawn hreg hwide b
  apply bytes_eq_packedPlane
  intro y hy j hj
  unfold turnPage grayPlane
  cases hr : lay.rotate90
  · have hsrc : lay.srcH = lay.videoY.toNat := by simp [PageLayout.srcH, hr]
    obtain ⟨n, hn, rfl⟩ := exists_place lay opt (hsrc ▸ hy)
    exact hdrawn.bitmap hr n hn j hj
  · have hgray (d : Nat) (hd : d < lay.srcH) (x : Nat) (hx : x < lay.srcW) :
        (drawLines hdr lay opt lines lay.srcH b).gray (d * lay.srcW + x) =
          laidOut hdr lay opt lines d x := by
      obtain ⟨n, hn, rfl⟩ := exists_place lay opt hd
      exact hdrawn.gray hr n hn x hx
    generalize drawLines hdr lay opt lines lay.srcH b = b at hgray
    -- the turned lines come in order, and the gray page stays as it was drawn
    have hturned : (forRange 0 (turnLine lay opt) lay.videoY.toNat b).gray = b.gray ∧
        ∀ y < lay.videoY.toNat, ∀ j < lay.bpl,
          (forRange 0 (turnLine lay opt) lay.videoY.toNat b).bitmap (y * lay.bpl + j) =
            packedByte lay.depth.toNat (dots lay.depth.toNat opt.negative
              ((laidOut hdr lay opt lines).turn90 lay.srcH) y) j := by
      refine forRange_inv (P := fun n (c : PageBuffers) => c.gray = b.gray ∧
        ∀ y < n, ∀ j < lay.bpl, c.bitmap (y * lay.bpl + j) = packedByte lay.depth.toNat
          (dots lay.depth.toNat opt.negative ((laidOut hdr lay opt lines).turn90 lay.srcH) y) j)
        ⟨rfl, fun _ h => absurd h (Nat.not_lt_zero _)⟩ fun n c hn h => ⟨h.1, fun y hy j hj => ?_⟩
      rw [Nat.zero_add, turnLine_bitmap hreg hr (by rw [h.1]; exact hgray) hn]
      rcases Nat.lt_succ_iff_lt_or_eq.mp hy with hlt | rfl
      · rw [if_neg (lines_disjoint hlt.ne hj)]
        exact h.2 y hlt j hj
      · rw [if_pos (by omega), Nat.add_sub_cancel_left]
    simp only [if_true]
    exact hturned.2 y hy j hj

def Filter.atLine (s : Filter) (lines : List (List UInt8)) (y : Nat) : Filter :=
  { s with raster := { s.raster with lines := lines.drop y } }

theorem readLine_ok (s : Filter) {y : Nat} (hy : y < hdr.cupsHeight.toNat → y < lines.length)
    (row : Buffer) :
    readLine hdr lay y row (s.atLine lines (min y hdr.cupsHeight.toNat)) =
      (.ok (loadLine hdr lay lines y row), s.atLine lines (min (y + 1) hdr.cupsHeight.toNat)) := by
  unfold readLine loadLine
  by_cases hlt : y < hdr.cupsHeight.toNat
  · have hdrop : lines.drop y = lines.getD y [] :: lines.drop (y + 1) := by
      rw [List.drop_eq_getElem_cons (hy hlt)]
      simp [hy hlt]
    have hread : zoom Filter.rasterLens cupsRasterReadPixels (s.atLine lines y) =
        (.ok (some (lines.getD y [])), s.atLine lines (y + 1)) := by
      simp only [zoom, Filter.rasterLens, Filter.atLine, hdrop, cupsRasterReadPixels]
    rw [if_pos hlt, if_pos hlt, Nat.min_eq_left hlt.le, Nat.min_eq_left hlt, bind_ok hread]
    rfl
  · rw [if_neg hlt, if_neg hlt, Nat.min_eq_right (by omega), Nat.min_eq_right (by omega)]
    split <;> rfl

theorem drawLine_ok (s : Filter) {y : Nat} (hy : y < hdr.cupsHeight.toNat → y < lines.length)
    (b : PageBuffers) :
    drawLine hdr lay opt y b (s.atLine lines (min y hdr.cupsHeight.toNat)) =
      (.ok (placeLine lay opt y { b with row := loadLine hdr lay lines y b.row }),
        s.atLine lines (min (y + 1) hdr.cupsHeight.toNat)) :=
  bind_ok (readLine_ok s hy b.row)

theorem drawLine_loop (s : Filter) (h : min lay.srcH hdr.cupsHeight.toNat ≤ lines.length)
    (b : PageBuffers) :
    forIndex 0 (drawLine hdr lay opt) lay.srcH b (s.atLine lines 0) =
      (.ok (drawLines hdr lay opt lines lay.srcH b),
        s.atLine lines (min lay.srcH hdr.cupsHeight.toNat)) := by
  have hstep (y : Nat) (hy : y < lay.srcH) : drawLine hdr lay opt (0 + y)
      (drawLines hdr lay opt lines y b) (s.atLine lines (min y hdr.cupsHeight.toNat)) =
        (.ok (drawLines hdr lay opt lines (y + 1) b),
          s.atLine lines (min (y + 1) hdr.cupsHeight.toNat)) := by
    rw [Nat.zero_add, drawLine_ok s (by omega)]
    simp only [drawLines, forRange, Nat.zero_add]
  have hloop := forIndex_ok (a := fun n => drawLines hdr lay opt lines n b)
    (s := fun n => s.atLine lines (min n hdr.cupsHeight.toNat)) hstep
  rw [Nat.zero_min] at hloop
  exact hloop

theorem drainLines_eq (n : Nat) (r : Raster) :
    drainLines n r = (.ok (), { r with lines := r.lines.drop n }) := by
  induction n generalizing r with
  | zero => rfl
  | succ n ih =>
    rcases r with ⟨_ | ⟨l, lines⟩, pages⟩
    · rfl
    · exact ih ⟨lines, pages⟩

/-- What has to go well before a page can be compressed: the allocations, and the lines that fall
inside the page buffer. -/
structure Drawable (env : Env) (page : UInt32) (hdr : PageHeader) (lay : PageLayout)
    (lines : List (List UInt8)) : Prop where
  bitmap : (env.allocs page).bitmap = true
  row : (env.allocs page).row = true
  gray : lay.rotate90 = true → (env.allocs page).gray = true
  lines : min lay.srcH hdr.cupsHeight.toNat ≤ lines.length

theorem Drawable.allocs {env : Env} {page : UInt32} (h : Drawable env page hdr lay lines) :
    (!(env.allocs page).bitmap || !(env.allocs page).row ||
      (lay.rotate90 && !(env.allocs page).gray)) = false := by
  have hgray := h.gray
  rw [h.bitmap, h.row]
  cases hr : lay.rotate90
  · rfl
  · rw [hgray hr]
    rfl

theorem rasterizePage_ok {env : Env} {page : UInt32} (opt : JobOptions)
    (h : Drawable env page hdr lay lines) {s : Filter} (hs : s.raster.lines = lines) :
    ∃ b : PageBuffers, rasterizePage env page hdr lay opt s =
      (.ok (turnPage lay opt (drawLines hdr lay opt lines lay.srcH b)).bitmap,
        s.atLine lines hdr.cupsHeight.toNat) := by
  have hstart : s.atLine lines 0 = s := by
    rw [← hs]
    rfl
  let b : PageBuffers := ⟨(env.uninit page).row.memset 0 0xff (rowlen hdr lay), (env.uninit page).gray,
    (env.uninit page).bitmap⟩
  have hdraw : forIndex 0 (drawLine hdr lay opt) lay.srcH b s = _ := hstart ▸ drawLine_loop s h.lines b
  have hdrain : zoom Filter.rasterLens (drainLines (hdr.cupsHeight.toNat - lay.srcH))
      (s.atLine lines (min lay.srcH hdr.cupsHeight.toNat)) =
        (.ok (), s.atLine lines hdr.cupsHeight.toNat) := by
    have hlen : min lay.srcH hdr.cupsHeight.toNat + (hdr.cupsHeight.toNat - lay.srcH) =
        hdr.cupsHeight.toNat := by omega
    simp only [zoom, Filter.rasterLens, Filter.atLine, drainLines_eq, List.drop_drop, hlen]
  refine ⟨b, ?_⟩
  unfold rasterizePage
  dsimp only
  rw [h.allocs]
  simp only [Bool.false_eq_true, if_false]
  rw [bind_ok hdraw, bind_ok hdrain]
  rfl

end PantumOpen.Print
