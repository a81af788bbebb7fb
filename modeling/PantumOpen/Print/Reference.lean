import PantumOpen.Print.Prototype
import PantumOpen.Print.Rendering

/-! The filter renders a page as its prototype does. -/

namespace PantumOpen.Print
open Prog Buffer

namespace Prototype

theorem htTable2big_code (n : Fin 256) : htTable2big.getD n 0 = htLevelToCode (n : Nat) := by
  revert n
  decide +kernel

theorem htTable2big_eq {lvl : Int} (h : lvl ≤ 255) :
    htTable2big.getD (max 0 lvl).toNat 0 = htLevelToCode lvl := by
  rcases Int.le_total lvl 0 with hneg | hpos
  · rw [max_eq_left hneg, htLevelToCode, if_pos hneg]
    rfl
  · obtain ⟨n, rfl⟩ := Int.eq_ofNat_of_zero_le hpos
    rw [max_eq_right hpos]
    exact htTable2big_code ⟨n, by omega⟩

theorem dot_eq (depth : Nat) (negative : Bool) (b thr : UInt8) :
    dot depth negative b thr = dotCode depth negative b thr := by
  have hlvl : htTable2big.getD (if b = 0 then (0xff : Int)
      else max 0 (0xff - (b.toNat : Int) - thr.toNat)).toNat 0 =
        htLevelToCode (if b = 0 then 0xff else 0xff - (b.toNat : Int) - thr.toNat) := by
    split
    · rfl
    · exact htTable2big_eq (by omega)
  unfold dot dotCode
  by_cases h1 : depth = 1
  · rw [if_pos h1, if_pos h1]
    cases negative <;> simp
  · rw [if_neg h1, if_neg h1]
    simp only [hlvl]

theorem flatten_line {lines : List (List UInt8)} {n m y : Nat} (hn : ∀ l ∈ lines, l.length = n)
    (hm : m ≤ n) (hy : y < lines.length) :
    (lines.flatten.drop (y * n)).take m = (lines.getD y []).take m := by
  induction lines generalizing y with
  | nil => exact absurd hy (Nat.not_lt_zero y)
  | cons l lines ih =>
    have hl := hn l List.mem_cons_self
    cases y with
    | zero => simp [List.take_append, hl, Nat.sub_eq_zero_of_le hm]
    | succ y =>
      have hsplit : (y + 1) * n = l.length + y * n := by rw [hl, Nat.succ_mul, Nat.add_comm]
      rw [List.flatten_cons, hsplit, ← List.drop_drop, List.drop_left,
        ih (fun l' h' => hn l' (List.mem_cons_of_mem l h')) (Nat.lt_of_succ_lt_succ hy)]
      rfl

section
variable {hdr : PageHeader} {lay : PageLayout} {opt : JobOptions} {lines : List (List UInt8)}

theorem grayLine_length (gray : List UInt8) (hdr : PageHeader) (srcW sy : Nat) :
    (grayLine gray hdr srcW sy).length = srcW := by
  unfold grayLine
  dsimp only
  split
  · have hle := (List.length_take_le (min hdr.cupsWidth.toNat srcW)
      (gray.drop (sy * hdr.cupsBytesPerLine.toNat))).trans (Nat.min_le_right _ _)
    rw [List.length_append, List.length_drop, List.length_replicate, Nat.add_sub_cancel' hle]
  · exact List.length_replicate

theorem grayLine_getD (hwide : hdr.cupsWidth.toNat ≤ hdr.cupsBytesPerLine.toNat)
    (hlines : ∀ l ∈ lines, l.length = hdr.cupsBytesPerLine.toNat)
    (hall : lines.length = hdr.cupsHeight.toNat) {srcW sy x : Nat} (hx : x < srcW) :
    (grayLine lines.flatten hdr srcW sy).getD x 0 =
      (pixels lines).crop (min hdr.cupsWidth.toNat srcW) hdr.cupsHeight.toNat 0xff sy x := by
  unfold grayLine Plane.crop pixels
  by_cases hy : sy < hdr.cupsHeight.toNat
  · have hmin : min hdr.cupsWidth.toNat srcW ≤ hdr.cupsBytesPerLine.toNat :=
      (Nat.min_le_left _ _).trans hwide
    have hl : (lines.getD sy []).length = hdr.cupsBytesPerLine.toNat := by
      have hlt : sy < lines.length := by omega
      simp only [List.getD_eq_getElem?_getD, List.getElem?_eq_getElem hlt, Option.getD_some]
      exact hlines _ (List.getElem_mem hlt)
    rw [if_pos hy, flatten_line hlines hmin (by omega)]
    have hlen : ((lines.getD sy []).take (min hdr.cupsWidth.toNat srcW)).length =
        min hdr.cupsWidth.toNat srcW := by
      rw [List.length_take, hl, Nat.min_eq_left hmin]
    by_cases hin : x < min hdr.cupsWidth.toNat srcW
    · rw [if_pos ⟨hy, hin⟩, Bytes.getD_append_left _ _ _ (by rwa [hlen])]
      simp [List.getD_eq_getElem?_getD, hin]
    · rw [if_neg fun h => hin h.2, Bytes.getD_append_right _ _ _ (by rw [hlen]; omega), hlen]
      rw [List.getD_eq_getElem?_getD, List.getElem?_drop, List.getElem?_replicate, if_pos (by omega)]
      rfl
  · have hout : ¬ (sy < hdr.cupsHeight.toNat ∧ x < min hdr.cupsWidth.toNat srcW) := fun h => hy h.1
    rw [if_neg hy, if_neg hout]
    simp [List.getD_eq_getElem?_getD, hx]

theorem grayRow_getD (hwide : hdr.cupsWidth.toNat ≤ hdr.cupsBytesPerLine.toNat)
    (hlines : ∀ l ∈ lines, l.length = hdr.cupsBytesPerLine.toNat)
    (hall : lines.length = hdr.cupsHeight.toNat) {y x : Nat} (hx : x < lay.srcW) :
    (grayRow lines.flatten hdr lay.srcW lay.srcH opt.rotate180 y).getD x 0 =
      laidOut hdr lay opt lines y x := by
  unfold grayRow laidOut
  dsimp only
  cases opt.rotate180
  · simp only [Bool.false_eq_true, if_false]
    exact grayLine_getD hwide hlines hall hx
  · have hlen := grayLine_length lines.flatten hdr lay.srcW (lay.srcH - 1 - y)
    simp only [if_true, Plane.turn180]
    rw [List.getD_eq_getElem?_getD, List.getElem?_reverse (by rw [hlen]; exact hx), hlen,
      ← List.getD_eq_getElem?_getD]
    exact grayLine_getD hwide hlines hall (by omega)

theorem grayPage_getD (hwide : hdr.cupsWidth.toNat ≤ hdr.cupsBytesPerLine.toNat)
    (hlines : ∀ l ∈ lines, l.length = hdr.cupsBytesPerLine.toNat)
    (hall : lines.length = hdr.cupsHeight.toNat) {y x : Nat} (hy : y < lay.videoY.toNat)
    (hx : x < lay.videoX.toNat) :
    ((grayPage lines.flatten hdr lay.videoX.toNat lay.videoY.toNat opt.rotate180
      lay.rotate90).getD y []).getD x 0 = grayPlane hdr lay opt lines y x := by
  have hrow {d c : Nat} (hd : d < lay.srcH) (hc : c < lay.srcW) :
      ((((List.range lay.srcH).map (grayRow lines.flatten hdr lay.srcW lay.srcH opt.rotate180)).getD d
        []).getD c 0) = laidOut hdr lay opt lines d c := by
    rw [← grayRow_getD hwide hlines hall hc]
    simp [List.getD_eq_getElem?_getD, hd]
  unfold grayPage grayPlane
  unfold PageLayout.srcH PageLayout.srcW at hrow
  cases hr : lay.rotate90
  · simp only [hr, Bool.false_eq_true, if_false] at hrow ⊢
    exact hrow hy hx
  · simp only [hr, if_true, PageLayout.srcH, Plane.turn90] at hrow ⊢
    rw [← hrow (show lay.videoX.toNat - 1 - x < lay.videoX.toNat by omega) hy]
    simp [List.getD_eq_getElem?_getD, hy, hx]

theorem pushPixel_byte {depth : Nat} (hdepth : Depth depth) (code : Nat → Nat) (base j : Nat)
    (out : Buffer) :
    forRange (j * (8 / depth)) (pushPixel depth code base) (8 / depth) (out, 0) =
      (out.store (base + j) (packedByte depth code j), 0) := by
  have hpixel (ppb i : Nat) (hi : i < ppb) : (j * ppb + i) % ppb = i ∧ (j * ppb + i) / ppb = j := by
    refine ⟨by rw [Nat.mul_comm, Nat.mul_add_mod, Nat.mod_eq_of_lt hi], ?_⟩
    rw [Nat.mul_comm, Nat.mul_add_div (by omega), Nat.div_eq_of_lt hi, Nat.add_zero]
  rcases hdepth with rfl | rfl
  · have h := hpixel 8
    simp [forRange, pushPixel, packedByte, packed, h 1, h 2, h 3, h 4, h 5, h 6, h 7]
  · have h := hpixel 4
    simp [forRange, pushPixel, packedByte, packed, h 1, h 2, h 3]

theorem pushPixel_line {depth : Nat} (hdepth : Depth depth) (code : Nat → Nat) (base n : Nat)
    (out : Buffer) :
    forRange 0 (pushPixel depth code base) (n * (8 / depth)) (out, 0) =
      (forRange 0 (fun j (d : Buffer) => d.store (base + j) (packedByte depth code j)) n out, 0) := by
  induction n with
  | zero =>
    rw [Nat.zero_mul]
    rfl
  | succ n ih =>
    rw [Nat.succ_mul, forRange_add, ih, Nat.zero_add, pushPixel_byte hdepth, forRange, Nat.zero_add]

theorem halftoneLine_apply (hreg : lay.Regular) {row : List UInt8} {p : Plane UInt8} {y : Nat}
    (hrow : ∀ x < lay.videoX.toNat, row.getD x 0 = p y x) (out : Buffer) (i : Nat) :
    halftoneLine lay.depth.toNat opt.negative row lay.bpl lay.videoX.toNat y out i =
      if y * lay.bpl ≤ i ∧ i < y * lay.bpl + lay.bpl then
        packedByte lay.depth.toNat (dots lay.depth.toNat opt.negative p y) (i - y * lay.bpl)
      else out i := by
  unfold halftoneLine
  rw [hreg.bpl_mul, pushPixel_line hreg.depth]
  apply (forRange_fill _ _ _ _ _).trans
  split
  · rename_i hi
    apply packedByte_congr
    intro x _ hx
    have hle := Nat.mul_le_mul_right (8 / lay.depth.toNat)
      (show i - y * lay.bpl + 1 ≤ lay.bpl by omega)
    rw [← hreg.bpl_mul] at hle
    rw [hrow x (by omega), dot_eq]
    rfl
  · rfl

theorem halftone_eq (hreg : lay.Regular) (hwide : hdr.cupsWidth.toNat ≤ hdr.cupsBytesPerLine.toNat)
    (hlines : ∀ l ∈ lines, l.length = hdr.cupsBytesPerLine.toNat)
    (hall : lines.length = hdr.cupsHeight.toNat) :
    halftone lines.flatten hdr lay.videoX.toNat lay.videoY.toNat opt.negative opt.rotate180
      lay.depth.toNat lay.rotate90 = pageBitmap hdr lay opt lines := by
  apply bytes_eq_packedPlane
  intro y hy j hj
  refine forRange_inv (P := fun n (out : Buffer) => ∀ y < n, ∀ j < lay.bpl,
    out (y * lay.bpl + j) = packedByte lay.depth.toNat
      (dots lay.depth.toNat opt.negative (grayPlane hdr lay opt lines) y) j)
    (fun _ h => absurd h (Nat.not_lt_zero _)) (fun n out hn h y hy j hj => ?_) y hy j hj
  have hrow (x : Nat) (hx : x < lay.videoX.toNat) : ((grayPage lines.flatten hdr lay.videoX.toNat
      lay.videoY.toNat opt.rotate180 lay.rotate90).getD n []).getD x 0 =
        grayPlane hdr lay opt lines n x := grayPage_getD hwide hlines hall hn hx
  rw [Nat.zero_add]
  apply (halftoneLine_apply hreg hrow out _).trans
  rcases Nat.lt_succ_iff_lt_or_eq.mp hy with hlt | rfl
  · rw [if_neg (lines_disjoint hlt.ne hj)]
    exact h y hlt j hj
  · rw [if_pos (by omega), Nat.add_sub_cancel_left]

theorem pageGeometry_eq (h : hdr.accepted = true) (opt : JobOptions) :
    pageGeometry hdr = ((pageLayout hdr opt).dmpaper.toNat, (pageLayout hdr opt).videoX.toNat,
      (pageLayout hdr opt).videoY.toNat, (pageLayout hdr opt).rotate90) := by
  unfold pageGeometry
  rcases pageLayout_cases hdr opt with ⟨p, hp, hlay⟩ | ⟨hp, hsize, hlay⟩ | ⟨hp, hsize, hlay⟩
  · rw [hp, hlay]
  · rw [hp, hlay]
    dsimp only
    rw [if_pos hsize, paperFind_a5]
  · obtain ⟨hx, hy⟩ := customLayout_size h opt.depth
    rw [hp, hlay, hx, hy]
    dsimp only
    rw [if_neg hsize]
    rfl

theorem bitmap_eq (hacc : hdr.accepted = true)
    (hlines : ∀ l ∈ lines, l.length = hdr.cupsBytesPerLine.toNat)
    (hall : lines.length = hdr.cupsHeight.toNat) (opt : JobOptions) :
    bitmap lines.flatten hdr opt = pageBitmap hdr (pageLayout hdr opt) opt lines := by
  obtain ⟨-, -, -, -, hwide⟩ := PageHeader.accepted_bounds hacc
  have hdepth : (if opt.dpi1200 then 2 else 1) = (pageLayout hdr opt).depth.toNat := by
    rw [pageLayout_depth, JobOptions.depth]
    split <;> rfl
  unfold bitmap
  rw [pageGeometry_eq hacc opt, hdepth]
  exact halftone_eq (pageLayout_regular hacc opt) hwide hlines hall

end

end Prototype

/-- Rendering a page, line by line, hands the compressor the bitmap the prototype computes from the
whole page. -/
theorem renderPage_prototype (env : Env) (page : UInt32) (k : Sink) (opt : JobOptions)
    {p : RasterPage} (hacc : p.hdr.accepted = true) (hwhole : p.Whole) {s : Filter}
    (hs : s.raster.lines = p.lines)
    (halloc : (env.allocs page).bitmap = true ∧ (env.allocs page).row = true ∧
      (env.allocs page).gray = true) :
    renderPage env page k p.hdr opt s =
      finishPage env page k p.hdr (pageLayout p.hdr opt) opt (Prototype.bitmap p.lines.flatten p.hdr opt)
        (pageLayout p.hdr opt).videoX (pageLayout p.hdr opt).videoY
        { s with raster := ⟨[], s.raster.pages⟩ } := by
  obtain ⟨-, -, -, -, hwide⟩ := PageHeader.accepted_bounds hacc
  have hdraw : Drawable env page p.hdr (pageLayout p.hdr opt) p.lines :=
    ⟨halloc.1, halloc.2.1, fun _ => halloc.2.2, (Nat.min_le_right _ _).trans_eq hwhole.symm⟩
  obtain ⟨b, hb⟩ := rasterizePage_ok opt hdraw hs
  have hrest : s.atLine p.lines p.hdr.cupsHeight.toNat = { s with raster := ⟨[], s.raster.pages⟩ } := by
    unfold Filter.atLine
    rw [List.drop_eq_nil_of_le hwhole.le]
  unfold renderPage
  rw [bind_ok hb, rendered_bytes (pageLayout_regular hacc opt) hwide, hrest,
    Prototype.bitmap_eq hacc p.wide hwhole]

/-- A page of nine black lines on a sheet of no known size. -/
def blackPage : RasterPage where
  hdr := ⟨(600, 600), 1, (100, 100), 40, 9, 0, 8, 40, 0⟩
  lines := List.replicate 9 (List.replicate 40 0)
  wide := by decide
  tall := by decide

theorem renderPage_prototype_blackPage :
    let env : Env := { jbig := fun bitmap _ _ => [bitmap] }
    let opt : JobOptions := ⟨2, true, false, true, false, 0⟩
    renderPage env 1 .stdout blackPage.hdr opt { raster := ⟨blackPage.lines, []⟩ } =
      finishPage env 1 .stdout blackPage.hdr (pageLayout blackPage.hdr opt) opt
        (Prototype.bitmap blackPage.lines.flatten blackPage.hdr opt)
        (pageLayout blackPage.hdr opt).videoX (pageLayout blackPage.hdr opt).videoY
        { raster := ⟨[], []⟩ } := by
  intro env opt
  exact renderPage_prototype env 1 .stdout opt (p := blackPage) (s := { raster := ⟨blackPage.lines, []⟩ })
    (by decide) (by unfold RasterPage.Whole; decide) rfl ⟨rfl, rfl, rfl⟩

end PantumOpen.Print
