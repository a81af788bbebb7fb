import PantumOpen.Lib.BitRow
import PantumOpen.Lib.Cells
import PantumOpen.Print.PageOutcome
import PantumOpen.Print.Reference

/-! The memory a page touches: `render_page` with every access checked, and the sizes it asks for. -/

namespace PantumOpen.Print
open Prog Buffer Cells

/-- The blocks of `render_page`, and the lines of the bitmap in the order they were dithered. -/
structure PageMem where
  row : Cells
  gray : Cells
  bitmap : Cells
  dithered : List Nat

namespace PageMem

def rowLens : Lens PageMem Cells :=
  ⟨row, fun c m => { m with row := c }, fun _ _ => rfl, fun _ => rfl, fun _ _ _ => rfl⟩

def grayLens : Lens PageMem Cells :=
  ⟨gray, fun c m => { m with gray := c }, fun _ _ => rfl, fun _ => rfl, fun _ _ _ => rfl⟩

def bitmapLens : Lens PageMem Cells :=
  ⟨bitmap, fun c m => { m with bitmap := c }, fun _ _ => rfl, fun _ => rfl, fun _ _ _ => rfl⟩

end PageMem

open PageMem

/-- The gray page exists only for the quarter turn. -/
def PageLayout.grayLen (lay : PageLayout) : Nat := if lay.rotate90 then lay.srcW * lay.srcH else 0

def PageMem.fresh (hdr : PageHeader) (lay : PageLayout) : PageMem :=
  ⟨Cells.fresh (rowlen hdr lay), Cells.fresh lay.grayLen, Cells.fresh (lay.bpl * lay.videoY.toNat), []⟩

structure Pen where
  pos : Nat
  acc : Nat
  shift : Nat
  deriving DecidableEq, Repr

/-- One pixel of `halftone_row`; a byte is stored once it is full. -/
def ditherPixel (y depth : Nat) (negative : Bool) (x : Nat) (pen : Pen) : Prog Fault PageMem Pen := do
  let thr ← peek htTable600 (y % 16 * 16 + x % 16)
  let gray ← zoom rowLens (load x)
  let shift := pen.shift - depth
  let acc := pen.acc ||| dotCode depth negative gray thr <<< shift
  if shift = 0 then do
    zoom bitmapLens (store pen.pos (UInt8.ofNat acc))
    pure ⟨pen.pos + 1, 0, 8⟩
  else pure ⟨pen.pos, acc, shift⟩

def halftoneMem (off width y depth : Nat) (negative : Bool) : Prog Fault PageMem Pen := do
  modify fun m => { m with dithered := m.dithered ++ [y] }
  forIndex 0 (ditherPixel y depth negative) width ⟨off, 0, 8⟩

/-- Line `y` of the page arrives in the row; a raster that ends before it is a short read. -/
def readLineMem (hdr : PageHeader) (lay : PageLayout) (lines : List (List UInt8)) (y : Nat) :
    Prog Fault PageMem Bool :=
  if y < hdr.cupsHeight.toNat then
    match lines[y]? with
    | some pixels => do
      zoom rowLens (paste 0 pixels)
      if copyW hdr lay < rowlen hdr lay then do
        zoom rowLens (fill (copyW hdr lay) 0xff (rowlen hdr lay - copyW hdr lay))
        pure true
      else pure true
    | none => pure false
  else if y = hdr.cupsHeight.toNat then do
    zoom rowLens (fill 0 0xff (rowlen hdr lay))
    pure true
  else pure true

def reverseMem (n : Nat) : Prog Fault Cells Unit :=
  forIndex 0 (fun a _ => do
    let t ← load a
    let u ← load (n - 1 - a)
    store a u
    store (n - 1 - a) t) (n / 2) ()

def turnAroundMem (lay : PageLayout) (opt : JobOptions) : Prog Fault PageMem Unit :=
  if opt.rotate180 then zoom rowLens (reverseMem lay.srcW) else pure ()

def placeLineMem (lay : PageLayout) (opt : JobOptions) (y : Nat) : Prog Fault PageMem Unit := do
  let dst := lay.place opt y
  turnAroundMem lay opt
  if lay.rotate90 then do
    let line ← zoom rowLens (copy 0 lay.srcW)
    zoom grayLens (paste (dst * lay.srcW) line)
  else do
    let _ ← halftoneMem (dst * lay.bpl) lay.videoX.toNat dst lay.depth.toNat opt.negative
    pure ()

def turnLineMem (lay : PageLayout) (opt : JobOptions) (y : Nat) : Prog Fault PageMem Unit := do
  forIndex 0 (fun x _ => do
    let v ← zoom grayLens (load ((lay.srcH - 1 - x) * lay.srcW + y))
    zoom rowLens (store x v)) lay.videoX.toNat ()
  let _ ← halftoneMem (y * lay.bpl) lay.videoX.toNat y lay.depth.toNat opt.negative
  pure ()

def turnPageMem (lay : PageLayout) (opt : JobOptions) : Prog Fault PageMem Unit :=
  if lay.rotate90 then forIndex 0 (fun y _ => turnLineMem lay opt y) lay.videoY.toNat () else pure ()

def drainMem (hdr : PageHeader) (lay : PageLayout) (lines : List (List UInt8)) :
    Prog Fault PageMem Bool :=
  forIndex lay.srcH (fun y (more : Bool) =>
    match more, lines[y]? with
    | true, some pixels => do
      zoom rowLens (paste 0 pixels)
      pure true
    | _, _ => pure false) (hdr.cupsHeight.toNat - lay.srcH) true

def drawMem (hdr : PageHeader) (lay : PageLayout) (opt : JobOptions) (lines : List (List UInt8)) :
    Prog Fault PageMem Bool :=
  forIndex 0 (fun y (go : Bool) =>
    if go then do
      let got ← readLineMem hdr lay lines y
      if got then do
        placeLineMem lay opt y
        pure true
      else pure false
    else pure false) lay.srcH true

/-- `render_page` up to the call of `finish_page`, which a short read does not reach. -/
def rasterizeMem (hdr : PageHeader) (lay : PageLayout) (opt : JobOptions)
    (lines : List (List UInt8)) : Prog Fault PageMem Bool := do
  zoom rowLens (fill 0 0xff (rowlen hdr lay))
  let drawn ← drawMem hdr lay opt lines
  if drawn then do
    turnPageMem lay opt
    let _ ← drainMem hdr lay lines
    pure true
  else pure false

variable {hdr : PageHeader} {lay : PageLayout} {opt : JobOptions} {lines : List (List UInt8)}

/-- Offset `i` lies in one of the first `n` lines, each of `w` bytes, that `f` puts in order. -/
def Covered (w : Nat) (f : Nat → Nat) (n i : Nat) : Prop := ∃ y < n, f y * w ≤ i ∧ i < f y * w + w

theorem covered_succ {w n i : Nat} {f : Nat → Nat} :
    Covered w f (n + 1) i ↔ (f n * w ≤ i ∧ i < f n * w + w) ∨ Covered w f n i := by
  constructor
  · rintro ⟨y, hy, hi⟩
    rcases Nat.lt_succ_iff_lt_or_eq.mp hy with hlt | rfl
    · exact .inr ⟨y, hlt, hi⟩
    · exact .inl hi
  · rintro (hi | ⟨y, hy, hi⟩)
    · exact ⟨n, Nat.lt_succ_self n, hi⟩
    · exact ⟨y, Nat.lt_succ_of_lt hy, hi⟩

theorem covered_all {w h n : Nat} {f : Nat → Nat} (hf : ∀ d < h, ∃ y < n, f y = d) {i : Nat}
    (hi : i < w * h) : Covered w f n i := by
  have hpos : 0 < w := Nat.pos_of_ne_zero (by rintro rfl; simp at hi)
  obtain ⟨y, hy, hd⟩ := hf (i / w) ((Nat.div_lt_iff_lt_mul hpos).mpr (by rwa [Nat.mul_comm]))
  refine ⟨y, hy, ?_⟩
  have hdiv := Nat.div_add_mod' i w
  have hmod := Nat.mod_lt i hpos
  rw [hd]
  omega

theorem line_inside {w h d : Nat} (hd : d < h) : d * w + w ≤ w * h := by
  rw [← Nat.succ_mul, Nat.mul_comm w h]
  exact Nat.mul_le_mul_right w hd

theorem place_lt {y : Nat} (hy : y < lay.srcH) : lay.place opt y < lay.srcH := by
  unfold PageLayout.place
  split <;> omega

theorem place_bijOn (lay : PageLayout) (opt : JobOptions) :
    Set.BijOn (lay.place opt) (Set.Iio lay.srcH) (Set.Iio lay.srcH) := by
  refine ⟨fun y hy => ?_, fun y hy d hd he => ?_, fun d hd => ?_⟩
  · exact place_lt hy
  · rcases Nat.lt_trichotomy y d with hlt | heq | hlt
    · exact absurd he (place_ne hlt hd)
    · exact heq
    · exact absurd he.symm (place_ne hlt hy)
  · obtain ⟨y, hy, rfl⟩ := exists_place lay opt hd
    exact ⟨y, hy, rfl⟩

theorem placed_perm (lay : PageLayout) (opt : JobOptions) :
    ((List.range lay.srcH).map (lay.place opt)).Perm (List.range lay.srcH) := by
  refine (List.perm_ext_iff_of_nodup ?_ List.nodup_range).mpr fun d => ?_
  · refine List.Nodup.map_on (fun y hy d hd he => ?_) List.nodup_range
    exact (place_bijOn lay opt).injOn (List.mem_range.mp hy) (List.mem_range.mp hd) he
  · rw [List.mem_map, List.mem_range]
    constructor
    · rintro ⟨y, hy, rfl⟩
      exact place_lt (List.mem_range.mp hy)
    · intro hd
      obtain ⟨y, hy, he⟩ := exists_place lay opt hd
      exact ⟨y, List.mem_range.mpr hy, he⟩

def packerAt (out : Buffer) (off : Nat) (gray : Buffer) (y depth : Nat) (negative : Bool) (x : Nat) :
    Packer :=
  forRange 0 (fun x p => p.push depth (dotCode depth negative (gray x) (threshold y x))) x
    ⟨out, off, 0, 8⟩

theorem packerAt_pos {depth : Nat} (hdepth : Depth depth) (out : Buffer) (off : Nat) (gray : Buffer)
    (y : Nat) (negative : Bool) (x : Nat) :
    (packerAt out off gray y depth negative x).pos = off + x * depth / 8 ∧
      (packerAt out off gray y depth negative x).shift = 8 - x * depth % 8 := by
  induction x with
  | zero => simp [packerAt, forRange]
  | succ x ih =>
    obtain ⟨hpos, hshift⟩ := ih
    unfold packerAt at hpos hshift ⊢
    rw [forRange, Packer.push, hpos, hshift]
    rcases hdepth with rfl | rfl
    · split <;> constructor <;> dsimp only <;> omega
    · split <;> constructor <;> dsimp only <;> omega

theorem threshold_index (y x : Nat) : y % 16 * 16 + x % 16 < htTable600.length := by
  have hlen : htTable600.length = 256 := by decide +kernel
  omega

theorem packerAt_row {depth : Nat} (hdepth : Depth depth) (out : Buffer) (off : Nat) (gray : Buffer)
    (y : Nat) (negative : Bool) (n : Nat) :
    packerAt out off gray y depth negative (n * (8 / depth)) =
      ⟨halftoneRow out off gray (n * (8 / depth)) y depth negative, off + n, 0, 8⟩ := by
  unfold halftoneRow packerAt
  rw [push_bytes hdepth fun x => dotCode depth negative (gray x) (threshold y x)]

/-- The blocks while line `y` is dithered and its packer is `p`; they were `m` before, and the bytes
of `w` were written. -/
structure Dithering (blen off : Nat) (w : Nat → Prop) (m : PageMem) (y : Nat) (p : Packer) (pen : Pen)
    (t : PageMem) : Prop where
  pen : pen = ⟨p.pos, p.acc, p.shift⟩
  row : t.row = m.row
  gray : t.gray = m.gray
  dithered : t.dithered = m.dithered ++ [y]
  bitmap : Shows blen (fun i => (off ≤ i ∧ i < p.pos) ∨ w i) p.out t.bitmap

theorem Dithering.step {blen len off y depth x : Nat} {w : Nat → Prop} {m t : PageMem} {p : Packer}
    {pen : Pen} {row : Buffer} (h : Dithering blen off w m y p pen t)
    (hrow : Shows len (fun _ => True) row m.row) (hx : x < len)
    (hroom : p.shift - depth = 0 → p.pos < blen) (negative : Bool) :
    Runs (ditherPixel y depth negative x pen)
      (Dithering blen off w m y (p.push depth (dotCode depth negative (row x) (threshold y x)))) t := by
  obtain ⟨rfl, hrow', hgray, hdith, hbit⟩ := h
  unfold ditherPixel
  have hload : Runs (zoom rowLens (load x)) (fun v u => v = row x ∧ u = t) t :=
    runs_zoom (runs_load (hrow'.symm ▸ hrow) hx trivial ⟨rfl, rfl⟩)
  refine (runs_peek (Q := fun thr u => thr = threshold y x ∧ u = t) (threshold_index y x)
    ⟨rfl, rfl⟩).bind ?_
  rintro _ _ ⟨rfl, rfl⟩
  apply hload.bind
  rintro _ _ ⟨rfl, rfl⟩
  unfold Packer.push
  dsimp only
  split
  · rename_i hfull
    have hstore := runs_store hbit (hroom hfull)
      (UInt8.ofNat (p.acc ||| dotCode depth negative (row x) (threshold y x) <<< (p.shift - depth)))
    refine (runs_zoom (hstore.mono fun _ c hc => ?_)).bind fun _ _ hq => runs_pure hq
    refine ⟨rfl, hrow', hgray, hdith, hc.congr (fun i _ hi => ?_) fun _ _ _ => rfl⟩
    rcases hi with ⟨hlo, hhi⟩ | hi
    · rcases Nat.lt_succ_iff_lt_or_eq.mp hhi with hlt | heq
      · exact .inr (.inl ⟨hlo, hlt⟩)
      · exact .inl heq
    · exact .inr (.inr hi)
  · exact runs_pure ⟨rfl, hrow', hgray, hdith, hbit⟩

theorem runs_halftone {depth : Nat} (hdepth : Depth depth) {len blen n off : Nat} {w : Nat → Prop}
    {row out : Buffer} {m : PageMem} (hrow : Shows len (fun _ => True) row m.row)
    (hout : Shows blen w out m.bitmap) (hwidth : n * (8 / depth) ≤ len) (hoff : off + n ≤ blen)
    (y : Nat) (negative : Bool) :
    Runs (halftoneMem off (n * (8 / depth)) y depth negative) (Dithering blen off w m y
      ⟨halftoneRow out off row (n * (8 / depth)) y depth negative, off + n, 0, 8⟩) m := by
  rw [← packerAt_row hdepth]
  unfold halftoneMem
  refine Runs.bind (Q := fun _ t => t = { m with dithered := m.dithered ++ [y] }) ⟨(), _, rfl, rfl⟩ ?_
  rintro _ t rfl
  refine runs_forIndex (fun x => Dithering blen off w m y (packerAt out off row y depth negative x))
    ⟨rfl, rfl, rfl, rfl, hout.congr (fun i _ hi => ?_) fun _ _ _ => rfl⟩ fun x pen t hx h => ?_
  · rcases hi with hi | hi
    · exact absurd hi.2 (Nat.not_lt.mpr hi.1)
    · exact hi
  · obtain ⟨hpos, hshift⟩ := packerAt_pos hdepth out off row y negative x
    rw [Nat.zero_add]
    have hroom : (packerAt out off row y depth negative x).shift - depth = 0 →
        (packerAt out off row y depth negative x).pos < blen := by
      intro _
      rw [hpos]
      rcases hdepth with rfl | rfl <;> omega
    have hstep := h.step hrow (Nat.lt_of_lt_of_le hx hwidth) hroom negative
    unfold packerAt at hstep ⊢
    rw [forRange, Nat.zero_add]
    exact hstep

theorem runs_reverse {len n : Nat} {row : Buffer} {c : Cells} (h : Shows len (fun _ => True) row c)
    (hn : n ≤ len) : Runs (reverseMem n) (fun _ => Shows len (fun _ => True) (reverseRow row n)) c := by
  unfold reverseMem reverseRow
  refine runs_forIndex (fun a _ => Shows len (fun _ => True) (forRange 0
    (fun a row => (row.store a (row (n - 1 - a))).store (n - 1 - a) (row a)) a row)) h
    fun a _ c ha hc => ?_
  rw [Nat.zero_add, forRange, Nat.zero_add]
  generalize forRange 0 _ a row = row at hc
  apply (runs_load (Q := fun v t => v = row a ∧ t = c) hc (by omega) trivial ⟨rfl, rfl⟩).bind
  rintro _ _ ⟨rfl, rfl⟩
  refine (runs_load (Q := fun v t => v = row (n - 1 - a) ∧ t = _) hc (by omega) trivial
    ⟨rfl, rfl⟩).bind ?_
  rintro _ _ ⟨rfl, rfl⟩
  apply (runs_store hc (by omega) _).bind
  intro _ c hc
  apply (runs_store hc (by omega) _).mono
  intro _ c hc
  exact hc.congr (fun _ _ _ => .inr (.inr trivial)) fun _ _ _ => rfl

/-- The blocks hold what the buffers of the page do, in the whole row and in those bytes of the two
pages that were written. -/
structure Mirrors (hdr : PageHeader) (lay : PageLayout) (g w : Nat → Prop) (rows : List Nat)
    (b : PageBuffers) (m : PageMem) : Prop where
  row : Shows (rowlen hdr lay) (fun _ => True) b.row m.row
  gray : Shows lay.grayLen g b.gray m.gray
  bitmap : Shows (lay.bpl * lay.videoY.toNat) w b.bitmap m.bitmap
  dithered : m.dithered = rows

theorem Mirrors.zoom_row {g w : Nat → Prop} {rows : List Nat} {b : PageBuffers} {m : PageMem}
    (h : Mirrors hdr lay g w rows b m) {α : Type} {f : Prog Fault Cells α} {row : Buffer}
    (hf : Runs f (fun _ => Shows (rowlen hdr lay) (fun _ => True) row) m.row) :
    Runs (zoom rowLens f) (fun _ => Mirrors hdr lay g w rows { b with row := row }) m :=
  runs_zoom (hf.mono fun _ _ hc => ⟨hc, h.gray, h.bitmap, h.dithered⟩)

theorem runs_whole_fill {len : Nat} {row : Buffer} {c : Cells} {w : Nat → Prop} (h : Shows len w row c)
    (v : UInt8) : Runs (fill 0 v len) (fun _ => Shows len (fun _ => True) (row.memset 0 v len)) c :=
  (runs_fill h (Nat.zero_add len).le v).mono fun _ _ hc =>
    hc.congr (fun i hi _ => .inl ⟨Nat.zero_le i, by omega⟩) fun _ _ _ => rfl

def HasLine (hdr : PageHeader) (lines : List (List UInt8)) (y : Nat) : Prop :=
  y < hdr.cupsHeight.toNat → y < lines.length

theorem copyW_le_rowlen (hdr : PageHeader) (lay : PageLayout) : copyW hdr lay ≤ rowlen hdr lay :=
  (Nat.min_le_right _ _).trans (srcW_le_rowlen hdr lay)

theorem line_le_rowlen (hdr : PageHeader) (lay : PageLayout) :
    hdr.cupsBytesPerLine.toNat ≤ rowlen hdr lay := Nat.le_max_right _ _

theorem runs_readLine (hlines : ∀ l ∈ lines, l.length = hdr.cupsBytesPerLine.toNat)
    {g w : Nat → Prop} {rows : List Nat} {b : PageBuffers} {m : PageMem}
    (h : Mirrors hdr lay g w rows b m) (y : Nat) :
    Runs (readLineMem hdr lay lines y) (fun got t => (got = true ↔ HasLine hdr lines y) ∧ (got = true →
      Mirrors hdr lay g w rows { b with row := loadLine hdr lay lines y b.row } t)) m := by
  have hcopy := copyW_le_rowlen hdr lay
  unfold readLineMem loadLine HasLine
  -- A line of the raster is pasted and its rest made white; behind the last one all is white.
  split
  · rename_i hy
    cases hget : lines[y]? with
    | none =>
      have hend : ¬ y < lines.length := Nat.not_lt.mpr (List.getElem?_eq_none_iff.mp hget)
      exact runs_pure ⟨iff_of_false nofun fun hlt => hend (hlt hy), nofun⟩
    | some pixels =>
      obtain ⟨hlt, hpixels⟩ := List.getElem?_eq_some_iff.mp hget
      have hlen : pixels.length = hdr.cupsBytesPerLine.toNat :=
        hlines pixels (List.mem_of_getElem? hget)
      have hline : lines.getD y [] = pixels := by simp [hget]
      have hpaste : Runs (paste 0 pixels) (fun _ => Shows (rowlen hdr lay) (fun _ => True)
          (b.row.memcpy 0 (ofList pixels) pixels.length)) m.row :=
        (runs_paste h.row (by rw [hlen, Nat.zero_add]; exact line_le_rowlen hdr lay)).mono
          fun _ _ hc => hc.congr (fun _ _ _ => .inr trivial) fun _ _ _ => rfl
      rw [hline, ← hlen]
      refine (h.zoom_row hpaste).bind fun _ t ht => runs_ite (fun hshort => ?_) fun hfull => ?_
      · have hfill := runs_fill ht.row (show copyW hdr lay + (rowlen hdr lay - copyW hdr lay) ≤
          rowlen hdr lay by omega) 0xff
        refine (ht.zoom_row (hfill.mono fun _ _ hc => hc.congr (fun _ _ _ => .inr trivial)
          fun _ _ _ => rfl)).bind fun _ u hu => ?_
        exact runs_pure ⟨iff_of_true rfl fun _ => hlt, fun _ => hu⟩
      · have hnone : rowlen hdr lay - copyW hdr lay = 0 := by omega
        refine runs_pure ⟨iff_of_true rfl fun _ => hlt, fun _ => ?_⟩
        refine ⟨ht.row.congr (fun _ _ => id) fun i _ _ => ?_, ht.gray, ht.bitmap, ht.dithered⟩
        simp only [hnone, memset]
        rw [if_neg (by omega)]
  · rename_i hy
    split
    · apply (h.zoom_row (runs_whole_fill h.row 0xff)).bind
      intro _ t ht
      exact runs_pure ⟨iff_of_true rfl fun hlt => absurd hlt hy, fun _ => ht⟩
    · exact runs_pure ⟨iff_of_true rfl fun hlt => absurd hlt hy, fun _ => h⟩

def placedBits (lay : PageLayout) (opt : JobOptions) (n i : Nat) : Prop :=
  lay.rotate90 = false ∧ Covered lay.bpl (lay.place opt) n i

def placedRows (lay : PageLayout) (opt : JobOptions) (n : Nat) : List Nat :=
  if lay.rotate90 then [] else (List.range n).map (lay.place opt)

theorem runs_turnAround {g w : Nat → Prop} {rows : List Nat} {b : PageBuffers} {m : PageMem}
    (h : Mirrors hdr lay g w rows b m) :
    Runs (turnAroundMem lay opt)
      (fun _ => Mirrors hdr lay g w rows { b with row := placedRow lay opt b.row }) m := by
  unfold turnAroundMem placedRow
  split
  · exact h.zoom_row (runs_reverse h.row (srcW_le_rowlen hdr lay))
  · exact runs_pure h

theorem videoX_le_rowlen (hdr : PageHeader) (lay : PageLayout) : lay.videoX.toNat ≤ rowlen hdr lay :=
  (Nat.le_max_left _ _).trans (Nat.le_max_left _ _)

theorem runs_ditherLine (hreg : lay.Regular) {g w : Nat → Prop} {rows : List Nat} {b : PageBuffers}
    {m : PageMem} (h : Mirrors hdr lay g w rows b m) {d : Nat} (hd : d < lay.videoY.toNat) :
    Runs (do
      let _ ← halftoneMem (d * lay.bpl) lay.videoX.toNat d lay.depth.toNat opt.negative
      pure () : Prog Fault PageMem Unit)
      (fun _ => Mirrors hdr lay g (fun i => (d * lay.bpl ≤ i ∧ i < d * lay.bpl + lay.bpl) ∨ w i)
        (rows ++ [d]) ⟨b.row, b.gray, halftoneRow b.bitmap (d * lay.bpl) b.row lay.videoX.toNat d
          lay.depth.toNat opt.negative⟩) m := by
  have hdots := runs_halftone hreg.depth h.row h.bitmap (n := lay.bpl)
    (by rw [← hreg.bpl_mul]; exact videoX_le_rowlen hdr lay) (line_inside hd) d opt.negative
  rw [← hreg.bpl_mul] at hdots
  refine hdots.bind fun pen t ht => runs_pure ⟨?_, ?_, ht.bitmap, ?_⟩
  · rw [ht.row]
    exact h.row
  · rw [ht.gray]
    exact h.gray
  · rw [ht.dithered, h.dithered]

theorem runs_placeLine (hreg : lay.Regular) {n : Nat} (hn : n < lay.srcH) {b : PageBuffers}
    {m : PageMem} (h : Mirrors hdr lay (Covered lay.srcW (lay.place opt) n) (placedBits lay opt n)
      (placedRows lay opt n) b m) :
    Runs (placeLineMem lay opt n) (fun _ => Mirrors hdr lay (Covered lay.srcW (lay.place opt) (n + 1))
      (placedBits lay opt (n + 1)) (placedRows lay opt (n + 1)) (placeLine lay opt n b)) m := by
  have hplace : lay.place opt n < lay.srcH := place_lt hn
  unfold placeLineMem placedBits placedRows at *
  rw [placeLine_eq]
  apply (runs_turnAround h).bind
  intro _ t ht
  -- An upright line is dithered at once; a turned page first collects its gray lines.
  cases hr : lay.rotate90
  · have hsrc : lay.srcH = lay.videoY.toNat := by simp [PageLayout.srcH, hr]
    have hnone : lay.grayLen = 0 := by simp [PageLayout.grayLen, hr]
    refine (runs_ditherLine hreg ht (hsrc ▸ hplace)).mono fun _ u hu => ⟨hu.row, ?_, ?_, ?_⟩
    · exact hu.gray.congr (fun i hi => by omega) fun _ _ _ => rfl
    · refine hu.bitmap.congr (fun i _ hi => ?_) fun _ _ _ => rfl
      exact (covered_succ.mp hi.2).imp_right fun hi => ⟨hr, hi⟩
    · rw [hu.dithered, hr]
      simp [List.range_succ]
  · have hlen : lay.grayLen = lay.srcW * lay.srcH := by simp [PageLayout.grayLen, hr]
    have hcopy : Runs (zoom rowLens (copy 0 lay.srcW)) (fun line u =>
        line = ((placedRow lay opt b.row).shift 0).bytes lay.srcW ∧ u = t) t :=
      runs_zoom (runs_copy ht.row (by rw [Nat.zero_add]; exact srcW_le_rowlen hdr lay)
        (fun _ _ _ => trivial) ⟨rfl, rfl⟩)
    apply hcopy.bind
    rintro _ _ ⟨rfl, rfl⟩
    have hfit : lay.place opt n * lay.srcW +
        (((placedRow lay opt b.row).shift 0).bytes lay.srcW).length ≤ lay.grayLen := by
      rw [bytes_length, hlen]
      exact line_inside hplace
    have hpaste := runs_paste ht.gray hfit
    refine runs_zoom (hpaste.mono fun _ c hc => ⟨ht.row, ?_, ?_, ?_⟩)
    · rw [bytes_length] at hc
      apply hc.congr (fun i _ hi => covered_succ.mp hi)
      intro i _ _
      simp only [if_true, memcpy]
      split
      · rw [ofList_bytes _ (by omega), shift, Nat.zero_add]
      · rfl
    · exact ht.bitmap.congr (fun _ _ hi => by cases hi.1) fun _ _ _ => rfl
    · apply ht.dithered.trans
      rw [hr]
      rfl

theorem runs_turnLine (hreg : lay.Regular) (hr : lay.rotate90 = true) {n : Nat}
    (hn : n < lay.videoY.toNat) {b : PageBuffers} {m : PageMem}
    (h : Mirrors hdr lay (fun _ => True) (Covered lay.bpl id n) (List.range n) b m) :
    Runs (turnLineMem lay opt n) (fun _ => Mirrors hdr lay (fun _ => True) (Covered lay.bpl id (n + 1))
      (List.range (n + 1)) (turnLine lay opt n b)) m := by
  have hsrcH : lay.srcH = lay.videoX.toNat := by simp [PageLayout.srcH, hr]
  have hsrcW : lay.srcW = lay.videoY.toNat := by simp [PageLayout.srcW, hr]
  have hlen : lay.grayLen = lay.srcW * lay.srcH := by simp [PageLayout.grayLen, hr]
  have hwide := videoX_le_rowlen hdr lay
  let column (x : Nat) (row : Buffer) : Buffer :=
    row.store x (b.gray ((lay.srcH - 1 - x) * lay.srcW + n))
  have hcolumn : Runs (forIndex 0 (fun x _ => do
      let v ← zoom grayLens (load ((lay.srcH - 1 - x) * lay.srcW + n))
      zoom rowLens (store x v)) lay.videoX.toNat () : Prog Fault PageMem Unit)
      (fun _ => Mirrors hdr lay (fun _ => True) (Covered lay.bpl id n) (List.range n)
        ⟨forRange 0 column lay.videoX.toNat b.row, b.gray, b.bitmap⟩) m := by
    -- Column `n` of the gray page, from the bottom to the top, becomes the line.
    refine runs_forIndex (fun k _ => Mirrors hdr lay (fun _ => True) (Covered lay.bpl id n) (List.range n)
      ⟨forRange 0 column k b.row, b.gray, b.bitmap⟩) h fun k _ t hk ht => ?_
    have hinside : (lay.srcH - 1 - k) * lay.srcW + n < lay.grayLen := by
      have hline := line_inside (w := lay.srcW) (show lay.srcH - 1 - k < lay.srcH by omega)
      omega
    have hload : Runs (zoom grayLens (load ((lay.srcH - 1 - k) * lay.srcW + n)))
        (fun v u => v = b.gray ((lay.srcH - 1 - k) * lay.srcW + n) ∧ u = t) t :=
      runs_zoom (runs_load ht.gray hinside trivial ⟨rfl, rfl⟩)
    rw [Nat.zero_add, forRange, Nat.zero_add]
    apply hload.bind
    rintro _ _ ⟨rfl, rfl⟩
    refine ht.zoom_row ((runs_store ht.row (by omega) _).mono fun _ c hc => ?_)
    exact hc.congr (fun _ _ _ => .inr trivial) fun _ _ _ => rfl
  unfold turnLineMem turnLine
  refine hcolumn.bind fun _ t ht => (runs_ditherLine hreg ht hn).mono ?_
  intro _ u hu
  refine ⟨hu.row, hu.gray, hu.bitmap.congr (fun i _ hi => ?_) fun _ _ _ => rfl, ?_⟩
  · exact covered_succ.mp hi
  · rw [hu.dithered, List.range_succ]

/-! ### The whole page -/

def whiteRow (hdr : PageHeader) (lay : PageLayout) (b : PageBuffers) : PageBuffers :=
  ⟨b.row.memset 0 0xff (rowlen hdr lay), b.gray, b.bitmap⟩

theorem hasLine_succ {n : Nat} (h : min n hdr.cupsHeight.toNat ≤ lines.length) :
    HasLine hdr lines n ↔ min (n + 1) hdr.cupsHeight.toNat ≤ lines.length := by
  unfold HasLine
  constructor <;> intro h' <;> omega

/-- The lines are drawn until the raster ends; each of them is placed as the model places it. -/
theorem runs_drawLines (hreg : lay.Regular) (hlines : ∀ l ∈ lines, l.length = hdr.cupsBytesPerLine.toNat)
    {b : PageBuffers} {m : PageMem} (h : Mirrors hdr lay (Covered lay.srcW (lay.place opt) 0)
      (placedBits lay opt 0) (placedRows lay opt 0) b m) :
    Runs (drawMem hdr lay opt lines) (fun drawn t =>
      (drawn = true ↔ min lay.srcH hdr.cupsHeight.toNat ≤ lines.length) ∧
      (drawn = true → Mirrors hdr lay (Covered lay.srcW (lay.place opt) lay.srcH)
        (placedBits lay opt lay.srcH) (placedRows lay opt lay.srcH)
        (drawLines hdr lay opt lines lay.srcH b) t)) m := by
  unfold drawMem drawLines
  -- The flag says that no line has been missing so far; below it nothing is promised.
  refine runs_forIndex (fun n go t => (go = true ↔ min n hdr.cupsHeight.toNat ≤ lines.length) ∧
    (go = true → Mirrors hdr lay (Covered lay.srcW (lay.place opt) n) (placedBits lay opt n)
      (placedRows lay opt n) (drawLines hdr lay opt lines n b) t))
    ⟨by simp, fun _ => h⟩ fun n go t hn ⟨hgo, hmir⟩ => ?_
  rw [Nat.zero_add]
  cases go with
  | false =>
    have hshort : ¬ min n hdr.cupsHeight.toNat ≤ lines.length := fun hle => nomatch hgo.mpr hle
    exact runs_pure ⟨iff_of_false nofun (by omega), nofun⟩
  | true =>
    have hsofar := hgo.mp rfl
    refine (runs_readLine hlines (hmir rfl) n).bind fun got u ⟨hgot, hload⟩ => ?_
    rw [hasLine_succ hsofar] at hgot
    cases got with
    | false => exact runs_pure ⟨hgot, nofun⟩
    | true =>
      refine (runs_placeLine hreg hn (hload rfl)).bind fun _ v hv => runs_pure ⟨hgot, fun _ => ?_⟩
      unfold drawLines
      rw [forRange, Nat.zero_add]
      exact hv

theorem runs_turnPage (hreg : lay.Regular) {b : PageBuffers} {m : PageMem}
    (h : Mirrors hdr lay (Covered lay.srcW (lay.place opt) lay.srcH) (placedBits lay opt lay.srcH)
      (placedRows lay opt lay.srcH) b m) :
    Runs (turnPageMem lay opt) (fun _ t => ∃ g rows, Mirrors hdr lay g (fun _ => True) rows
      (turnPage lay opt b) t ∧ rows.Perm (List.range lay.videoY.toNat)) m := by
  unfold turnPageMem turnPage
  cases hr : lay.rotate90
  · have hsrc : lay.srcH = lay.videoY.toNat := by simp [PageLayout.srcH, hr]
    refine runs_pure ⟨_, _, ⟨h.row, h.gray, h.bitmap.congr (fun i hi _ => ⟨hr, ?_⟩) fun _ _ _ => rfl,
      h.dithered⟩, ?_⟩
    · exact covered_all (fun d hd => exists_place lay opt (hsrc ▸ hd)) hi
    · unfold placedRows
      rw [hr, ← hsrc]
      exact placed_perm lay opt
  · have hgray : lay.grayLen = lay.srcW * lay.srcH := by simp [PageLayout.grayLen, hr]
    have hstart : Mirrors hdr lay (fun _ => True) (Covered lay.bpl id 0) (List.range 0) b m := by
      refine ⟨h.row, h.gray.congr (fun i hi _ => ?_) fun _ _ _ => rfl, ?_, ?_⟩
      · exact covered_all (fun d hd => exists_place lay opt hd) (hgray ▸ hi)
      · have hnone (i : Nat) : ¬ Covered lay.bpl id 0 i := by
          rintro ⟨_, hlt, _⟩
          exact Nat.not_lt_zero _ hlt
        exact h.bitmap.congr (fun i _ hi => absurd hi (hnone i)) fun _ _ _ => rfl
      · rw [h.dithered, placedRows, hr]
        rfl
    refine (runs_forIndex (fun n _ => Mirrors hdr lay (fun _ => True) (Covered lay.bpl id n)
      (List.range n) (forRange 0 (turnLine lay opt) n b)) hstart fun n _ t hn ht => ?_).mono ?_
    · rw [Nat.zero_add, forRange, Nat.zero_add]
      exact runs_turnLine hreg hr hn ht
    · intro _ t ht
      refine ⟨_, _, ⟨ht.row, ht.gray, ht.bitmap.congr (fun i hi _ => ?_) fun _ _ _ => rfl,
        ht.dithered⟩, List.Perm.refl _⟩
      exact covered_all (fun d hd => ⟨d, hd, rfl⟩) hi

theorem runs_drain (hlines : ∀ l ∈ lines, l.length = hdr.cupsBytesPerLine.toNat) {b : Buffer}
    {m : PageMem} (h : Shows (rowlen hdr lay) (fun _ => True) b m.row) :
    Runs (drainMem hdr lay lines) (fun _ t => t.bitmap = m.bitmap ∧ t.dithered = m.dithered) m := by
  refine (runs_forIndex (fun _ _ t => (∃ b, Shows (rowlen hdr lay) (fun _ => True) b t.row) ∧
    t.bitmap = m.bitmap ∧ t.dithered = m.dithered) ⟨⟨b, h⟩, rfl, rfl⟩
    fun k more t _ ht => ?_).mono fun _ _ ht => ht.2
  obtain ⟨⟨b, hb⟩, hbit, hdith⟩ := ht
  cases more with
  | false => exact runs_pure ⟨⟨b, hb⟩, hbit, hdith⟩
  | true =>
    cases hget : lines[lay.srcH + k]? with
    | none => exact runs_pure ⟨⟨b, hb⟩, hbit, hdith⟩
    | some pixels =>
      have hlen : pixels.length = hdr.cupsBytesPerLine.toNat :=
        hlines pixels (List.mem_of_getElem? hget)
      have hfit : 0 + pixels.length ≤ rowlen hdr lay := by
        rw [hlen, Nat.zero_add]
        exact line_le_rowlen hdr lay
      have hpaste := runs_paste hb hfit
      have hzoom : Runs (zoom rowLens (paste 0 pixels)) (fun _ t =>
          (∃ b, Shows (rowlen hdr lay) (fun _ => True) b t.row) ∧ t.bitmap = m.bitmap ∧
            t.dithered = m.dithered) t :=
        runs_zoom (hpaste.mono fun _ _ hc =>
          ⟨⟨_, hc.congr (fun _ _ _ => .inr trivial) fun _ _ _ => rfl⟩, hbit, hdith⟩)
      exact hzoom.bind fun _ _ ht => runs_pure ht

/-- The page in checked memory: no access fails, and the bitmap that `finish_page` is handed is the one
of the model, every byte of it written and every line dithered once. -/
theorem runs_rasterize (hreg : lay.Regular) (hwide : hdr.cupsWidth.toNat ≤ hdr.cupsBytesPerLine.toNat)
    (hlines : ∀ l ∈ lines, l.length = hdr.cupsBytesPerLine.toNat) :
    Runs (rasterizeMem hdr lay opt lines) (fun done t =>
      (done = true ↔ min lay.srcH hdr.cupsHeight.toNat ≤ lines.length) ∧
      (done = true → t.bitmap = (pageBitmap hdr lay opt lines).map some ∧
        t.dithered.Perm (List.range lay.videoY.toNat))) (PageMem.fresh hdr lay) := by
  let blank : PageBuffers := ⟨fun _ => 0, fun _ => 0, fun _ => 0⟩
  have hwhite : Runs (zoom rowLens (fill 0 0xff (rowlen hdr lay))) (fun _ t =>
      Mirrors hdr lay (Covered lay.srcW (lay.place opt) 0) (placedBits lay opt 0) (placedRows lay opt 0)
        (whiteRow hdr lay blank) t) (PageMem.fresh hdr lay) := by
    refine runs_zoom ((runs_whole_fill (fresh_shows _ blank.row) 0xff).mono fun _ c hc => ⟨hc, ?_, ?_, ?_⟩)
    · exact (fresh_shows _ _).congr (fun _ _ ⟨_, hlt, _⟩ => Nat.not_lt_zero _ hlt) fun _ _ _ => rfl
    · exact (fresh_shows _ _).congr (fun _ _ ⟨_, _, hlt, _⟩ => Nat.not_lt_zero _ hlt) fun _ _ _ => rfl
    · unfold placedRows
      split <;> rfl
  unfold rasterizeMem
  refine hwhite.bind fun _ m hm => (runs_drawLines hreg hlines hm).bind fun drawn t ⟨hdrawn, ht⟩ => ?_
  cases drawn with
  | false => exact runs_pure ⟨hdrawn, nofun⟩
  | true =>
    refine (runs_turnPage hreg (ht rfl)).bind fun _ u ⟨g, rows, hu, hrows⟩ => ?_
    refine (runs_drain hlines hu.row).bind fun _ v ⟨hbit, hdith⟩ => runs_pure ⟨hdrawn, fun _ => ?_⟩
    rw [hbit, hdith, hu.dithered, hu.bitmap.full fun _ _ => trivial, rendered_bytes hreg hwide]
    exact ⟨rfl, hrows⟩

theorem rasterizePage_memory (hreg : lay.Regular)
    (hwide : hdr.cupsWidth.toNat ≤ hdr.cupsBytesPerLine.toNat)
    (hlines : ∀ l ∈ lines, l.length = hdr.cupsBytesPerLine.toNat) {env : Env} {page : UInt32}
    (hd : Drawable env page hdr lay lines) {s : Filter} (hs : s.raster.lines = lines) :
    ∃ b t, rasterizePage env page hdr lay opt s = (.ok b, t) ∧
      Runs (rasterizeMem hdr lay opt lines)
        (fun done m => done = true ∧ m.bitmap = (b.bytes (lay.bpl * lay.videoY.toNat)).map some)
        (PageMem.fresh hdr lay) := by
  obtain ⟨b, hb⟩ := rasterizePage_ok opt hd hs
  refine ⟨_, _, hb, (runs_rasterize hreg hwide hlines).mono fun done m ⟨hdone, hm⟩ => ?_⟩
  have hall := hdone.mpr hd.lines
  rw [rendered_bytes hreg hwide]
  exact ⟨hall, (hm hall).1⟩

/-- Every size a page leads to is below what 32 bits hold, in `unsigned` and in `size_t`, and no
difference of sizes is negative. -/
structure SizesFit (hdr : PageHeader) (lay : PageLayout) : Prop where
  padWidth : hdr.cupsWidth.toNat + 31 < 2 ^ 32
  padHeight : hdr.cupsHeight.toNat + 7 < 2 ^ 32
  line : lay.videoX.toNat * lay.depth.toNat < 2 ^ 32
  bitmap : lay.bpl * lay.videoY.toNat < 2 ^ 32
  row : rowlen hdr lay < 2 ^ 32
  gray : lay.srcW * lay.srcH < 2 ^ 32
  white : copyW hdr lay ≤ rowlen hdr lay
  last : 0 < lay.srcW ∧ 0 < lay.srcH
  blankLine : lay.srcW * lay.depth.toNat < 2 ^ 32
  blank : lay.srcW * lay.depth.toNat / 8 * lay.srcH < 2 ^ 32
  blankWhole : lay.srcW * lay.depth.toNat / 8 * 8 = lay.srcW * lay.depth.toNat

theorem PageLayout.Regular.src_pos (h : lay.Regular) : 0 < lay.srcW ∧ 0 < lay.srcH := by
  unfold srcW srcH
  split
  · exact ⟨h.heightPos, h.widthPos⟩
  · exact ⟨h.widthPos, h.heightPos⟩

theorem srcW_mod (h : hdr.accepted = true) (opt : JobOptions) : (pageLayout hdr opt).srcW % 8 = 0 := by
  have hwidth := (pageLayout_regular h opt).width
  rcases pageLayout_cases hdr opt with ⟨p, -, hlay⟩ | ⟨-, -, hlay⟩ | ⟨-, -, hlay⟩ <;> rw [hlay] at hwidth ⊢
  · show p.videoX.toNat % 8 = 0
    replace hwidth : p.videoX.toNat % 32 = 0 := hwidth
    omega
  · show (3264 : UInt32).toNat % 8 = 0
    decide
  · show (customLayout hdr opt.depth).videoX.toNat % 8 = 0
    omega

theorem sizesFit (h : hdr.accepted = true) (opt : JobOptions) : SizesFit hdr (pageLayout hdr opt) := by
  obtain ⟨-, hw, -, hh, -⟩ := PageHeader.accepted_bounds h
  obtain ⟨hx, hy⟩ := pageLayout_bounds h opt
  have hdepth : (pageLayout hdr opt).depth.toNat ≤ 2 := by
    rw [pageLayout_depth]
    exact opt.depth_le
  have hsrc : (pageLayout hdr opt).srcW ≤ 32768 ∧ (pageLayout hdr opt).srcH ≤ 32768 := by
    unfold PageLayout.srcW PageLayout.srcH
    split
    · exact ⟨hy, hx⟩
    · exact ⟨hx, hy⟩
  have hline := Nat.mul_le_mul hx hdepth
  have hblank := Nat.mul_le_mul hsrc.1 hdepth
  have hbpl : (pageLayout hdr opt).bpl ≤ 8192 := by
    unfold PageLayout.bpl
    omega
  have hbitmap := Nat.mul_le_mul hbpl hy
  have hgray := Nat.mul_le_mul hsrc.1 hsrc.2
  have hblankAll := Nat.mul_le_mul
    (show (pageLayout hdr opt).srcW * (pageLayout hdr opt).depth.toNat / 8 ≤ 8192 by omega) hsrc.2
  have hwhole : (pageLayout hdr opt).srcW * (pageLayout hdr opt).depth.toNat % 8 = 0 := by
    rw [Nat.mul_mod, srcW_mod h opt, Nat.zero_mul]
  refine ⟨by omega, by omega, by omega, by omega, ?_, by omega, copyW_le_rowlen _ _,
    (pageLayout_regular h opt).src_pos, by omega, by omega, by omega⟩
  have hbytes := hdr.cupsBytesPerLine.toNat_lt
  unfold rowlen
  omega

/-- `halftone_row` writes whole bytes: it leaves a line of the bitmap at the start of the next one, with
no bit of a byte pending. -/
def WholeBytes (lay : PageLayout) (opt : JobOptions) : Prop :=
  lay.bpl * 8 = lay.videoX.toNat * lay.depth.toNat ∧
    ∀ (m : PageMem) (row : List UInt8) (d : Nat), m.row = row.map some → lay.videoX.toNat ≤ row.length →
      d * lay.bpl + lay.bpl ≤ m.bitmap.length →
      Runs (halftoneMem (d * lay.bpl) lay.videoX.toNat d lay.depth.toNat opt.negative)
        (fun pen _ => pen = ⟨d * lay.bpl + lay.bpl, 0, 8⟩) m

theorem wholeBytes (hreg : lay.Regular) (opt : JobOptions) : WholeBytes lay opt := by
  refine ⟨?_, fun m row d hrow hwide hfit => ?_⟩
  · have hmul := hreg.bpl_mul
    rcases hreg.depth with hd | hd <;> rw [hd] at hmul ⊢ <;> omega
  · have hshows : Shows row.length (fun _ => True) (ofList row) m.row := by
      refine ⟨by rw [hrow, List.length_map], fun i hi _ => ?_⟩
      simp [hrow, ofList, hi]
    have hdots := runs_halftone hreg.depth hshows
      (⟨rfl, fun _ _ h => h.elim⟩ : Shows m.bitmap.length (fun _ => False) (fun _ => 0) m.bitmap)
      (n := lay.bpl) (by rw [← hreg.bpl_mul]; exact hwide) hfit d opt.negative
    rw [← hreg.bpl_mul] at hdots
    exact hdots.mono fun _ _ ht => ht.pen

structure RenderedInside (p : RasterPage) (opt : JobOptions) : Prop where
  sizes : SizesFit p.hdr (pageLayout p.hdr opt)
  whole : WholeBytes (pageLayout p.hdr opt) opt
  page : Runs (rasterizeMem p.hdr (pageLayout p.hdr opt) opt p.lines) (fun done m =>
    (done = true ↔ min (pageLayout p.hdr opt).srcH p.hdr.cupsHeight.toNat ≤ p.lines.length) ∧
    (done = true → m.bitmap = (pageBitmap p.hdr (pageLayout p.hdr opt) opt p.lines).map some ∧
      m.dithered.Perm (List.range (pageLayout p.hdr opt).videoY.toNat)))
    (PageMem.fresh p.hdr (pageLayout p.hdr opt))
  order : Set.BijOn ((pageLayout p.hdr opt).place opt) (Set.Iio (pageLayout p.hdr opt).srcH)
    (Set.Iio (pageLayout p.hdr opt).srcH)

/-- Every page with an accepted header is rendered inside of its buffers, under every option set. -/
theorem render_inside {p : RasterPage} (h : p.hdr.accepted = true) (opt : JobOptions) :
    RenderedInside p opt := by
  obtain ⟨-, -, -, -, hwide⟩ := PageHeader.accepted_bounds h
  have hreg := pageLayout_regular h opt
  exact ⟨sizesFit h opt, wholeBytes hreg opt, runs_rasterize hreg hwide p.wide, place_bijOn _ opt⟩

theorem render_inside_blackPage :
    blackPage.hdr.accepted = true ∧ RenderedInside blackPage ⟨2, true, false, true, false, 0⟩ :=
  ⟨by decide, render_inside (by decide) _⟩

end PantumOpen.Print
