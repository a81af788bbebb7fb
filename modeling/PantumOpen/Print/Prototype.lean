import PantumOpen.Print.Layout
import PantumOpen.Print.Dither

/-! The prototype of the filter, proto/rastertopantum.py: how it lays out and dithers a whole page. -/

namespace PantumOpen.Print.Prototype
open Buffer

/-- The geometry of a page: the paper code, the announced video size and whether the sheet is turned.
The table of papers is that of the filter. -/
def pageGeometry (hdr : PageHeader) : Nat × Nat × Nat × Bool :=
  match paperFind hdr.pageSize with
  | some p => (p.dmpaper.toNat, p.videoX.toNat, p.videoY.toNat, false)
  | none =>
    let custom := (0, (hdr.cupsWidth.toNat + 31) / 32 * 32, (hdr.cupsHeight.toNat + 7) / 8 * 8, false)
    if hdr.pageSize = ptA5RotSizePt then
      match paperFind ptA5SizePt with
      | some p => (zjDmpaperA5Rotated.toNat, p.videoY.toNat, p.videoX.toNat, true)
      | none => custom
    else custom

def grayLine (gray : List UInt8) (hdr : PageHeader) (srcW sy : Nat) : List UInt8 :=
  let white := List.replicate srcW 0xff
  if sy < hdr.cupsHeight.toNat then
    let row := (gray.drop (sy * hdr.cupsBytesPerLine.toNat)).take (min hdr.cupsWidth.toNat srcW)
    row ++ white.drop row.length
  else white

def grayRow (gray : List UInt8) (hdr : PageHeader) (srcW srcH : Nat) (rotate180 : Bool) (y : Nat) :
    List UInt8 :=
  let row := grayLine gray hdr srcW (if rotate180 then srcH - 1 - y else y)
  if rotate180 then row.reverse else row

def grayPage (gray : List UInt8) (hdr : PageHeader) (outW outH : Nat) (rotate180 rotate90 : Bool) :
    List (List UInt8) :=
  let srcW := if rotate90 then outH else outW
  let srcH := if rotate90 then outW else outH
  let rows := (List.range srcH).map (grayRow gray hdr srcW srcH rotate180)
  if rotate90 then
    (List.range outH).map fun y =>
      (List.range outW).map fun x => (rows.getD (srcH - 1 - x) []).getD y 0
  else rows

def htTable2big : List Nat :=
  [0] ++ List.replicate 23 1 ++ List.replicate 40 2 ++ List.replicate 192 3

def dot (depth : Nat) (negative : Bool) (b thr : UInt8) : Nat :=
  if depth = 1 then
    if (if !negative then b < thr else thr ≤ b) then 1 else 0
  else
    let lvl : Int := if b = 0 then 0xff else max 0 (0xff - (b.toNat : Int) - thr.toNat)
    let v := htTable2big.getD lvl.toNat 0
    if negative then 3 - v else v

/-- One pixel of `halftone`: its value is shifted in, and the last one of a byte stores it. -/
def pushPixel (depth : Nat) (value : Nat → Nat) (obase x : Nat) (s : Buffer × Nat) : Buffer × Nat :=
  let ppb := 8 / depth
  let acc := s.2 <<< depth ||| value x
  if x % ppb = ppb - 1 then (s.1.store (obase + x / ppb) (UInt8.ofNat acc), 0) else (s.1, acc)

def halftoneLine (depth : Nat) (negative : Bool) (row : List UInt8) (bplOut outW y : Nat)
    (out : Buffer) : Buffer :=
  let value x := dot depth negative (row.getD x 0) (htTable600.getD (y % 16 * 16 + x % 16) 0)
  (forRange 0 (pushPixel depth value (y * bplOut)) outW (out, 0)).1

def halftone (gray : List UInt8) (hdr : PageHeader) (outW outH : Nat) (negative rotate180 : Bool)
    (depth : Nat) (rotate90 : Bool) : List UInt8 :=
  let bplOut := outW * depth / 8
  let rows := grayPage gray hdr outW outH rotate180 rotate90
  let out : Buffer := forRange 0
    (fun y => halftoneLine depth negative (rows.getD y []) bplOut outW y) outH fun _ => 0
  out.bytes (bplOut * outH)

def bitmap (gray : List UInt8) (hdr : PageHeader) (opt : JobOptions) : List UInt8 :=
  let geometry := pageGeometry hdr
  halftone gray hdr geometry.2.1 geometry.2.2.1 opt.negative opt.rotate180
    (if opt.dpi1200 then 2 else 1) geometry.2.2.2

end PantumOpen.Print.Prototype
