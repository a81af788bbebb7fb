import Mathlib

/-! The raster header of a page and the sheet it is laid out on. -/

namespace PantumOpen.Print

def ptMaxDots : UInt32 := 32768

def cupsCspaceW : UInt32 := 0
def cupsCspaceSw : UInt32 := 18

structure PageHeader where
  hwResolution : UInt32 × UInt32
  numCopies : UInt32
  pageSize : UInt32 × UInt32
  cupsWidth : UInt32
  cupsHeight : UInt32
  cupsMediaType : UInt32
  cupsBitsPerPixel : UInt32
  cupsBytesPerLine : UInt32
  cupsColorSpace : UInt32
deriving DecidableEq, Repr

def PageHeader.zero : PageHeader := ⟨(0, 0), 0, (0, 0), 0, 0, 0, 0, 0, 0⟩

structure JobOptions where
  density : UInt32
  dpi1200 : Bool
  negative : Bool
  rotate180 : Bool
  manualDuplex : Bool
  tray : UInt32
deriving DecidableEq, Repr

structure PaperEntry where
  widthPt : UInt32
  heightPt : UInt32
  videoX : UInt32
  videoY : UInt32
  dmpaper : UInt32
deriving DecidableEq, Repr

def paperTable : List PaperEntry := [
  ⟨420, 595, 3264, 4736, 11⟩, ⟨595, 842, 4736, 6784, 9⟩, ⟨612, 792, 4864, 6368, 1⟩,
  ⟨612, 1008, 4864, 8192, 5⟩, ⟨516, 729, 4064, 5856, 13⟩, ⟨279, 540, 2112, 4288, 37⟩,
  ⟨312, 624, 2368, 4992, 27⟩, ⟨459, 649, 3616, 5184, 28⟩, ⟨297, 684, 2240, 5472, 20⟩,
  ⟨283, 420, 2144, 3264, 43⟩, ⟨524, 737, 4160, 5920, 263⟩, ⟨553, 765, 4384, 6144, 264⟩,
  ⟨369, 524, 2848, 4160, 266⟩, ⟨383, 553, 2976, 4384, 260⟩, ⟨298, 420, 2272, 3264, 70⟩,
  ⟨499, 709, 3936, 5696, 34⟩, ⟨522, 756, 4128, 6080, 7⟩, ⟨612, 936, 4864, 7584, 14⟩,
  ⟨612, 972, 4864, 7872, 269⟩, ⟨396, 612, 3072, 4864, 6⟩, ⟨323, 459, 2464, 3616, 31⟩,
  ⟨340, 652, 2624, 5216, 270⟩, ⟨354, 499, 2720, 3936, 271⟩]

def ptA5RotSizePt : UInt32 × UInt32 := (421, 595)
def ptA5SizePt : UInt32 × UInt32 := (420, 595)
def zjDmpaperA5Rotated : UInt32 := 61

def paperFind (size : UInt32 × UInt32) : Option PaperEntry :=
  paperTable.find? fun p => p.widthPt == size.1 && p.heightPt == size.2

structure PageLayout where
  dmpaper : UInt32
  videoX : UInt32
  videoY : UInt32
  depth : UInt32
  rotate90 : Bool
deriving DecidableEq, Repr

/-- An unknown size becomes a custom page, padded to 32 dots across and 8 down. -/
def customLayout (hdr : PageHeader) (depth : UInt32) : PageLayout :=
  ⟨0, (hdr.cupsWidth + 31) &&& ~~~31, (hdr.cupsHeight + 7) &&& ~~~7, depth, false⟩

/-- `page_layout`. The size 421x595 is A5 on its side: the layout is that of the turned sheet. -/
def pageLayout (hdr : PageHeader) (opt : JobOptions) : PageLayout :=
  let depth : UInt32 := if opt.dpi1200 then 2 else 1
  match paperFind hdr.pageSize with
  | some p => ⟨p.dmpaper, p.videoX, p.videoY, depth, false⟩
  | none =>
    if hdr.pageSize = ptA5RotSizePt then
      match paperFind ptA5SizePt with
      | some p => ⟨zjDmpaperA5Rotated, p.videoY, p.videoX, depth, true⟩
      | none => customLayout hdr depth
    else customLayout hdr depth

/-- The size of the page as the raster lays it out, before the quarter turn. -/
def PageLayout.srcW (lay : PageLayout) : Nat :=
  (if lay.rotate90 then lay.videoY else lay.videoX).toNat

def PageLayout.srcH (lay : PageLayout) : Nat :=
  (if lay.rotate90 then lay.videoX else lay.videoY).toNat

def PageLayout.bpl (lay : PageLayout) : Nat := lay.videoX.toNat * lay.depth.toNat / 8

/-- The checks a header has to pass before anything is allocated from it. -/
def PageHeader.formatOk (hdr : PageHeader) : Bool :=
  !(hdr.cupsBitsPerPixel != 8 || hdr.cupsWidth == 0 || hdr.cupsHeight == 0
    || hdr.cupsWidth > ptMaxDots || hdr.cupsHeight > ptMaxDots
    || hdr.cupsBytesPerLine < hdr.cupsWidth || hdr.cupsBytesPerLine > ptMaxDots)

def PageHeader.spaceOk (hdr : PageHeader) : Bool :=
  !(hdr.cupsColorSpace != cupsCspaceW && hdr.cupsColorSpace != cupsCspaceSw)

def PageHeader.accepted (hdr : PageHeader) : Bool := hdr.formatOk && hdr.spaceOk

end PantumOpen.Print
