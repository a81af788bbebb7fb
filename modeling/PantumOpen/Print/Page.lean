import PantumOpen.Print.Filter
import PantumOpen.Print.Halftone

/-! Rendering one page of the raster and writing it out. -/

namespace PantumOpen.Print
open Prog Stdio Buffer

def zjBidMax : Nat := 0x10000

def jbigBihLen : Nat := 20

structure Buf where
  data : List UInt8 := []
  cap : Nat := 0
  failed : Bool := false

/-- The doubling loop of `buf_append`, in `size_t`. -/
def growCap (need : Nat) : Nat → Nat → Nat
  | 0, cap => cap
  | n + 1, cap => if cap < need then growCap need n (cap * 2 % 2 ^ 64) else cap

/-- `buf_append`; `room` is whether `realloc` would succeed now. -/
def bufAppend (room : Bool) (b : Buf) (src : List UInt8) : Buf :=
  if b.failed then b
  else if b.data.length + src.length > b.cap then
    if room then
      let cap := if b.cap = 0 then 65536 else b.cap
      { b with data := b.data ++ src, cap := growCap (b.data.length + src.length) 64 cap }
    else { b with failed := true }
  else { b with data := b.data ++ src }

def jbigCollect (grow : Nat → Bool) (pieces : List (List UInt8)) : Buf :=
  (pieces.foldl (fun (b : Buf × Nat) piece => (bufAppend (grow b.2) b.1 piece, b.2 + 1)) ({}, 0)).1

def jbigCompress (env : Env) (page : UInt32) (bitmap : List UInt8) (width height : UInt32) :
    Prog Unit Filter (List UInt8) := do
  let bie := jbigCollect (env.allocs page).grow (env.jbig bitmap width height)
  if bie.failed || bie.data.length < jbigBihLen then
    msg (.error "Out of memory while compressing a page")
    fail ()
  else pure bie.data

/-- The items of `START_PAGE`. Anything but plain paper forces the manual tray. -/
def pageItems (hdr : PageHeader) (lay : PageLayout) (opt : JobOptions) : List ZjItem :=
  let media := if hdr.cupsMediaType ≠ 0 then hdr.cupsMediaType else 1
  let tray := if media ≠ 1 then 1 else opt.tray
  [⟨zjiDmpaper, lay.dmpaper⟩]
    ++ (if lay.dmpaper = 0 then
        [⟨zjiCustomUnit, 0⟩,
          ⟨zjiCustomWidth, UInt32.ofNat (hdr.pageSize.1.toNat * 600 / 72)⟩,
          ⟨zjiCustomHeight, UInt32.ofNat (hdr.pageSize.2.toNat * 600 / 72)⟩]
      else [])
    ++ [⟨zjiDmcopies, if hdr.numCopies ≠ 0 then hdr.numCopies else 1⟩,
      ⟨zjiDmdefaultsource, tray⟩,
      ⟨zjiDmmediatype, media⟩,
      ⟨zjiNbie, 1⟩,
      ⟨zjiResolutionX, hdr.hwResolution.1⟩,
      ⟨zjiResolutionY, hdr.hwResolution.2⟩,
      ⟨zjiRet, 0⟩,
      ⟨zjiRasterX, lay.videoX * lay.depth⟩,
      ⟨zjiRasterY, lay.videoY⟩,
      ⟨zjiVideoBpp, lay.depth⟩,
      ⟨zjiVideoX, lay.videoX⟩,
      ⟨zjiVideoY, lay.videoY⟩,
      ⟨zjiPantumDensity, opt.density⟩]

def writeBids (bie : List UInt8) : Nat → Nat → Prog Unit File Unit
  | 0, _ => pure ()
  | n + 1, off =>
    if off < bie.length then do
      let nBytes := min (bie.length - off) zjBidMax
      writeChunk { type := zjtJbigBid, raw := (bie.drop off).take nBytes }
      writeBids bie n (off + zjBidMax)
    else pure ()

def emitPage (hdr : PageHeader) (lay : PageLayout) (opt : JobOptions) (bie : List UInt8) :
    Prog Unit File Unit := do
  writeChunk { type := zjtStartPage, items := pageItems hdr lay opt }
  writeChunk { type := zjtJbigBih, raw := bie.take jbigBihLen }
  writeBids bie bie.length jbigBihLen
  writeChunk { type := zjtEndJbig }
  writeChunk { type := zjtEndPage }

/-- `finish_page`: an image whose size is passed separately from the layout. -/
def finishPage (env : Env) (page : UInt32) (k : Sink) (hdr : PageHeader) (lay : PageLayout)
    (opt : JobOptions) (bitmap : List UInt8) (bmpW bmpH : UInt32) : Prog Unit Filter Unit := do
  let bie ← jbigCompress env page bitmap (bmpW * lay.depth) bmpH
  match ← attempt (zoom (Filter.file k) (emitPage hdr lay opt bie)) with
  | .ok _ => pure ()
  | .error _ =>
    msg (.error s!"Cannot write the page out: {env.strerror}")
    fail ()

def reverseRow (row : Buffer) (n : Nat) : Buffer :=
  forRange 0 (fun a row => (row.store a (row (n - 1 - a))).store (n - 1 - a) (row a)) (n / 2) row

def copyW (hdr : PageHeader) (lay : PageLayout) : Nat := min hdr.cupsWidth.toNat lay.srcW

def rowlen (hdr : PageHeader) (lay : PageLayout) : Nat :=
  max (max lay.videoX.toNat lay.srcW) hdr.cupsBytesPerLine.toNat

/-- Line `y` of the page arrives in the row buffer, white wherever the raster does not cover it. -/
def readLine (hdr : PageHeader) (lay : PageLayout) (y : Nat) (row : Buffer) :
    Prog Unit Filter Buffer :=
  if y < hdr.cupsHeight.toNat then do
    match ← zoom Filter.rasterLens cupsRasterReadPixels with
    | some pixels =>
      let row := row.memcpy 0 (ofList pixels) hdr.cupsBytesPerLine.toNat
      pure (row.memset (copyW hdr lay) 0xff (rowlen hdr lay - copyW hdr lay))
    | none =>
      if ← jobCancelled then msg (.info "Cancelled while reading page data")
      else msg (.error s!"Short read from the raster stream at line {y}")
      fail ()
  else if y = hdr.cupsHeight.toNat then pure (row.memset 0 0xff (rowlen hdr lay))
  else pure row

def placeLine (lay : PageLayout) (opt : JobOptions) (y : Nat) (b : PageBuffers) : PageBuffers :=
  let dst := if opt.rotate180 then lay.srcH - 1 - y else y
  let row := if opt.rotate180 then reverseRow b.row lay.srcW else b.row
  if lay.rotate90 then { b with row := row, gray := b.gray.memcpy (dst * lay.srcW) row lay.srcW }
  else
    { b with row := row, bitmap :=
      halftoneRow b.bitmap (dst * lay.bpl) row lay.videoX.toNat dst lay.depth.toNat opt.negative }

def drawLine (hdr : PageHeader) (lay : PageLayout) (opt : JobOptions) (y : Nat) (b : PageBuffers) :
    Prog Unit Filter PageBuffers := do
  let row ← readLine hdr lay y b.row
  pure (placeLine lay opt y { b with row := row })

def turnLine (lay : PageLayout) (opt : JobOptions) (y : Nat) (b : PageBuffers) : PageBuffers :=
  let row := forRange 0 (fun x row => row.store x (b.gray ((lay.srcH - 1 - x) * lay.srcW + y)))
    lay.videoX.toNat b.row
  { b with row := row, bitmap :=
    halftoneRow b.bitmap (y * lay.bpl) row lay.videoX.toNat y lay.depth.toNat opt.negative }

def drainLines : Nat → Prog Unit Raster Unit
  | 0 => pure ()
  | n + 1 => do
    match ← cupsRasterReadPixels with
    | some _ => drainLines n
    | none => pure ()

def rasterizePage (env : Env) (page : UInt32) (hdr : PageHeader) (lay : PageLayout)
    (opt : JobOptions) : Prog Unit Filter Buffer := do
  let ok := env.allocs page
  if !ok.bitmap || !ok.row || (lay.rotate90 && !ok.gray) then
    msg (.error "Out of memory while rendering a page")
    fail ()
  else
    let fresh := env.uninit page
    let row := fresh.row.memset 0 0xff (rowlen hdr lay)
    let b ← forIndex 0 (drawLine hdr lay opt) lay.srcH ⟨row, fresh.gray, fresh.bitmap⟩
    let b := if lay.rotate90 then forRange 0 (turnLine lay opt) lay.videoY.toNat b else b
    zoom Filter.rasterLens (drainLines (hdr.cupsHeight.toNat - lay.srcH))
    pure b.bitmap

def renderPage (env : Env) (page : UInt32) (k : Sink) (hdr : PageHeader) (opt : JobOptions) :
    Prog Unit Filter Unit := do
  let lay := pageLayout hdr opt
  let bitmap ← rasterizePage env page hdr lay opt
  finishPage env page k hdr lay opt (bitmap.bytes (lay.bpl * lay.videoY.toNat)) lay.videoX lay.videoY

/-- `render_blank_page`. On a sheet that is turned a quarter the image is the one of the untuned
size, whatever the layout announces. -/
def renderBlankPage (env : Env) (page : UInt32) (k : Sink) (hdr : PageHeader) (opt : JobOptions) :
    Prog Unit Filter Unit := do
  let lay := pageLayout hdr opt
  let bmpW := if lay.rotate90 then lay.videoY else lay.videoX
  let bmpH := if lay.rotate90 then lay.videoX else lay.videoY
  if !(env.allocs page).bitmap then
    msg (.error "Out of memory while rendering the blank duplex page")
    fail ()
  else
    finishPage env page k hdr lay opt
      (List.replicate (bmpW.toNat * lay.depth.toNat / 8 * bmpH.toNat) 0) bmpW bmpH

end PantumOpen.Print
