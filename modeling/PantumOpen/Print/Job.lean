import PantumOpen.Print.Page

/-! The filter's main function: the page loop, the manual duplex spool and the frame around them. -/

namespace PantumOpen.Print
open Prog Stdio

def pantumParamBlob : List UInt8 := [
  0x00, 0x00, 0x00, 0x51, 0x00, 0x73, 0x00, 0x6e, 0x00, 0x96, 0x00, 0x7a,
  0x00, 0x64, 0x00, 0x96, 0x00, 0xc8, 0x00, 0x64, 0x00, 0x51, 0x00, 0x64,
  0x00, 0x64, 0x00, 0x64, 0x00, 0x64, 0x00, 0x64, 0x00, 0x64, 0x00, 0x64,
  0x00, 0x64, 0x00, 0x64, 0x00, 0x64, 0x00, 0x64, 0x00, 0x64, 0x00, 0x64,
  0x00, 0x78, 0x00, 0x87, 0x00, 0x96, 0x00, 0xb4, 0x00, 0xc8, 0x00, 0x78,
  0x00, 0x96, 0x00, 0xbe, 0x01, 0x5e, 0x01, 0x90, 0x00, 0x64, 0x00, 0x64]

/-- `spool_mark`, after a page that begins at `start`; `room` is whether the table can grow. -/
def spoolMark (room : Bool) (start : Nat) : Prog Unit PageSpool Unit := do
  let sp ← read
  let cap := if sp.slots.length = sp.cap then if sp.cap ≠ 0 then sp.cap * 2 else 16 else sp.cap
  if sp.slots.length = sp.cap && !room then fail ()
  else modify fun sp =>
    { sp with cap := cap, slots := sp.slots ++ [⟨start, sp.fp.pos - start⟩] }

def Filter.spool : Sink → Filter → PageSpool
  | .stdout, _ => {}
  | .fronts, s => s.fronts
  | .backs, s => s.backs

/-- The copy loop of `spool_copy`, 64 KiB at a time. -/
def copyBytes (k : Sink) : Nat → Nat → Prog Unit Filter Unit
  | 0, _ => pure ()
  | n + 1, left =>
    if left = 0 then pure ()
    else do
      let want := min left 65536
      let got ← zoom (Filter.file k) (fread want)
      if got.length ≠ want then fail ()
      else
        zoom (Filter.file .stdout) (writeAll got)
        copyBytes k n (left - got.length)

def spoolCopy (k : Sink) (index : Nat) : Prog Unit Filter Unit := do
  let sp ← gets (Filter.spool k)
  match sp.slots[index]? with
  | none => fail ()
  | some slot => do
    zoom (Filter.file k) (fseek slot.offset)
    copyBytes k slot.length slot.length

structure Progress where
  page : UInt32 := 0
  lastHdr : PageHeader := .zero
deriving DecidableEq, Repr

def PageHeader.copies (hdr : PageHeader) : UInt32 := if hdr.numCopies ≠ 0 then hdr.numCopies else 1

/-- Where page `page` is rendered to: fronts and backs go to spools of their own. -/
def pageSink (opt : JobOptions) (page : UInt32) : Sink :=
  if opt.manualDuplex then if page &&& 1 = 1 then .fronts else .backs else .stdout

def markPage (env : Env) (page : UInt32) (k : Sink) (start : Nat) : Prog Unit Filter Unit :=
  match k with
  | .stdout => pure ()
  | .fronts => zoom Filter.frontsLens (spoolMark (env.allocs page).slots start)
  | .backs => zoom Filter.backsLens (spoolMark (env.allocs page).slots start)

def printPage (env : Env) (opt : JobOptions) (p : Progress) (hdr : PageHeader) :
    Prog Unit Filter (Progress ⊕ Nat × Progress) := do
  let page := p.page + 1
  msg (.page page hdr.copies)
  msg (.info s!"Rendering page {page}")
  let k := pageSink opt page
  let start ← zoom (Filter.file k) ftell
  match ← attempt (renderPage env page k hdr opt) with
  | .error _ =>
    -- a cancelled job has already been reported and is not a failure
    if ← jobCancelled then pure (.inr (0, { p with page := page }))
    else pure (.inr (1, { p with page := page }))
  | .ok _ =>
    match ← attempt (markPage env page k start) with
    | .error _ =>
      msg (.error s!"Cannot record the page in the manual duplex spool: {env.strerror}")
      pure (.inr (1, { p with page := page }))
    | .ok _ => pure (.inl ⟨page, hdr⟩)

def pageRound (env : Env) (opt : JobOptions) (p : Progress) :
    Prog Unit Filter (Progress ⊕ Nat × Progress) := do
  if ← jobCancelled then pure (.inr (0, p))
  else
    match ← zoom Filter.rasterLens cupsRasterReadHeader2 with
    | none => pure (.inr (0, p))
    | some hdr =>
      if !hdr.formatOk then
        let bits := hdr.cupsBitsPerPixel
        let width := hdr.cupsWidth
        let height := hdr.cupsHeight
        let bytes := hdr.cupsBytesPerLine
        msg (.error (s!"Unsupported raster format: {bits} bits per pixel, {width}x{height}, "
          ++ s!"{bytes} bytes per line"))
        pure (.inr (1, p))
      else if !hdr.spaceOk then
        let space := hdr.cupsColorSpace
        msg (.error s!"Unsupported colour space {space}, expected 8-bit grayscale")
        pure (.inr (1, p))
      else printPage env opt p hdr

/-- The page loop: an exit status and how far it came. -/
def pageLoop (env : Env) (opt : JobOptions) : Prog Unit Filter (Nat × Progress) := do
  let n ← gets fun s => s.raster.pages.length
  loop (pageRound env opt) (fun p => pure (0, p)) (n + 1) {}

/-- The second half of a manual duplex job: the backs, in reverse order, after the pause. -/
def replayBacks (env : Env) (opt : JobOptions) (p : Progress) (fronts : Nat) :
    Prog Unit Filter (Nat × UInt32) := do
  let paused ← attempt (zoom (Filter.file .stdout) (writeChunk { type := zjt2600nPause }))
  let backs ← gets fun s => s.backs.slots.length
  let blank ←
    if backs < fronts then do
      -- a sheet the accounting has not seen yet: it was never in the spool
      msg (.page (p.page + 1) 1)
      attempt (renderBlankPage env (p.page + 1) .stdout p.lastHdr opt)
    else pure (.ok ())
  let page := if backs < fronts then p.page + 1 else p.page
  match paused, blank with
  | .ok _, .ok _ =>
    match ← attempt (forIndex 0 (fun j _ => spoolCopy .backs (backs - 1 - j)) backs ()) with
    | .error _ =>
      msg (.error s!"Cannot replay the manual duplex spool: {env.strerror}")
      pure (1, page)
    | .ok _ => pure (0, page)
  | _, _ => pure (1, page)

def replaySpools (env : Env) (opt : JobOptions) (p : Progress) : Prog Unit Filter (Nat × UInt32) := do
  let fronts ← gets fun s => s.fronts.slots.length
  match ← attempt (forIndex 0 (fun i _ => spoolCopy .fronts i) fronts ()) with
  | .error _ =>
    msg (.error s!"Cannot replay the manual duplex spool: {env.strerror}")
    pure (1, p.page)
  | .ok _ =>
    msg (.state "+MDuplex")
    msg (.info ("Manual duplex: take the stack out of the output tray, "
      ++ "turn it over and put it back printed side down"))
    replayBacks env opt p fronts

def docItems : List ZjItem := [⟨zjiPagecount, 0⟩, ⟨zjiDmcollate, 0⟩, ⟨zjiDmduplex, zjDmduplexSimplex⟩]

def beginDoc : Prog Unit File Unit := do
  writeAll (uel ++ zjMagic)
  writeChunk { type := zjtPantumParam, raw := pantumParamBlob }
  writeChunk { type := zjtStartDoc, items := docItems }

/-- The trailer. The files hold what was written to them at once, so that nothing is left to flush. -/
def endDoc : Prog Unit File Unit := do
  writeChunk { type := zjtEndDoc }
  writeAll uel

/-- The exit status after the page loop: a stream without a page is an error. -/
def loopStatus (status : Nat) (p : Progress) : Prog Unit Filter Nat :=
  if status ≠ 0 then pure status
  else do
    if ← jobCancelled then pure 0
    else if p.page = 0 then
      msg (.error "No pages were found in the print file")
      pure 1
    else pure 0

def replayNow (opt : JobOptions) (status : Nat) : Prog Unit Filter Bool :=
  if status ≠ 0 then pure false
  else do
    if ← jobCancelled then pure false
    else pure opt.manualDuplex

/-- The trailer, which is written in any case, and the exit status. -/
def closeJob (env : Env) (status : Nat) (page : UInt32) : Prog Unit Filter Nat := do
  let ended ← attempt (zoom (Filter.file .stdout) endDoc)
  let status ←
    match ended with
    | .ok _ => pure status
    | .error _ => do
      msg (.error s!"Cannot write to the printer: {env.strerror}")
      pure 1
  if ← jobCancelled then msg (.info s!"Job cancelled after {page} page(s)")
  pure status

/-- `main` from the page loop on. -/
def printJob (env : Env) (opt : JobOptions) : Prog Unit Filter Nat := do
  let (status, p) ← pageLoop env opt
  let status ← loopStatus status p
  let (status, page) ← if ← replayNow opt status then replaySpools env opt p else pure (status, p.page)
  closeJob env status page

/-- `main`, its options read: the exit status. -/
def main (env : Env) (opt : JobOptions) : Prog Unit Filter Nat := do
  msg (.state "-MDuplex")
  if opt.manualDuplex && !env.spoolsOpen then
    msg (.error s!"Cannot create a temporary file for manual duplex: {env.strerror}")
    pure 1
  else if !env.rasterOpens then
    msg (.error s!"Cannot read the raster stream: {env.rasterError}")
    pure 1
  else
    match ← attempt (zoom (Filter.file .stdout) beginDoc) with
    | .error _ =>
      msg (.error s!"Cannot write to the printer: {env.strerror}")
      pure 1
    | .ok _ => printJob env opt

end PantumOpen.Print
