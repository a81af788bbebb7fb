import PantumOpen.Lib.Buffer
import PantumOpen.Print.Chunk
import PantumOpen.Print.Layout

/-! What the filter works on: the raster stream as libcups hands it out, the files it writes and the
lines it leaves for the scheduler. -/

namespace PantumOpen.Print
open Prog Stdio

structure RasterPage where
  hdr : PageHeader
  lines : List (List UInt8)
  wide : ∀ l ∈ lines, l.length = hdr.cupsBytesPerLine.toNat
  tall : lines.length ≤ hdr.cupsHeight.toNat

def RasterPage.Whole (p : RasterPage) : Prop := p.lines.length = p.hdr.cupsHeight.toNat

/-- A raster stream, cut off anywhere: only its last page can lack lines. -/
structure RasterStream where
  pages : List RasterPage
  whole : ∀ p ∈ pages.dropLast, p.Whole

/-- `cups_raster_t`: the unread lines of the page that was begun and the pages that follow. -/
structure Raster where
  lines : List (List UInt8)
  pages : List RasterPage

def RasterStream.open (r : RasterStream) : Raster := ⟨[], r.pages⟩

/-- The next header. In the middle of a page there is none to be found. -/
def cupsRasterReadHeader2 : Prog Unit Raster (Option PageHeader) := fun r =>
  match r.lines, r.pages with
  | [], p :: pages => (.ok (some p.hdr), ⟨p.lines, pages⟩)
  | _, _ => (.ok none, r)

def cupsRasterReadPixels : Prog Unit Raster (Option (List UInt8)) := fun r =>
  match r.lines with
  | l :: lines => (.ok (some l), ⟨lines, r.pages⟩)
  | [] => (.ok none, r)

inductive Diagnostic where
  | page (number copies : UInt32)
  | error (text : String)
  | info (text : String)
  | state (text : String)
deriving DecidableEq, Repr

structure PageSlot where
  offset : Nat
  length : Nat
deriving DecidableEq, Repr

structure PageSpool where
  fp : File := {}
  slots : List PageSlot := []
  cap : Nat := 0
deriving DecidableEq, Repr

/-- The state of a running job. `arrivals` tells, for each test of `job_cancelled` to come, whether
the signal has arrived since the one before. -/
structure Filter where
  raster : Raster
  stdout : File := {}
  fronts : PageSpool := {}
  backs : PageSpool := {}
  log : List Diagnostic := []
  cancelled : Bool := false
  arrivals : List Bool := []

inductive Sink where
  | stdout
  | fronts
  | backs
deriving DecidableEq, Repr

def Filter.rasterLens : Lens Filter Raster where
  get s := s.raster
  set r s := { s with raster := r }
  get_set _ _ := rfl
  set_get _ := rfl
  set_set _ _ _ := rfl

def Filter.frontsLens : Lens Filter PageSpool where
  get s := s.fronts
  set p s := { s with fronts := p }
  get_set _ _ := rfl
  set_get _ := rfl
  set_set _ _ _ := rfl

def Filter.backsLens : Lens Filter PageSpool where
  get s := s.backs
  set p s := { s with backs := p }
  get_set _ _ := rfl
  set_get _ := rfl
  set_set _ _ _ := rfl

def Filter.file : Sink → Lens Filter File
  | .stdout =>
    { get := fun s => s.stdout
      set := fun f s => { s with stdout := f }
      get_set := fun _ _ => rfl
      set_get := fun _ => rfl
      set_set := fun _ _ _ => rfl }
  | .fronts =>
    { get := fun s => s.fronts.fp
      set := fun f s => { s with fronts := { s.fronts with fp := f } }
      get_set := fun _ _ => rfl
      set_get := fun _ => rfl
      set_set := fun _ _ _ => rfl }
  | .backs =>
    { get := fun s => s.backs.fp
      set := fun f s => { s with backs := { s.backs with fp := f } }
      get_set := fun _ _ => rfl
      set_get := fun _ => rfl
      set_set := fun _ _ _ => rfl }

def msg (d : Diagnostic) : Prog Unit Filter Unit := modify fun s => { s with log := s.log ++ [d] }

theorem msg_bind {α : Type} (d : Diagnostic) (f : Unit → Prog Unit Filter α) (s : Filter) :
    (msg d >>= f) s = f () { s with log := s.log ++ [d] } := rfl

/-- `job_cancelled` as one test finds it: the signal may have come since the last one, or during a
write. -/
def jobCancelled : Prog Unit Filter Bool := fun s =>
  let c := s.cancelled || s.stdout.interrupted || s.arrivals.headD false
  (.ok c, { s with cancelled := c, arrivals := s.arrivals.tail })

/-- Which of the allocations made for a page succeed; `grow` answers for each piece of compressed
data that `buf_append` may have to make room for. -/
structure Allocs where
  bitmap : Bool := true
  row : Bool := true
  gray : Bool := true
  slots : Bool := true
  grow : Nat → Bool := fun _ => true

structure PageBuffers where
  row : Buffer
  gray : Buffer
  bitmap : Buffer

/-- What a job finds around it: the pieces jbig-kit hands over for an image, the outcomes of the
allocations page by page, what fresh memory holds, whether the files can be opened and the texts of
the errors. -/
structure Env where
  jbig : List UInt8 → UInt32 → UInt32 → List (List UInt8)
  allocs : UInt32 → Allocs := fun _ => {}
  uninit : UInt32 → PageBuffers := fun _ => ⟨fun _ => 0, fun _ => 0, fun _ => 0⟩
  spoolsOpen : Bool := true
  rasterOpens : Bool := true
  strerror : String := ""
  rasterError : String := ""

end PantumOpen.Print
