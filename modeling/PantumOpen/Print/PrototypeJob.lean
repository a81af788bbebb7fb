import PantumOpen.Print.Geometry
import PantumOpen.Print.Options
import PantumOpen.Print.StreamForm

/-! The prototype of the filter as a whole, from the raster file it reads to the stream it writes, and
that the filter writes the same stream. -/

namespace PantumOpen.Print.Prototype
open Prog Bytes

/-- What ends the prototype before its time: the two texts of `SystemExit`, a value that
`struct.pack` refuses, one that `int` refuses, and a failed `pbmtojbg`. -/
inductive PyError where
  | badMagic (magic : List UInt8)
  | badDepth (bitsPerPixel : Nat)
  | structError
  | valueError
  | calledProcessError
deriving DecidableEq, Repr

structure Output where
  stdout : List UInt8 := []
  stderr : List String := []
deriving DecidableEq, Repr

/-- `pbmtojbg` on a bitmap of a width and a height. -/
abbrev Encoder := List UInt8 → Nat → Nat → Option (List UInt8)

def write (bs : List UInt8) : Prog PyError Output Unit := modify fun o => { o with stdout := o.stdout ++ bs }

def packItem (item : Nat × Int) : Prog PyError Output (List UInt8) :=
  if item.1 < 2 ^ 16 ∧ 0 ≤ item.2 ∧ item.2 < 2 ^ 32 then
    pure (putBe32 12 ++ putBe16 item.1 ++ [1, 0] ++ putBe32 item.2.toNat)
  else fail .structError

def packItems : List (Nat × Int) → Prog PyError Output (List UInt8)
  | [] => pure []
  | item :: items => do
    let record ← packItem item
    let records ← packItems items
    pure (record ++ records)

def chunk (ctype : Nat) (items : List (Nat × Int)) (raw : List UInt8) :
    Prog PyError Output (List UInt8) := do
  let records ← packItems items
  let body := records ++ raw
  if 16 + body.length < 2 ^ 32 ∧ ctype < 2 ^ 32 ∧ items.length < 2 ^ 32 ∧ items.length * 12 < 2 ^ 16 then
    pure (putBe32 (16 + body.length) ++ putBe32 ctype ++ putBe32 items.length ++
      putBe16 (items.length * 12) ++ putBe16 zjSignature ++ body)
  else fail .structError

def writeChunk (ctype : Nat) (items : List (Nat × Int)) (raw : List UInt8) :
    Prog PyError Output Unit := do
  let bs ← chunk ctype items raw
  write bs

def unpackLe32 (blob : List UInt8) (off : Nat) : UInt32 :=
  UInt32.ofNat ((blob.getD off 0).toNat + (blob.getD (off + 1) 0).toNat * 2 ^ 8 +
    (blob.getD (off + 2) 0).toNat * 2 ^ 16 + (blob.getD (off + 3) 0).toNat * 2 ^ 24)

def rasterHeader (blob : List UInt8) : PageHeader where
  hwResolution := (unpackLe32 blob 276, unpackLe32 blob 280)
  numCopies := unpackLe32 blob 340
  pageSize := (unpackLe32 blob 352, unpackLe32 blob 356)
  cupsWidth := unpackLe32 blob 372
  cupsHeight := unpackLe32 blob 376
  cupsMediaType := unpackLe32 blob 380
  cupsBitsPerPixel := unpackLe32 blob 388
  cupsBytesPerLine := unpackLe32 blob 392
  cupsColorSpace := unpackLe32 blob 400

def item (type : UInt16) (value : Int) : Nat × Int := (type.toNat, value)

/-- The items of a page. For a custom size three more go straight after the paper. -/
def startPageItems (hdr : PageHeader) (paper outW outH depth tray : Nat) (density : Int) :
    List (Nat × Int) :=
  let media := if hdr.cupsMediaType.toNat = 0 then 1 else hdr.cupsMediaType.toNat
  let copies := if hdr.numCopies.toNat = 0 then 1 else hdr.numCopies.toNat
  [item zjiDmpaper paper] ++
    (if paper = 0 then
      [item zjiCustomUnit 0,
        item zjiCustomWidth (hdr.pageSize.1.toNat * 600 / 72 : Nat),
        item zjiCustomHeight (hdr.pageSize.2.toNat * 600 / 72 : Nat)]
    else []) ++
    [item zjiDmcopies copies,
      item zjiDmdefaultsource (if media ≠ 1 then 1 else tray : Nat),
      item zjiDmmediatype media,
      item zjiNbie 1,
      item zjiResolutionX hdr.hwResolution.1.toNat,
      item zjiResolutionY hdr.hwResolution.2.toNat,
      item zjiRet 0,
      item zjiRasterX (outW * depth : Nat),
      item zjiRasterY outH,
      item zjiVideoBpp depth,
      item zjiVideoX outW,
      item zjiVideoY outH,
      item zjiPantumDensity density]

/-- `bid[off:off + 0x10000]` for each `off`. -/
def bids (bid : List UInt8) : List (List UInt8) :=
  (List.range ((bid.length + 0xffff) / 0x10000)).map fun i => (bid.drop (i * 0x10000)).take 0x10000

def writeBids : List (List UInt8) → Prog PyError Output Unit
  | [] => pure ()
  | raw :: rest => do
    writeChunk zjtJbigBid [] raw
    writeBids rest

def depth (opts : List Char → Option (List Char)) : Nat := if isTrue opts "DPI1200".toList then 2 else 1

def emitPage (pbmtojbg : Encoder) (opts : List Char → Option (List Char)) (hdr : PageHeader)
    (bitmap : List UInt8) (outW outH paper : Nat) : Prog PyError Output Unit :=
  match density opts with
  | none => fail .valueError
  | some density => do
    writeChunk zjtStartPage (startPageItems hdr paper outW outH (depth opts) (tray opts) density) []
    match pbmtojbg bitmap (outW * depth opts) outH with
    | none => fail .calledProcessError
    | some bie => do
      writeChunk zjtJbigBih [] (bie.take 20)
      writeBids (bids (bie.drop 20))
      writeChunk zjtEndJbig [] []
      writeChunk zjtEndPage [] []

def printPage (pbmtojbg : Encoder) (opts : List Char → Option (List Char)) (n : Nat) (hdr : PageHeader)
    (data : List UInt8) : Prog PyError Output Unit := do
  let (paper, outW, outH, sideways) := pageGeometry hdr
  let bitmap := halftone data hdr outW outH (isTrue opts "NegativePrint".toList)
    (isTrue opts "ImageRotation".toList) (depth opts) sideways
  modify fun o => { o with stderr := o.stderr ++ [s!"PAGE: {n} 1"] }
  emitPage pbmtojbg opts hdr bitmap outW outH paper

def headerLen : Nat := 1796

/-- The next header, unless too little is left for one. -/
def readHeader (rest : List UInt8) : Option PageHeader :=
  if (rest.take headerLen).length < headerLen then none else some (rasterHeader (rest.take headerLen))

def dataLen (hdr : PageHeader) : Nat :=
  hdr.cupsBytesPerLine.toNat * hdr.cupsHeight.toNat

/-- `read_raster` behind the magic, each page printed as it is read. A page takes at least its
header, so that the length of the file bounds the rounds. -/
def printPages (pbmtojbg : Encoder) (opts : List Char → Option (List Char)) :
    Nat → Nat → List UInt8 → Prog PyError Output Unit
  | 0, _, _ => pure ()
  | rounds + 1, n, rest =>
    match readHeader rest with
    | none => pure ()
    | some hdr =>
      if hdr.cupsBitsPerPixel.toNat ≠ 8 then fail (.badDepth hdr.cupsBitsPerPixel.toNat)
      else do
        printPage pbmtojbg opts (n + 1) hdr ((rest.drop headerLen).take (dataLen hdr))
        printPages pbmtojbg opts rounds (n + 1) ((rest.drop headerLen).drop (dataLen hdr))

def rasterMagic : List UInt8 := [0x33, 0x53, 0x61, 0x52]

def main (pbmtojbg : Encoder) (argv : List (List Char)) (file : List UInt8) :
    Prog PyError Output Unit := do
  let opts := options (argstr argv)
  write uel
  write zjMagic
  writeChunk zjtPantumParam [] pantumParamBlob
  writeChunk zjtStartDoc
    [item zjiPagecount 0, item zjiDmcollate 0, item zjiDmduplex 1] []
  let magic := file.take 4
  if magic ≠ rasterMagic ∧ magic ≠ rasterMagic.reverse then fail (.badMagic magic)
  else do
    printPages pbmtojbg opts file.length 0 (file.drop 4)
    writeChunk zjtEndDoc [] []
    write uel

def packed (i : ZjItem) : Nat × Int := item i.type i.value.toNat

variable {hdr : PageHeader} {opt : JobOptions}

/-- What the two programs find around them: the raster opens, memory does not run out, and `pbmtojbg`
makes of an image what the library makes of it, which begins with a whole header. -/
structure Surroundings (env : Env) (pbmtojbg : Encoder) : Prop where
  raster : env.rasterOpens = true
  memory : ∀ page, env.allocs page = {}
  complete : ∀ bitmap w h, jbigBihLen ≤ (env.jbig bitmap w h).flatten.length
  same : ∀ bitmap w h, pbmtojbg bitmap (UInt32.toNat w) (UInt32.toNat h) =
    some (env.jbig bitmap w h).flatten

structure Printable (p : RasterPage) : Prop where
  accepted : p.hdr.accepted = true
  whole : p.Whole
  sizeFits : p.hdr.SizeFits

theorem Printable.bits {p : RasterPage} (h : Printable p) : p.hdr.cupsBitsPerPixel.toNat = 8 := by
  have hformat := (Bool.and_eq_true_iff.mp h.accepted).1
  simp only [PageHeader.formatOk, Bool.not_eq_true', Bool.or_eq_false_iff, bne_eq_false_iff_eq] at hformat
  rw [hformat.1.1.1.1.1.1]
  rfl

section
variable {env : Env} {pbmtojbg : Encoder} {src : OptionSource} {opts : List Char → Option (List Char)}
variable {p : RasterPage}

end

/-- A page of an uncompressed raster file: the bytes that hold its header, and all its lines. -/
structure PageFile where
  blob : List UInt8
  page : RasterPage
  length : blob.length = headerLen
  header : rasterHeader blob = page.hdr
  whole : page.Whole

def PageFile.bytes (f : PageFile) : List UInt8 := f.blob ++ f.page.lines.flatten

theorem PageFile.readHeader (f : PageFile) (rest : List UInt8) :
    Prototype.readHeader (f.blob ++ rest) = some f.page.hdr := by
  unfold Prototype.readHeader
  rw [List.take_left' f.length, if_neg (Nat.not_lt.mpr f.length.ge), f.header]

theorem Surroundings.renders {env : Env} {pbmtojbg : Encoder} (henv : Surroundings env pbmtojbg)
    {p : RasterPage} (hp : Printable p) (opt : JobOptions) (page : UInt32) : Renders env opt page p := by
  have hroom := henv.memory page
  refine ⟨hp.accepted, ⟨by rw [hroom], by rw [hroom], fun _ => by rw [hroom], ?_⟩, ?_⟩
  · exact (Nat.min_le_right _ _).trans_eq hp.whole.symm
  · have hpieces := jbigCollect_room (sheetImage env p.hdr (pageLayout p.hdr opt) opt p.lines)
    have hcomplete :
        jbigBihLen ≤ (sheetImage env p.hdr (pageLayout p.hdr opt) opt p.lines).flatten.length :=
      henv.complete _ _ _
    rw [hroom]
    unfold compresses
    rw [hpieces, jbigCollect_data hpieces]
    simpa using hcomplete

end PantumOpen.Print.Prototype
