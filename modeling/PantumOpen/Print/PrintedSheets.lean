import PantumOpen.Print.Accounting
import PantumOpen.Print.PageMemory

/-! What a printer that takes the stream of a job apart puts on paper. -/

namespace PantumOpen.Print
open Prog Stdio Bytes

variable {env : Env} {opt : JobOptions}

structure SheetData where
  items : List ItemRecord
  bie : List UInt8
  deriving DecidableEq, Repr

/-- The pages among the chunks of a stream, when `cur` has been begun. The pieces of a BIE are put
together, and chunks of other types are skipped. -/
def sheetsFrom (cur : Option SheetData) : List Entry → List SheetData
  | [] => []
  | .chunk _ _ type _ _ items raw :: es =>
    if type = zjtStartPage then sheetsFrom (some ⟨items, []⟩) es
    else if type = zjtJbigBih ∨ type = zjtJbigBid then
      sheetsFrom (cur.map fun d => { d with bie := d.bie ++ raw }) es
    else if type = zjtEndPage then cur.toList ++ sheetsFrom none es
    else sheetsFrom cur es
  | _ :: es => sheetsFrom cur es

/-- An image: its bytes, the dots of a line and the lines. -/
abbrev Image := List UInt8 × UInt32 × UInt32

def sheets (decode : List UInt8 → Option Image) (stream : List UInt8) :
    List (List ItemRecord × Option Image) :=
  match parse stream with
  | .ok entries => (sheetsFrom none entries).map fun d => (d.items, decode d.bie)
  | .error _ => []

def pageSheet (opt : JobOptions) (p : RasterPage) : List ItemRecord × Option Image :=
  let lay := pageLayout p.hdr opt
  ((pageItems p.hdr lay opt).map ZjItem.entry,
    some (pageBitmap p.hdr lay opt p.lines, lay.videoX * lay.depth, lay.videoY))

def blankSheet (opt : JobOptions) (hdr : PageHeader) : List ItemRecord × Option Image :=
  let lay := pageLayout hdr opt
  let bmpW := if lay.rotate90 then lay.videoY else lay.videoX
  let bmpH := if lay.rotate90 then lay.videoX else lay.videoY
  ((pageItems hdr lay opt).map ZjItem.entry,
    some (List.replicate (bmpW.toNat * lay.depth.toNat / 8 * bmpH.toNat) 0, bmpW * lay.depth, bmpH))

/-- The sheets of a whole job, in the order in which they leave the printer. -/
def jobSheets (opt : JobOptions) (pages : List RasterPage) : List (List ItemRecord × Option Image) :=
  if opt.manualDuplex then
    (odds pages).map (pageSheet opt) ++
      (if pages.length % 2 = 0 then [] else (pages.getLast?.map fun p => blankSheet opt p.hdr).toList) ++
      (evens pages).reverse.map (pageSheet opt)
  else pages.map (pageSheet opt)

theorem chunkEntries_append (pos : Nat) (cs ds : List Chunk) :
    chunkEntries pos (cs ++ ds) = chunkEntries pos cs ++ chunkEntries (pos + chunksSize cs) ds := by
  induction cs generalizing pos with
  | nil => rfl
  | cons c cs ih =>
    have hsize : pos + c.size + chunksSize cs = pos + chunksSize (c :: cs) := by
      simp only [chunksSize, List.map_cons, List.sum_cons, Nat.add_assoc]
    rw [List.cons_append, chunkEntries, chunkEntries, ih, hsize, List.cons_append]

theorem sheetsFrom_bids (d : SheetData) (raws : List (List UInt8)) (pos : Nat) (es : List Entry) :
    sheetsFrom (some d) (chunkEntries pos (raws.map fun raw => { type := zjtJbigBid, raw := raw }) ++ es) =
      sheetsFrom (some { d with bie := d.bie ++ raws.flatten }) es := by
  have hbid : ¬zjtJbigBid = zjtStartPage := by decide
  induction raws generalizing d pos with
  | nil =>
    rw [List.flatten_nil, List.append_nil]
    rfl
  | cons raw raws ih =>
    rw [List.map_cons, chunkEntries, List.cons_append, Chunk.entry, sheetsFrom, if_neg hbid,
      if_pos (.inr rfl), Option.map_some, ih, List.flatten_cons, List.append_assoc]

theorem sheetsFrom_page (hdr : PageHeader) (lay : PageLayout) (bie : List UInt8) (pos : Nat)
    (es : List Entry) : sheetsFrom none (chunkEntries pos (pageChunks hdr lay opt bie) ++ es) =
      ⟨(pageItems hdr lay opt).map ZjItem.entry, bie⟩ :: sheetsFrom none es := by
  have hbie : bie.take jbigBihLen ++ (bidPieces bie.length (bie.drop jbigBihLen)).flatten = bie := by
    have hroom : (bie.drop jbigBihLen).length ≤ bie.length * zjBidMax := by
      simp only [List.length_drop, zjBidMax]
      omega
    rw [(bidPieces_pieces hroom).flatten, List.take_append_drop]
  have hbih : ¬zjtJbigBih = zjtStartPage := by decide
  unfold pageChunks pageChunksOf
  rw [List.cons_append, List.cons_append, chunkEntries, chunkEntries, chunkEntries_append,
    List.cons_append, List.cons_append, List.append_assoc, Chunk.entry, sheetsFrom, if_pos rfl,
    Chunk.entry, sheetsFrom, if_neg hbih, if_pos (.inl rfl), Option.map_some, sheetsFrom_bids]
  dsimp only
  rw [List.nil_append, hbie]
  rfl

def pageData (env : Env) (opt : JobOptions) (p : RasterPage) : SheetData where
  items := (pageItems p.hdr (pageLayout p.hdr opt) opt).map ZjItem.entry
  bie := (sheetImage env p.hdr (pageLayout p.hdr opt) opt p.lines).flatten

def blankData (env : Env) (opt : JobOptions) (hdr : PageHeader) : SheetData where
  items := (pageItems hdr (pageLayout hdr opt) opt).map ZjItem.entry
  bie := (blankImage env (pageLayout hdr opt)).flatten

theorem sheetsFrom_pages (ps : List RasterPage) (pos : Nat) (es : List Entry) :
    sheetsFrom none (chunkEntries pos (ps.flatMap (pageBlock env opt)) ++ es) =
      ps.map (pageData env opt) ++ sheetsFrom none es := by
  induction ps generalizing pos with
  | nil => rfl
  | cons p ps ih =>
    rw [List.flatMap_cons, chunkEntries_append, List.append_assoc, pageBlock, sheetsFrom_page, ih]
    rfl

def bodyData (env : Env) (opt : JobOptions) (pages : List RasterPage) : List SheetData :=
  if opt.manualDuplex then
    (odds pages).map (pageData env opt) ++
      (if pages.length % 2 = 0 then [] else [blankData env opt (progressAfter pages).lastHdr]) ++
      (evens pages).reverse.map (pageData env opt)
  else pages.map (pageData env opt)

theorem sheetsFrom_body (pages : List RasterPage) (pos : Nat) (es : List Entry) :
    sheetsFrom none (chunkEntries pos (bodyChunks env opt pages) ++ es) =
      bodyData env opt pages ++ sheetsFrom none es := by
  have hpause (at' : Nat) (es : List Entry) :
      sheetsFrom none (chunkEntries at' [pauseChunk] ++ es) = sheetsFrom none es := rfl
  have hblank (at' : Nat) (es : List Entry) : sheetsFrom none (chunkEntries at'
      (if pages.length % 2 = 0 then [] else blankBlock env opt (progressAfter pages).lastHdr) ++ es) =
      (if pages.length % 2 = 0 then [] else [blankData env opt (progressAfter pages).lastHdr]) ++
        sheetsFrom none es := by
    by_cases heven : pages.length % 2 = 0
    · rw [if_pos heven, if_pos heven]
      rfl
    · rw [if_neg heven, if_neg heven]
      exact sheetsFrom_page _ _ _ _ _
  unfold bodyChunks bodyData
  cases opt.manualDuplex with
  | false => exact sheetsFrom_pages pages pos es
  | true =>
    rw [if_pos rfl, if_pos rfl, duplexChunks, chunkEntries_append, chunkEntries_append,
      chunkEntries_append, List.append_assoc, List.append_assoc, List.append_assoc, sheetsFrom_pages,
      hpause, hblank, sheetsFrom_pages, List.append_assoc, List.append_assoc]

theorem parse_frame {cs : List Chunk} (h : ∀ c ∈ cs, c.Fits) :
    parse (frame (cs.flatMap Chunk.bytes)) =
      .ok ([.uel 0, .magic 9] ++ chunkEntries 13 ([paramChunk, startDocChunk] ++ cs ++ [endDocChunk]) ++
        [.uel (13 + chunksSize ([paramChunk, startDocChunk] ++ cs ++ [endDocChunk]))]) := by
  have hfits : ∀ c ∈ [paramChunk, startDocChunk] ++ cs ++ [endDocChunk], c.Fits := by
    intro c hc
    simp only [List.mem_append, List.mem_cons, List.not_mem_nil, or_false] at hc
    rcases hc with ((rfl | rfl) | hc) | rfl
    · exact ⟨by decide, by decide, by decide⟩
    · exact ⟨by decide, by decide, by decide⟩
    · exact h c hc
    · exact ⟨by decide, by decide, by decide⟩
  rw [← parse_stream hfits]
  simp only [frame, headBytes, tailBytes, List.flatMap_append, List.flatMap_singleton,
    List.append_assoc]

theorem sheets_frame (decode : List UInt8 → Option Image) (pages : List RasterPage) :
    sheets decode (frame ((bodyChunks env opt pages).flatMap Chunk.bytes)) =
      (bodyData env opt pages).map fun d => (d.items, decode d.bie) := by
  unfold sheets
  rw [parse_frame (bodyChunks_fits pages)]
  dsimp only
  congr 1
  rw [chunkEntries_append, chunkEntries_append, List.append_assoc, List.append_assoc, List.append_assoc]
  have hhead (es : List Entry) : sheetsFrom none ([.uel 0, .magic 9] ++
      (chunkEntries 13 [paramChunk, startDocChunk] ++ es)) = sheetsFrom none es := rfl
  rw [hhead, sheetsFrom_body]
  exact List.append_nil _

theorem printed_accepted {arrivals : List Bool} {i : Nat} {pages : List RasterPage}
    (h : printed env opt arrivals i pages = pages) : ∀ p ∈ pages, p.hdr.accepted = true := by
  induction pages generalizing arrivals i with
  | nil => exact fun _ hp => by cases hp
  | cons p pages ih =>
    rw [printed] at h
    split at h
    · next hp =>
      exact List.forall_mem_cons.mpr ⟨hp.2.renders.accepted, ih (List.cons.inj h).2⟩
    · cases h

/-- A bitmap of `h` lines of `w` dots, each of whole bytes. -/
def ImageFits (bitmap : List UInt8) (w h : UInt32) : Prop :=
  w.toNat % 8 = 0 ∧ bitmap.length = w.toNat / 8 * h.toNat

theorem pageBitmap_fits {hdr : PageHeader} (h : hdr.accepted = true) (opt : JobOptions)
    (lines : List (List UInt8)) :
    ImageFits (pageBitmap hdr (pageLayout hdr opt) opt lines)
      ((pageLayout hdr opt).videoX * (pageLayout hdr opt).depth) (pageLayout hdr opt).videoY := by
  have hfit := sizesFit h opt
  have hwide : ((pageLayout hdr opt).videoX * (pageLayout hdr opt).depth).toNat =
      (pageLayout hdr opt).bpl * 8 := by
    rw [UInt32.toNat_mul, Nat.mod_eq_of_lt hfit.line, (wholeBytes (pageLayout_regular h opt) opt).1]
  refine ⟨by rw [hwide, Nat.mul_mod_left], ?_⟩
  rw [hwide, Nat.mul_div_cancel _ (by decide), pageBitmap, packedPlane, List.length_map,
    List.length_range]

/-- A sheet without toner is whole bytes wide, turned or not. -/
theorem blankBitmap_fits {hdr : PageHeader} (h : hdr.accepted = true) (opt : JobOptions) {w n : UInt32}
    (hw : w.toNat = (pageLayout hdr opt).srcW) :
    ImageFits (List.replicate (w.toNat * (pageLayout hdr opt).depth.toNat / 8 * n.toNat) 0)
      (w * (pageLayout hdr opt).depth) n := by
  have hfit := sizesFit h opt
  have hline : (w * (pageLayout hdr opt).depth).toNat =
      (pageLayout hdr opt).srcW * (pageLayout hdr opt).depth.toNat := by
    rw [UInt32.toNat_mul, hw, Nat.mod_eq_of_lt hfit.blankLine]
  refine ⟨by rw [hline, ← hfit.blankWhole, Nat.mul_mod_left], ?_⟩
  rw [List.length_replicate, hline, hw]

/-- The printer puts on paper what the job asks for: of every job that ends well, the sheets in the
stream are its pages in the order of printing, each with its own bitmap and items. -/
theorem job_printed {decode : List UInt8 → Option Image}
    (hdecode : ∀ bitmap w h, ImageFits bitmap w h →
      decode (env.jbig bitmap w h).flatten = some (bitmap, w, h))
    {r : RasterStream} {arrivals : List Bool} (h : Completes env opt (.start r arrivals none)) :
    sheets decode (main env opt (.start r arrivals none)).2.stdout.bytes = jobSheets opt r.pages := by
  obtain ⟨-, s, hdone, -⟩ := h.completed
  have haccepted := printed_accepted (finishes_iff.mp hdone.finishes).1
  rw [h.stdout, sheets_frame]
  generalize r.pages = pages at haccepted
  have hpage (p : RasterPage) (hp : p ∈ pages) :
      ((pageData env opt p).items, decode (pageData env opt p).bie) = pageSheet opt p := by
    unfold pageData sheetImage pageSheet
    rw [hdecode _ _ _ (pageBitmap_fits (haccepted p hp) opt _)]
  have hpages {ps : List RasterPage} (hps : ∀ p ∈ ps, p ∈ pages) :
      (ps.map (pageData env opt)).map (fun d => (d.items, decode d.bie)) = ps.map (pageSheet opt) := by
    rw [List.map_map]
    exact List.map_congr_left fun p hp => hpage p (hps p hp)
  have hblank {p : RasterPage} (hp : p ∈ pages) :
      ((blankData env opt p.hdr).items, decode (blankData env opt p.hdr).bie) = blankSheet opt p.hdr := by
    unfold blankData blankImage blankSheet
    rw [hdecode _ _ _ (blankBitmap_fits (haccepted p hp) opt ?_)]
    unfold PageLayout.srcW
    split <;> rfl
  unfold bodyData jobSheets
  cases opt.manualDuplex with
  | false =>
    rw [if_neg (by decide), if_neg (by decide), hpages fun _ hp => hp]
  | true =>
    have hback : ((if pages.length % 2 = 0 then [] else [blankData env opt (progressAfter pages).lastHdr]).map
        fun d => (d.items, decode d.bie)) =
        if pages.length % 2 = 0 then [] else (pages.getLast?.map fun p => blankSheet opt p.hdr).toList := by
      by_cases heven : pages.length % 2 = 0
      · rw [if_pos heven, if_pos heven]
        rfl
      · rw [if_neg heven, if_neg heven]
        unfold progressAfter
        cases hlast : pages.getLast? with
        | none =>
          rw [List.getLast?_eq_none_iff] at hlast
          exact absurd (by rw [hlast]; rfl) heven
        | some p => exact congrArg (fun x => [x]) (hblank (List.mem_of_getLast? hlast))
    obtain ⟨hodds, hevens⟩ := odds_evens_subset pages
    rw [if_pos rfl, if_pos rfl, List.map_append, List.map_append, hback, hpages fun _ hp => hodds hp,
      hpages fun _ hp => hevens (List.mem_reverse.mp hp)]

def plainEncoder (bitmap : List UInt8) (w h : UInt32) : List (List UInt8) :=
  [putBe32 w.toNat ++ putBe32 h.toNat ++ List.replicate 12 0, bitmap]

def plainDecoder (bie : List UInt8) : Option Image :=
  some (bie.drop 20, UInt32.ofNat (getBe32 bie 0), UInt32.ofNat (getBe32 bie 4))

theorem plainDecoder_decodes (bitmap : List UInt8) (w h : UInt32) :
    plainDecoder (plainEncoder bitmap w h).flatten = some (bitmap, w, h) := by
  unfold plainDecoder plainEncoder
  rw [List.flatten_cons, List.flatten_singleton, List.append_assoc, List.append_assoc]
  have hheight (rest : List UInt8) : getBe32 (putBe32 w.toNat ++ (putBe32 h.toNat ++ rest)) 4 = h.toNat :=
    getBe32_at h.toNat_lt _ _ rfl
  rw [getBe32_putBe32 w.toNat_lt, hheight, UInt32.ofNat_toNat, UInt32.ofNat_toNat]
  rfl

theorem job_printed_dotPages :
    sheets plainDecoder
        (main { jbig := plainEncoder } dotOptions (.start dotPages [] none)).2.stdout.bytes =
      [pageSheet dotOptions (dotCopies 1), pageSheet dotOptions (dotCopies 4), pageSheet dotOptions dotPage,
        blankSheet dotOptions dotPage.hdr, pageSheet dotOptions (dotCopies 5),
        pageSheet dotOptions (dotCopies 2)] := by
  have hdecode : ∀ bitmap w h, ImageFits bitmap w h →
      plainDecoder (plainEncoder bitmap w h).flatten = some (bitmap, w, h) :=
    fun bitmap w h _ => plainDecoder_decodes bitmap w h
  have hcompletes : Completes { jbig := plainEncoder } dotOptions (.start dotPages [] none) := by
    unfold Completes
    decide +kernel
  exact job_printed hdecode hcompletes

end PantumOpen.Print
