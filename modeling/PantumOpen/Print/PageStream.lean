import PantumOpen.Print.Page
import PantumOpen.Print.Dump

/-! The chunks of one page, and that the dumper reads them back. -/

namespace PantumOpen.Print
open Prog Stdio

def bidPieces : Nat → List UInt8 → List (List UInt8)
  | 0, _ => []
  | n + 1, bs => if bs = [] then [] else bs.take zjBidMax :: bidPieces n (bs.drop zjBidMax)

/-- The chunks of a page: its items, the first twenty bytes of the BIE and the rest of it in pieces. -/
def pageChunksOf (hdr : PageHeader) (lay : PageLayout) (opt : JobOptions) (bih : List UInt8)
    (bids : List (List UInt8)) : List Chunk :=
  { type := zjtStartPage, items := pageItems hdr lay opt } :: { type := zjtJbigBih, raw := bih } ::
    (bids.map fun raw => { type := zjtJbigBid, raw := raw }) ++
    [{ type := zjtEndJbig }, { type := zjtEndPage }]

def pageChunks (hdr : PageHeader) (lay : PageLayout) (opt : JobOptions) (bie : List UInt8) :
    List Chunk :=
  pageChunksOf hdr lay opt (bie.take jbigBihLen) (bidPieces bie.length (bie.drop jbigBihLen))

theorem writeBids_eq (bie : List UInt8) (n off : Nat) :
    writeBids bie n off = writeAll ((bidPieces n (bie.drop off)).flatMap fun raw =>
      Chunk.bytes { type := zjtJbigBid, raw := raw }) := by
  induction n generalizing off with
  | zero => exact writeAll_nil.symm
  | succ n ih =>
    have hnil : bie.drop off = [] ↔ ¬ off < bie.length := by
      rw [List.drop_eq_nil_iff, Nat.not_lt]
    rw [writeBids, bidPieces]
    by_cases h : off < bie.length
    · have htake : (bie.drop off).take (min (bie.length - off) zjBidMax) =
          (bie.drop off).take zjBidMax := by
        rw [← List.length_drop, Nat.min_comm, ← List.take_eq_take_min]
      rw [if_pos h, if_neg fun hn => hnil.mp hn h, List.flatMap_cons, ← writeAll_append,
        ← writeChunk_eq, List.drop_drop, ← ih, ← htake]
    · rw [if_neg h, if_pos (hnil.mpr h)]
      exact writeAll_nil.symm

theorem emitPage_eq (hdr : PageHeader) (lay : PageLayout) (opt : JobOptions) (bie : List UInt8) :
    emitPage hdr lay opt bie = writeAll ((pageChunks hdr lay opt bie).flatMap Chunk.bytes) := by
  unfold emitPage pageChunks pageChunksOf
  simp only [writeChunk_eq, writeBids_eq, writeAll_append, List.flatMap_cons, List.flatMap_append,
    List.flatMap_map, List.flatMap_nil, List.append_nil, List.cons_append]

/-- A byte string in pieces of at most `zjBidMax` bytes, of which only the last can be shorter. -/
structure Pieces (bs : List UInt8) (bids : List (List UInt8)) : Prop where
  flatten : bids.flatten = bs
  nonempty : ∀ raw ∈ bids, 1 ≤ raw.length
  le : ∀ raw ∈ bids, raw.length ≤ zjBidMax
  full : ∀ raw ∈ bids.dropLast, raw.length = zjBidMax

theorem bidPieces_nil (n : Nat) : bidPieces n [] = [] := by
  cases n <;> rfl

theorem bidPieces_pieces {n : Nat} {bs : List UInt8} (h : bs.length ≤ n * zjBidMax) :
    Pieces bs (bidPieces n bs) := by
  induction n generalizing bs with
  | zero =>
    obtain rfl := List.length_eq_zero_iff.mp (Nat.le_zero.mp (by simpa using h))
    constructor <;> simp [bidPieces]
  | succ n ih =>
    rw [bidPieces]
    by_cases hnil : bs = []
    · subst hnil
      constructor <;> simp
    have hpos := List.length_pos_of_ne_nil hnil
    have hmax : 1 ≤ zjBidMax := by decide
    have hrest := @ih (bs.drop zjBidMax) (by rw [List.length_drop]; rw [Nat.succ_mul] at h; omega)
    rw [if_neg hnil]
    refine ⟨?_, ?_, ?_, ?_⟩
    · rw [List.flatten_cons, hrest.flatten, List.take_append_drop]
    · intro raw hraw
      rcases List.mem_cons.mp hraw with rfl | hraw
      · simp only [List.length_take]; omega
      · exact hrest.nonempty raw hraw
    · intro raw hraw
      rcases List.mem_cons.mp hraw with rfl | hraw
      · exact List.length_take_le _ _
      · exact hrest.le raw hraw
    · intro raw hraw
      -- a piece that is not the last leaves something for the next one
      by_cases hlast : bs.drop zjBidMax = []
      · rw [hlast, bidPieces_nil] at hraw
        exact absurd hraw (by simp)
      have hne : bidPieces n (bs.drop zjBidMax) ≠ [] := by
        intro hnone
        have := hrest.flatten
        rw [hnone] at this
        exact hlast this.symm
      rw [List.dropLast_cons_of_ne_nil hne] at hraw
      rcases List.mem_cons.mp hraw with rfl | hraw
      · have := List.drop_eq_nil_iff.not.mp hlast
        simp only [List.length_take]; omega
      · exact hrest.full raw hraw

theorem pageItems_length (hdr : PageHeader) (lay : PageLayout) (opt : JobOptions) :
    (pageItems hdr lay opt).length ≤ 17 := by
  by_cases h : lay.dmpaper = 0 <;> simp [pageItems, h]

theorem pageChunks_fits (hdr : PageHeader) (lay : PageLayout) (opt : JobOptions) (bie : List UInt8) :
    ∀ c ∈ pageChunks hdr lay opt bie, c.Fits := by
  have hpieces : Pieces (bie.drop jbigBihLen) (bidPieces bie.length (bie.drop jbigBihLen)) := by
    apply bidPieces_pieces
    simp only [List.length_drop, zjBidMax]
    omega
  have hitems := pageItems_length hdr lay opt
  intro c hc
  simp only [pageChunks, pageChunksOf, List.cons_append, List.mem_cons, List.mem_append, List.mem_map,
    List.not_mem_nil, or_false] at hc
  rcases hc with rfl | rfl | ⟨raw, hraw, rfl⟩ | rfl | rfl
  · refine ⟨show zjtStartPage < 0x12 by decide, by simp only; omega, ?_⟩
    simp only [Chunk.size, List.length_nil]
    omega
  · refine ⟨show zjtJbigBih < 0x12 by decide, by simp, ?_⟩
    have := List.length_take_le jbigBihLen bie
    simp only [Chunk.size, List.length_nil, jbigBihLen] at this ⊢
    omega
  · refine ⟨show zjtJbigBid < 0x12 by decide, by simp, ?_⟩
    have := hpieces.le raw hraw
    simp only [Chunk.size, List.length_nil, zjBidMax] at this ⊢
    omega
  · exact ⟨by decide, by decide, by decide⟩
  · exact ⟨by decide, by decide, by decide⟩

def written (m : Prog Unit File Unit) : List UInt8 := (m {}).2.bytes

def writeChunks : List Chunk → Prog Unit File Unit
  | [] => pure ()
  | c :: cs => do
    writeChunk c
    writeChunks cs

theorem writeChunks_eq (cs : List Chunk) : writeChunks cs = writeAll (cs.flatMap Chunk.bytes) := by
  induction cs with
  | nil => exact writeAll_nil.symm
  | cons c cs ih => rw [writeChunks, ih, writeChunk_eq, writeAll_append, List.flatMap_cons]

theorem written_writeAll (bs : List UInt8) : written (writeAll bs) = bs := by
  unfold written
  rw [writeAll_none rfl]
  simp [File.put]

/-- The dumper reads chunks without the frame of a stream, too, as long as the first is not taken for
the magic. -/
theorem parse_chunks {c : Chunk} {cs : List Chunk} (h : ∀ c' ∈ c :: cs, c'.Fits)
    (hc : c.size < 2 ^ 24) :
    parse ((c :: cs).flatMap Chunk.bytes) = .ok (chunkEntries 0 (c :: cs)) := by
  obtain ⟨n, hn⟩ : ∃ n, ((c :: cs).flatMap Chunk.bytes).length + 1 = (c :: cs).length + (n + 1) := by
    have := le_chunksSize (c :: cs)
    exact ⟨chunksSize (c :: cs) - (c :: cs).length, by rw [chunks_length]; omega⟩
  have hfits : c.Fits := h c List.mem_cons_self
  have hstart : ((c :: cs).flatMap Chunk.bytes).take uel.length ≠ uel := by
    rw [List.flatMap_cons]
    exact hfits.not_uel _
  have htop : ((c :: cs).flatMap Chunk.bytes).getD 0 0 = 0 := by
    rw [List.flatMap_cons]
    change UInt8.ofNat (c.size / 2 ^ 24) = 0
    rw [Nat.div_eq_of_lt hc]
    rfl
  have hmagic : ((c :: cs).flatMap Chunk.bytes).take 4 ≠ zjMagic := by
    intro hm
    have hbyte : (((c :: cs).flatMap Chunk.bytes).take 4).getD 0 0 =
        ((c :: cs).flatMap Chunk.bytes).getD 0 0 := by
      simp [List.getD_eq_getElem?_getD]
    rw [hm, htop] at hbyte
    exact absurd hbyte (by decide)
  have hparse := parseFrom_chunks h (n + 1) 0 []
  rw [List.append_nil, ← hn] at hparse
  unfold parse
  simp only [if_neg hstart, List.drop_zero, if_neg hmagic, Nat.add_zero]
  rw [hparse]
  simp [parseFrom]

/-- The dumper undoes the encoder. From a framed stream it returns the chunks that were written, and
from the output of `emit_page` the chunks of the page: the items announced, the head of the BIE and
the rest of it in full pieces but for the last. -/
theorem dump_undoes_encoder {cs : List Chunk} (hcs : ∀ c ∈ cs, c.Fits) (hdr : PageHeader)
    (lay : PageLayout) (opt : JobOptions) {bie : List UInt8} (hbie : jbigBihLen ≤ bie.length) :
    parse (uel ++ zjMagic ++ written (writeChunks cs) ++ uel) =
        .ok ([.uel 0, .magic 9] ++ chunkEntries 13 cs ++ [.uel (13 + chunksSize cs)]) ∧
      (bie.take jbigBihLen).length = 20 ∧ ∃ bids, Pieces (bie.drop jbigBihLen) bids ∧
        parse (written (emitPage hdr lay opt bie)) =
          .ok (chunkEntries 0 (pageChunksOf hdr lay opt (bie.take jbigBihLen) bids)) := by
  refine ⟨by rw [writeChunks_eq, written_writeAll, parse_stream hcs], ?_, _,
    bidPieces_pieces (n := bie.length) ?_, ?_⟩
  · simpa [jbigBihLen] using hbie
  · simp only [List.length_drop, zjBidMax]
    omega
  · have hitems := pageItems_length hdr lay opt
    rw [emitPage_eq, written_writeAll]
    apply parse_chunks (pageChunks_fits hdr lay opt bie)
    simp only [Chunk.size, List.length_nil]
    omega

/-- A sheet of a custom size and a BIE of 23 bytes, next to the frame of a document. -/
theorem dump_undoes_encoder_customPage :
    let cs : List Chunk := [{ type := zjtStartDoc, items := [⟨zjiPagecount, 0⟩] }, { type := zjtEndDoc }]
    let hdr : PageHeader := ⟨(600, 600), 1, (100, 100), 40, 9, 0, 8, 40, 0⟩
    let opt : JobOptions := ⟨2, false, false, false, false, 0⟩
    let bie : List UInt8 := List.replicate 23 7
    parse (uel ++ zjMagic ++ written (writeChunks cs) ++ uel) =
        .ok ([.uel 0, .magic 9] ++ chunkEntries 13 cs ++ [.uel (13 + chunksSize cs)]) ∧
      (bie.take jbigBihLen).length = 20 ∧ ∃ bids, Pieces (bie.drop jbigBihLen) bids ∧
        parse (written (emitPage hdr (pageLayout hdr opt) opt bie)) =
          .ok (chunkEntries 0 (pageChunksOf hdr (pageLayout hdr opt) opt (bie.take jbigBihLen) bids)) := by
  intro cs hdr opt bie
  have hcs : ∀ c ∈ cs, c.Fits := by
    intro c hc
    simp only [cs, List.mem_cons, List.not_mem_nil, or_false] at hc
    rcases hc with rfl | rfl <;> exact ⟨by decide, by decide, by decide⟩
  exact dump_undoes_encoder hcs hdr (pageLayout hdr opt) opt (by decide)

end PantumOpen.Print
