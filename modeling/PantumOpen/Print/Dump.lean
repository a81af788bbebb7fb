import PantumOpen.Print.Chunk

/-! The stream dumper: `parse` of proto/zjs_dump.py, and that it undoes `write_chunk`. -/

namespace PantumOpen.Print
open Bytes

/-- The error of `struct.unpack` on too few bytes. -/
inductive StructError where
  | short
deriving DecidableEq, Repr

structure ItemRecord where
  size : Nat
  type : Nat
  param : Nat
  reserved : Nat
  value : Nat
deriving DecidableEq, Repr

/-- What the dumper lists, each with its offset. -/
inductive Entry where
  | uel (pos : Nat)
  | magic (pos : Nat)
  | trailing (pos : Nat) (rest : List UInt8)
  | unparsed (pos : Nat) (rest : List UInt8)
  | chunk (pos size type nitems ibytes : Nat) (items : List ItemRecord) (raw : List UInt8)
deriving DecidableEq, Repr

def unpackItems : Nat → List UInt8 → Except StructError (List ItemRecord)
  | 0, _ => .ok []
  | n + 1, body =>
    if (body.take 12).length < 12 then .error .short
    else do
      let items ← unpackItems n (body.drop 12)
      pure (⟨getBe32 body 0, getBe16 body 4, (body.getD 6 0).toNat, (body.getD 7 0).toNat,
        getBe32 body 8⟩ :: items)

/-- The loop of `parse` from offset `pos` on, where `rest` is what stands there. -/
def parseFrom : Nat → Nat → List UInt8 → Except StructError (List Entry)
  | 0, _, _ => .ok []
  | n + 1, pos, rest =>
    if rest = [] then .ok []
    else if rest.take uel.length = uel then do
      let entries ← parseFrom n (pos + uel.length) (rest.drop uel.length)
      pure (.uel pos :: entries)
    else if rest.length < 16 then .ok [.trailing pos rest]
    else
      let size := getBe32 rest 0
      let nitems := getBe32 rest 8
      if getBe16 rest 14 ≠ zjSignature ∨ size < 16 then .ok [.unparsed pos rest]
      else do
        let body := (rest.take size).drop 16
        let items ← unpackItems nitems body
        let entries ← parseFrom n (pos + size) (rest.drop size)
        pure (.chunk pos size (getBe32 rest 4) nitems (getBe16 rest 12) items
          (body.drop (nitems * 12)) :: entries)

/-- `parse`. Every round takes at least one byte, so the length bounds the rounds. -/
def parse (buf : List UInt8) : Except StructError (List Entry) := do
  let start := if buf.take uel.length = uel then uel.length else 0
  let magic := if (buf.drop start).take 4 = zjMagic then 4 else 0
  let entries ← parseFrom (buf.length + 1) (start + magic) (buf.drop (start + magic))
  pure ((if start = 0 then [] else [.uel 0]) ++ (if magic = 0 then [] else [.magic start]) ++ entries)

structure Chunk.Fits (c : Chunk) : Prop where
  type : c.type < 0x12
  items : c.items.length ≤ 5461
  size : c.size < 2 ^ 32

def ZjItem.entry (item : ZjItem) : ItemRecord := ⟨12, item.type.toNat, 1, 0, item.value.toNat⟩

def Chunk.entry (pos : Nat) (c : Chunk) : Entry :=
  .chunk pos c.size c.type c.items.length (c.items.length * 12) (c.items.map ZjItem.entry) c.raw

def chunkEntries (pos : Nat) : List Chunk → List Entry
  | [] => []
  | c :: cs => c.entry pos :: chunkEntries (pos + c.size) cs

def chunksSize (cs : List Chunk) : Nat := (cs.map Chunk.size).sum

theorem chunks_length (cs : List Chunk) : (cs.flatMap Chunk.bytes).length = chunksSize cs := by
  simp [chunksSize, List.length_flatMap]

theorem ZjItem.record_words (item : ZjItem) (rest : List UInt8) :
    getBe32 (item.record ++ rest) 0 = 12 ∧ getBe16 (item.record ++ rest) 4 = item.type.toNat ∧
      getBe32 (item.record ++ rest) 8 = item.value.toNat := by
  simp only [record, List.append_assoc]
  refine ⟨getBe32_putBe32 (by decide) _, getBe16_at item.type.toNat_lt (putBe32 12) _ rfl, ?_⟩
  rw [← List.append_assoc (putBe16 _), ← List.append_assoc (putBe32 12)]
  exact getBe32_at item.value.toNat_lt _ _ rfl

theorem unpackItems_records (items : List ZjItem) (raw : List UInt8) :
    unpackItems items.length (items.flatMap ZjItem.record ++ raw) =
      .ok (items.map ZjItem.entry) := by
  induction items with
  | nil => rfl
  | cons item items ih =>
    have hbody : (item :: items).flatMap ZjItem.record ++ raw =
        item.record ++ (items.flatMap ZjItem.record ++ raw) := by simp
    obtain ⟨hsize, htype, hvalue⟩ := item.record_words (items.flatMap ZjItem.record ++ raw)
    rw [hbody, List.length_cons, unpackItems, if_neg (by simp), List.drop_left' item.record_length, ih,
      hsize, htype, hvalue]
    rfl

theorem Chunk.Fits.words {c : Chunk} (h : c.Fits) (rest : List UInt8) :
    getBe32 (c.bytes ++ rest) 0 = c.size ∧ getBe32 (c.bytes ++ rest) 4 = c.type ∧
      getBe32 (c.bytes ++ rest) 8 = c.items.length ∧
      getBe16 (c.bytes ++ rest) 12 = c.items.length * 12 ∧
      getBe16 (c.bytes ++ rest) 14 = zjSignature := by
  have hitems := h.items
  have hcount : c.items.length < 2 ^ 32 := by omega
  have hbytes : c.items.length * 12 < 2 ^ 16 := by omega
  simp only [Chunk.bytes, Chunk.header, List.append_assoc]
  generalize c.items.flatMap ZjItem.record ++ (c.raw ++ rest) = tail
  refine ⟨getBe32_putBe32 h.size _, getBe32_at (h.type.trans (by decide)) (putBe32 c.size) _ rfl, ?_, ?_, ?_⟩
  · rw [← List.append_assoc (putBe32 c.size)]
    exact getBe32_at hcount _ _ rfl
  · rw [← List.append_assoc (putBe32 c.size), ← List.append_assoc (putBe32 c.size ++ _)]
    exact getBe16_at hbytes _ _ rfl
  · rw [← List.append_assoc (putBe32 c.size), ← List.append_assoc (putBe32 c.size ++ _),
      ← List.append_assoc (putBe32 c.size ++ _ ++ _)]
    exact getBe16_at (by decide) _ _ rfl

/-- No chunk begins with the escape: its fifth byte is the top of the type. -/
theorem Chunk.Fits.not_uel {c : Chunk} (h : c.Fits) (rest : List UInt8) :
    (c.bytes ++ rest).take uel.length ≠ uel := by
  intro huel
  have htop : (c.bytes ++ rest).getD 4 0 = 0 := by
    change UInt8.ofNat (c.type / 2 ^ 24) = 0
    rw [Nat.div_eq_of_lt (h.type.trans (by decide))]
    rfl
  have hbyte : ((c.bytes ++ rest).take uel.length).getD 4 0 = (c.bytes ++ rest).getD 4 0 := by
    simp [List.getD_eq_getElem?_getD, uel]
  rw [huel, htop] at hbyte
  exact absurd hbyte (by decide)

theorem parseFrom_chunk {c : Chunk} (h : c.Fits) (n pos : Nat) (rest : List UInt8) :
    parseFrom (n + 1) pos (c.bytes ++ rest) =
      (c.entry pos :: ·) <$> parseFrom n (pos + c.size) rest := by
  obtain ⟨hsize, htype, hnitems, hibytes, hsig⟩ := h.words rest
  have hlen : 16 ≤ c.size := by simp only [Chunk.size]; omega
  have hne : c.bytes ++ rest ≠ [] := by
    intro hnil
    have := congrArg List.length hnil
    simp at this
    omega
  have hbody : ((c.bytes ++ rest).take c.size).drop 16 = c.items.flatMap ZjItem.record ++ c.raw := by
    rw [List.take_left' c.bytes_length, Chunk.bytes, List.append_assoc,
      List.drop_left' c.header_length]
  rw [parseFrom, if_neg hne, if_neg (h.not_uel rest), if_neg (by simp; omega)]
  simp only [hsize, htype, hnitems, hibytes, hsig, hbody]
  rw [if_neg (by simp; omega), unpackItems_records, List.drop_left' c.bytes_length,
    List.drop_left' (records_length c.items)]
  rfl

theorem parseFrom_chunks {cs : List Chunk} (h : ∀ c ∈ cs, c.Fits) (n pos : Nat) (rest : List UInt8) :
    parseFrom (cs.length + n) pos (cs.flatMap Chunk.bytes ++ rest) =
      (chunkEntries pos cs ++ ·) <$> parseFrom n (pos + chunksSize cs) rest := by
  induction cs generalizing pos with
  | nil => simp [chunkEntries, chunksSize]
  | cons c cs ih =>
    have hbytes : (c :: cs).flatMap Chunk.bytes ++ rest =
        c.bytes ++ (cs.flatMap Chunk.bytes ++ rest) := by simp
    have hsize : pos + c.size + chunksSize cs = pos + chunksSize (c :: cs) := by
      simp [chunksSize, Nat.add_assoc]
    rw [hbytes, List.length_cons, Nat.add_right_comm, parseFrom_chunk (h c List.mem_cons_self),
      ih fun c' hc => h c' (List.mem_cons_of_mem c hc), hsize]
    cases parseFrom n (pos + chunksSize (c :: cs)) rest <;> rfl

theorem parseFrom_uel (n pos : Nat) : parseFrom (n + 2) pos uel = .ok [.uel pos] := rfl

theorem le_chunksSize (cs : List Chunk) : cs.length ≤ chunksSize cs := by
  induction cs with
  | nil => exact le_rfl
  | cons c cs ih =>
    have hc : 1 ≤ c.size := by simp only [Chunk.size]; omega
    simp only [chunksSize, List.map_cons, List.sum_cons, List.length_cons] at ih ⊢
    omega

theorem parse_stream {cs : List Chunk} (h : ∀ c ∈ cs, c.Fits) :
    parse (uel ++ zjMagic ++ cs.flatMap Chunk.bytes ++ uel) =
      .ok ([.uel 0, .magic 9] ++ chunkEntries 13 cs ++ [.uel (13 + chunksSize cs)]) := by
  obtain ⟨n, hn⟩ : ∃ n, (uel ++ zjMagic ++ cs.flatMap Chunk.bytes ++ uel).length + 1 =
      cs.length + (n + 2) := by
    have := le_chunksSize cs
    refine ⟨chunksSize cs - cs.length + 21, ?_⟩
    simp only [List.length_append, chunks_length, uel, zjMagic, List.length_cons, List.length_nil]
    omega
  have hstart : (uel ++ zjMagic ++ cs.flatMap Chunk.bytes ++ uel).take uel.length = uel := by
    rw [List.append_assoc, List.append_assoc]
    exact List.take_left' rfl
  have hmagic : (uel ++ zjMagic ++ cs.flatMap Chunk.bytes ++ uel).drop uel.length =
      zjMagic ++ (cs.flatMap Chunk.bytes ++ uel) := by
    rw [List.append_assoc, List.append_assoc]
    exact List.drop_left' rfl
  have hrest : (uel ++ zjMagic ++ cs.flatMap Chunk.bytes ++ uel).drop (uel.length + 4) =
      cs.flatMap Chunk.bytes ++ uel := by
    rw [← List.drop_drop, hmagic]
    exact List.drop_left' rfl
  have htake : (zjMagic ++ (cs.flatMap Chunk.bytes ++ uel)).take 4 = zjMagic := List.take_left' rfl
  unfold parse
  simp only [if_pos hstart, hmagic, if_pos htake]
  rw [hrest, hn, parseFrom_chunks h, parseFrom_uel]
  rfl

end PantumOpen.Print
