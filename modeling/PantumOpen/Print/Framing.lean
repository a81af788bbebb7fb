import PantumOpen.Print.Dump
import PantumOpen.Print.Job

/-! Streams whose chunks are all there: each has the bytes that its size field announces, and END_DOC
and the escape close the last one. -/

namespace PantumOpen.Print
open Bytes

def paramChunk : Chunk := { type := zjtPantumParam, raw := pantumParamBlob }

def startDocChunk : Chunk := { type := zjtStartDoc, items := docItems }

def endDocChunk : Chunk := { type := zjtEndDoc }

def pauseChunk : Chunk := { type := zjt2600nPause }

def headBytes : List UInt8 := uel ++ zjMagic ++ [paramChunk, startDocChunk].flatMap Chunk.bytes

def tailBytes : List UInt8 := endDocChunk.bytes ++ uel

inductive Framed : List UInt8 → Prop where
  | close : Framed tailBytes
  | chunk {c rest : List UInt8} (header : 16 ≤ c.length) (announced : getBe32 c 0 = c.length)
      (signed : getBe16 c 14 = zjSignature) (h : Framed rest) : Framed (c ++ rest)

def WellFormed (stream : List UInt8) : Prop := ∃ rest, stream = uel ++ zjMagic ++ rest ∧ Framed rest

structure Chunk.Inner (c : Chunk) : Prop extends c.Fits where
  open_ : c.type ≠ zjtEndDoc

theorem Framed.length_le {bs : List UInt8} (h : Framed bs) : 25 ≤ bs.length := by
  induction h with
  | close => exact Nat.le_of_eq rfl
  | chunk _ _ _ _ ih => rw [List.length_append]; omega

section
variable {c : Chunk} {rest : List UInt8}

theorem Chunk.bytes_pos (c : Chunk) : 16 ≤ c.bytes.length := by
  rw [c.bytes_length]
  simp only [Chunk.size]
  omega

theorem Chunk.Fits.bytes_words (h : c.Fits) : getBe32 c.bytes 0 = c.size ∧
    getBe32 c.bytes 4 = c.type ∧ getBe16 c.bytes 14 = zjSignature := by
  have hwords := h.words []
  rw [List.append_nil] at hwords
  exact ⟨hwords.1, hwords.2.1, hwords.2.2.2.2⟩

theorem tail_type (more : List UInt8) : getBe32 (tailBytes ++ more) 4 = zjtEndDoc := by
  rw [getBe32_append_left _ _ (by decide)]
  rfl

theorem framed_chunk (h : c.Inner) : Framed (c.bytes ++ rest) ↔ Framed rest := by
  obtain ⟨hsize, htype, hsig⟩ := h.bytes_words
  have hlen := c.bytes_pos
  constructor
  · intro hf
    generalize hbs : c.bytes ++ rest = bs at hf
    cases hf with
    | close =>
      have hword := congrArg (getBe32 · 4) hbs
      rw [getBe32_append_left _ _ (by omega), htype, ← List.append_nil tailBytes, tail_type] at hword
      exact absurd hword h.open_
    | @chunk d rest' header announced _ hrest =>
      have hword := congrArg (getBe32 · 0) hbs
      rw [getBe32_append_left _ _ (by omega), getBe32_append_left _ _ (by omega), hsize,
        announced] at hword
      have hsame := List.append_inj hbs (by rw [c.bytes_length, hword])
      rw [hsame.2]
      exact hrest
  · exact fun hf => .chunk hlen (hsize.trans c.bytes_length.symm) hsig hf

theorem framed_chunks {cs : List Chunk} (h : ∀ c ∈ cs, c.Inner) :
    Framed (cs.flatMap Chunk.bytes ++ rest) ↔ Framed rest := by
  induction cs with
  | nil => rfl
  | cons c cs ih =>
    rw [List.flatMap_cons, List.append_assoc, framed_chunk (h c List.mem_cons_self),
      ih fun c' hc => h c' (List.mem_cons_of_mem c hc)]

/-- A chunk that is cut short announces more than there is, whatever closes the stream. -/
theorem not_framed_torn (h : c.Inner) {q : Nat} (hq : q < c.size) {tail : List UInt8}
    (htail : tail = [] ∨ tail.length = 25 ∧ 0 < q) : ¬ Framed (c.bytes.take q ++ tail) := by
  obtain ⟨hsize, htype, -⟩ := h.bytes_words
  have hlen : (c.bytes.take q).length = q := by
    rw [List.length_take, c.bytes_length, Nat.min_eq_left hq.le]
  have hpos := c.bytes_pos
  intro hf
  generalize hbs : c.bytes.take q ++ tail = bs at hf
  have htotal := congrArg List.length hbs
  rw [List.length_append, hlen] at htotal
  cases hf with
  | close =>
    have h25 : tailBytes.length = 25 := rfl
    rcases htail with rfl | ⟨h25', hq0⟩
    · rw [List.length_nil, h25] at htotal
      have hword := congrArg (getBe32 · 4) hbs
      rw [List.append_nil, getBe32_take (by omega) (by omega), htype, ← List.append_nil tailBytes,
        tail_type] at hword
      exact h.open_ hword
    · omega
  | @chunk d rest' header announced _ hrest =>
    have hrest := hrest.length_le
    rw [List.length_append] at htotal
    have hfit : d.length ≤ q := by
      rcases htail with rfl | ⟨h25, -⟩
      · rw [List.length_nil] at htotal
        omega
      · omega
    have hword := congrArg (getBe32 · 0) hbs
    rw [getBe32_append_left _ _ (by omega), getBe32_append_left _ _ (by omega),
      getBe32_take (by omega) (by omega), hsize, announced] at hword
    omega

end

end PantumOpen.Print
