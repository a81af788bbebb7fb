import PantumOpen.Scan.Handle

/-! The output queue and the conversion of scanner rows into the frame the frontend expects. -/

namespace PantumOpen.Scan
open Prog Buffer

def ditherSize : Nat := 128

/-- `n` rounds of `while (out_cap < need) out_cap = out_cap ? out_cap * 2 : 65536`, in `size_t`. -/
def growCap (need : Nat) : Nat → Nat → Nat
  | 0, cap => cap
  | n + 1, cap =>
    if cap < need then growCap need n (if cap = 0 then 65536 else cap * 2 % 2 ^ 64) else cap

/-- `out_reserve`, whose sums are of `size_t` too. A doubling loop that is not done after 65 rounds
never is. -/
def outReserve (extra : Nat) : Prog Status Host Unit := do
  modify <| Host.onHandle fun h =>
    if h.outPos ≠ 0 ∧ h.outPos = h.out.length then { h with out := [], outPos := 0 } else h
  let h ← gets Host.h
  if (h.out.length + extra) % 2 ^ 64 ≤ h.outCap then pure ()
  else do
    -- With nothing drained the compaction moves nothing and the test below fails again.
    modify <| Host.onHandle fun h => { h with out := h.out.drop h.outPos, outPos := 0 }
    let h ← gets Host.h
    let need := (h.out.length + extra) % 2 ^ 64
    if need ≤ h.outCap then pure ()
    else do
      modify <| Host.onHandle fun h => { h with outCap := growCap need 65 h.outCap }
      if ← alloc then modify <| Host.onHandle fun h => { h with outAlloc := h.outCap }
      else fail .noMem

/-- White is `0xff` in gray and RGB and a clear bit in the bilevel modes. -/
def Parameters.white (p : Parameters) : UInt8 := if p.depth = 1 then 0x00 else 0xff

def Handle.whiteRow (h : Handle) (row : Nat) : Bool :=
  row < h.whiteTop || (h.whiteBottom != 0 && h.params.lines ≤ row + h.whiteBottom)

def convertRow (env : Env) (h : Handle) (src : Buffer) (avail row : Nat) (dst : Buffer) : Buffer :=
  let lut := h.gamma
  let pixels := h.params.pixelsPerLine
  let lead := min h.whiteLeft pixels
  let tail := pixels - min h.whiteRight pixels
  let n := min avail pixels
  if h.whiteRow row then dst.memset 0 h.params.white h.params.bytesPerLine
  else if h.params.format = .rgb then
    -- blue comes first on the wire, so each triplet is reversed
    let dst := forRange 0 (fun i d =>
      ((d.store (3 * i) (lut (src (3 * i + 2)))).store (3 * i + 1) (lut (src (3 * i + 1)))).store
        (3 * i + 2) (lut (src (3 * i)))) n dst
    let dst := dst.memset (3 * n) 0xff ((pixels - n) * 3)
    let dst := dst.memset 0 0xff (lead * 3)
    dst.memset (3 * tail) 0xff ((pixels - tail) * 3)
  else if h.params.depth = 1 then
    let dst := dst.memset 0 0 h.params.bytesPerLine
    let n := min n tail
    let black (i : Nat) : Bool :=
      if h.halftone then
        lut (src i) < env.ditherMask ((row % ditherSize) * ditherSize + i % ditherSize)
      else (lut (src i)).toNat < h.threshold
    forRange lead (fun i d =>
      if black i then d.store (i / 8) (d (i / 8) ||| 0x80 >>> UInt8.ofNat (i % 8)) else d)
      (n - lead) dst
  else
    let dst := forRange 0 (fun i d => d.store i (lut (src i))) n dst
    let dst := dst.memset n 0xff (pixels - n)
    let dst := dst.memset 0 0xff lead
    dst.memset tail 0xff (pixels - tail)

def appendRow (env : Env) (row : Handle → Buffer → Buffer) (next : Nat) : Prog Status Host Unit := do
  let h ← gets Host.h
  outReserve h.params.bytesPerLine
  modify <| Host.onHandle fun h =>
    { h with out := h.out ++ (row h env.uninit).bytes h.params.bytesPerLine, nextRow := next }

def emitWhiteRowsN (env : Env) : Nat → Prog Status Host Unit
  | 0 => pure ()
  | n + 1 => do
    let h ← gets Host.h
    appendRow env (fun h dst => dst.memset 0 h.params.white h.params.bytesPerLine) (h.nextRow + 1)
    emitWhiteRowsN env n

def emitWhiteRows (env : Env) (upto : Nat) : Prog Status Host Unit := do
  let h ← gets Host.h
  emitWhiteRowsN env (min upto h.params.lines - h.nextRow)

/-- One data block once its payload is in `raw`: the fields of the sub-header that are used and
the row stride that follows from the payload size. -/
structure Block where
  first : Nat
  rows : Nat
  avail : Nat
  stride : Nat
  raw : List UInt8

/-- The rows of a block from index `i` on, `n` of them. Row numbers are 32-bit and may wrap. -/
def placeRows (env : Env) (b : Block) : Nat → Nat → Prog Status Host Unit
  | 0, _ => pure ()
  | n + 1, i => do
    let h ← gets Host.h
    let row := (b.first + i) % 2 ^ 32
    if row < b.first ∨ row < h.nextRow ∨ h.params.lines ≤ row then pure ()
    else
      appendRow env (fun h dst =>
        convertRow env h ((ofList b.raw).shift (i * b.stride)) b.avail row dst) (row + 1)
    placeRows env b n (i + 1)

/-- The end of `handle_data_block`: fill the gap before the block and place its rows. -/
def placeBlock (env : Env) (b : Block) : Prog Status Host Unit := do
  let h ← gets Host.h
  emitWhiteRows env (if b.first < h.params.lines then b.first else h.params.lines)
  placeRows env b b.rows 0

def rawReserve (body : Nat) : Prog Status Host Bool := do
  let h ← gets Host.h
  if h.rawCap < body then
    if ← alloc then do
      modify <| Host.onHandle fun h => { h with rawCap := body }
      pure true
    else pure false
  else pure true

end PantumOpen.Scan
