import PantumOpen.Lib.Checked
import PantumOpen.Scan.DataBlock
import PantumOpen.Scan.OptionRanges
import PantumOpen.Scan.RowContent

/-! The memory and the numbers of a data block: `handle_data_block` and `convert_row` with every access,
conversion and division checked. -/

namespace PantumOpen.Scan
open Prog Bytes Buffer Cells Checked

def maskCell {σ : Type} (env : Env) (i : Nat) : Prog Fault σ UInt8 :=
  if i < ditherSize * ditherSize then pure (env.ditherMask i) else fail .bounds

def blackDot {σ : Type} (env : Env) (h : Handle) (row i : Nat) (sample : UInt8) : Prog Fault σ Bool :=
  if h.halftone then do
    let cell ← maskCell env ((row % ditherSize) * ditherSize + i % ditherSize)
    pure (h.gamma sample < cell)
  else pure ((h.gamma sample).toNat < h.threshold)

/-- `convert_row` in the memory reserved for the row, reading what `src` has of the payload. -/
def convertRowMem (env : Env) (h : Handle) (src : List UInt8) (avail row : Nat) :
    Prog Fault Cells Unit :=
  let lut := h.gamma
  let pixels := h.params.pixelsPerLine
  let lead := min h.whiteLeft pixels
  let tail := pixels - min h.whiteRight pixels
  let n := min avail pixels
  if h.whiteRow row then fill 0 h.params.white h.params.bytesPerLine
  else if h.params.format = .rgb then do
    forIndex 0 (fun i _ => do
      let red ← peek src (3 * i + 2)
      store (3 * i) (lut red)
      let green ← peek src (3 * i + 1)
      store (3 * i + 1) (lut green)
      let blue ← peek src (3 * i)
      store (3 * i + 2) (lut blue)) n ()
    fill (3 * n) 0xff ((pixels - n) * 3)
    fill 0 0xff (lead * 3)
    fill (3 * tail) 0xff ((pixels - tail) * 3)
  else if h.params.depth = 1 then do
    fill 0 0 h.params.bytesPerLine
    forIndex lead (fun i _ => do
      let sample ← peek src i
      let black ← blackDot env h row i sample
      if black then do
        let bits ← load (i / 8)
        store (i / 8) (bits ||| 0x80 >>> UInt8.ofNat (i % 8))
      else pure ()) (min n tail - lead) ()
  else do
    forIndex 0 (fun i _ => do
      let sample ← peek src i
      store i (lut sample)) n ()
    fill n 0xff (pixels - n)
    fill 0 0xff lead
    fill tail 0xff (pixels - tail)

variable {env : Env} {h : Handle} {src : List UInt8} {avail row : Nat}

structure Parameters.Sized (p : Parameters) : Prop extends p.Layout where
  bilevel : p.format ≠ .rgb → p.depth = 1 → p.bytesPerLine = (p.pixelsPerLine + 7) / 8

theorem OptionValues.computeParameters_sized (v : OptionValues) : v.computeParameters.Sized := by
  refine ⟨v.computeParameters_layout, ?_⟩
  unfold computeParameters
  dsimp only
  split_ifs
  · exact fun h => absurd rfl h
  · exact fun _ _ => rfl
  · exact fun _ h => by cases h

theorem runs_blackDot {σ : Type} (env : Env) (h : Handle) (row i : Nat) (sample : UInt8) (s : σ) :
    Runs (blackDot env h row i sample) (fun b t => t = s ∧ b = if h.halftone then
      decide (h.gamma sample < env.ditherMask ((row % ditherSize) * ditherSize + i % ditherSize))
      else decide ((h.gamma sample).toNat < h.threshold)) s := by
  have hrow : row % ditherSize < ditherSize := Nat.mod_lt _ (by decide)
  have hcol : i % ditherSize < ditherSize := Nat.mod_lt _ (by decide)
  have hin : (row % ditherSize) * ditherSize + i % ditherSize < ditherSize * ditherSize := by
    unfold ditherSize at *
    omega
  unfold blackDot
  split
  · refine Runs.bind (Q := fun cell t => t = s ∧
      cell = env.ditherMask ((row % ditherSize) * ditherSize + i % ditherSize)) ?_ ?_
    · unfold maskCell
      rw [if_pos hin]
      exact runs_pure ⟨rfl, rfl⟩
    · rintro _ t ⟨rfl, rfl⟩
      exact runs_pure ⟨rfl, rfl⟩
  · exact runs_pure ⟨rfl, rfl⟩

theorem fill_row {len : Nat} (b : Buffer) (v : UInt8) :
    Runs (fill 0 v len) (fun _ => Shows len (fun _ => True) (b.memset 0 v len)) (fresh len) :=
  (runs_fill (fresh_shows len b) (by omega) v).mono fun _ _ hc =>
    hc.congr (fun _ hi _ => .inl ⟨Nat.zero_le _, by omega⟩) fun _ _ _ => rfl

theorem margins_run {len k n lead tail : Nat} {w : Nat → Prop} {b : Buffer} {c : Cells}
    (hc : Shows len w b c) (hw : ∀ i < len, i < k → w i) (hk : k + n = len) (hlead : lead ≤ len)
    {m : Nat} (htail : tail + m = len) :
    Runs (do fill k 0xff n; fill 0 0xff lead; fill tail 0xff m : Prog Fault Cells Unit)
      (fun _ => Shows len (fun _ => True)
        (((b.memset k 0xff n).memset 0 0xff lead).memset tail 0xff m)) c := by
  apply (runs_fill hc (by omega) _).bind
  intro _ c hc
  apply (runs_fill hc (by omega) _).bind
  intro _ c hc
  refine (runs_fill hc (by omega) _).mono fun _ c hc => hc.congr (fun i hi _ => ?_) fun _ _ _ => rfl
  by_cases hik : i < k
  · exact .inr (.inr (.inr (hw i hi hik)))
  · exact .inr (.inr (.inl ⟨by omega, by omega⟩))

theorem gray_run {len n : Nat} (hn : n ≤ len) (hsrc : n ≤ src.length) (lut : UInt8 → UInt8)
    (b : Buffer) :
    Runs (forIndex 0 (fun i (_ : Unit) => do
      let sample ← peek src i
      store i (lut sample)) n ())
      (fun _ => Shows len (fun j => j < n)
        (forRange 0 (fun i d => d.store i (lut (ofList src i))) n b)) (fresh len) := by
  refine (runs_forIndex (fun k _ c => Shows len (fun j => j < k)
    (forRange 0 (fun i d => d.store i (lut (ofList src i))) k b) c) ?_ fun k _ c hk hc => ?_)
  · exact (fresh_shows len b).congr (fun _ _ h => absurd h (Nat.not_lt_zero _)) fun _ _ _ => rfl
  · rw [Nat.zero_add]
    apply (runs_peek (Q := fun v t => t = c ∧ v = ofList src k) (by omega) ⟨rfl, rfl⟩).bind
    rintro _ _ ⟨rfl, rfl⟩
    refine (runs_store hc (by omega) _).mono fun _ c hc => hc.congr (fun i _ hi => ?_) fun i _ _ => ?_
    · omega
    · rw [forRange, Nat.zero_add]

/-- The triplets of a row, reversed one by one. -/
theorem rgb_run {len n : Nat} (hn : 3 * n ≤ len) (hsrc : 3 * n ≤ src.length) (lut : UInt8 → UInt8)
    (b : Buffer) :
    Runs (forIndex 0 (fun i (_ : Unit) => do
      let red ← peek src (3 * i + 2)
      store (3 * i) (lut red)
      let green ← peek src (3 * i + 1)
      store (3 * i + 1) (lut green)
      let blue ← peek src (3 * i)
      store (3 * i + 2) (lut blue)) n ())
      (fun _ => Shows len (fun j => j < 3 * n)
        (forRange 0 (fun i d => ((d.store (3 * i) (lut (ofList src (3 * i + 2)))).store (3 * i + 1)
          (lut (ofList src (3 * i + 1)))).store (3 * i + 2) (lut (ofList src (3 * i)))) n b))
      (fresh len) := by
  refine (runs_forIndex (fun k _ c => Shows len (fun j => j < 3 * k)
    (forRange 0 (fun i d => ((d.store (3 * i) (lut (ofList src (3 * i + 2)))).store (3 * i + 1)
      (lut (ofList src (3 * i + 1)))).store (3 * i + 2) (lut (ofList src (3 * i)))) k b) c) ?_
    fun k _ c hk hc => ?_)
  · exact (fresh_shows len b).congr (fun _ _ h => absurd h (Nat.not_lt_zero _)) fun _ _ _ => rfl
  · have hpeek {j : Nat} (hj : j < src.length) (c : Cells) :
        Runs (peek src j) (fun v t => t = c ∧ v = ofList src j) c := runs_peek hj ⟨rfl, rfl⟩
    rw [Nat.zero_add]
    apply (hpeek (by omega) c).bind
    rintro _ _ ⟨rfl, rfl⟩
    apply (runs_store hc (by omega) _).bind
    intro _ c hc
    apply (hpeek (by omega) c).bind
    rintro _ _ ⟨rfl, rfl⟩
    apply (runs_store hc (by omega) _).bind
    intro _ c hc
    apply (hpeek (by omega) c).bind
    rintro _ _ ⟨rfl, rfl⟩
    refine (runs_store hc (by omega) _).mono fun _ c hc => hc.congr (fun i _ hi => ?_) fun i _ _ => ?_
    · omega
    · rw [forRange, Nat.zero_add]

theorem dots_run {len lo n : Nat} (hin : ∀ k < n, lo + k < 8 * len ∧ lo + k < src.length)
    (env : Env) (h : Handle) (row : Nat) {b : Buffer} {c : Cells}
    (hc : Shows len (fun _ => True) b c) :
    Runs (forIndex lo (fun i (_ : Unit) => do
      let sample ← peek src i
      let black ← blackDot env h row i sample
      if black then do
        let bits ← load (i / 8)
        store (i / 8) (bits ||| 0x80 >>> UInt8.ofNat (i % 8))
      else pure ()) n ())
      (fun _ => Shows len (fun _ => True) (forRange lo (fun i d =>
        if (if h.halftone then decide (h.gamma (ofList src i) <
            env.ditherMask ((row % ditherSize) * ditherSize + i % ditherSize))
          else decide ((h.gamma (ofList src i)).toNat < h.threshold)) then
          d.store (i / 8) (d (i / 8) ||| 0x80 >>> UInt8.ofNat (i % 8)) else d) n b)) c := by
  refine runs_forIndex (fun k _ c => Shows len (fun _ => True) (forRange lo (fun i d =>
    if (if h.halftone then decide (h.gamma (ofList src i) <
        env.ditherMask ((row % ditherSize) * ditherSize + i % ditherSize))
      else decide ((h.gamma (ofList src i)).toNat < h.threshold)) then
      d.store (i / 8) (d (i / 8) ||| 0x80 >>> UInt8.ofNat (i % 8)) else d) k b) c) hc
    fun k _ c hk hc => ?_
  rw [forRange]
  obtain ⟨hdot, hsrc⟩ := hin k hk
  have hbyte : (lo + k) / 8 < len := by omega
  apply (runs_peek (Q := fun v t => t = c ∧ v = ofList src (lo + k)) hsrc ⟨rfl, rfl⟩).bind
  rintro _ _ ⟨rfl, rfl⟩
  apply (runs_blackDot env h row (lo + k) _ _).bind
  rintro black _ ⟨rfl, hblack⟩
  rw [← hblack]
  refine runs_ite (fun hb => ?_) fun hb => ?_
  · rw [if_pos hb]
    apply (runs_load (Q := fun v t => t = _ ∧ v = _) hc hbyte trivial ⟨rfl, rfl⟩).bind
    rintro _ _ ⟨rfl, rfl⟩
    exact (runs_store hc hbyte _).mono fun _ c hc => hc.congr (fun _ _ _ => .inr trivial) fun _ _ _ => rfl
  · rw [if_neg hb]
    exact runs_pure hc

/-- No access of `convert_row` leaves its buffers when the payload has the samples of the row, and
every byte of the row is written. -/
theorem convertRowMem_shows (env : Env) (hp : h.params.Sized)
    (hsrc : h.params.samples avail ≤ src.length) (row : Nat) (b : Buffer) :
    Runs (convertRowMem env h src avail row) (fun _ => Shows h.params.bytesPerLine (fun _ => True)
      (convertRow env h (ofList src) avail row b)) (fresh h.params.bytesPerLine) := by
  unfold Parameters.samples at hsrc
  unfold convertRowMem convertRow
  dsimp only
  refine runs_ite (fun hwhite => ?_) fun hwhite => ?_
  · rw [if_pos hwhite]
    exact fill_row b _
  rw [if_neg hwhite]
  refine runs_ite (fun hrgb => ?_) fun hrgb => ?_
  · rw [if_pos hrgb] at hsrc ⊢
    have hline := hp.rgb hrgb
    apply (rgb_run (by omega) (by omega) h.gamma b).bind
    intro _ c hc
    exact margins_run hc (fun _ _ hi => hi) (by omega) (by omega) (by omega)
  rw [if_neg hrgb] at hsrc ⊢
  refine runs_ite (fun hdepth => ?_) fun hdepth => ?_
  · rw [if_pos hdepth]
    have hline := hp.bilevel hrgb hdepth
    apply (fill_row b 0).bind
    intro _ c hc
    exact dots_run (fun k hk => by omega) env h row hc
  · rw [if_neg hdepth]
    have hline := hp.gray hrgb hdepth
    rw [hline]
    apply (gray_run (by omega) (by omega) h.gamma b).bind
    intro _ c hc
    exact margins_run hc (fun _ _ hi => hi) (by omega) (by omega) (by omega)

theorem windowDots_le {extent dpi limit : Int} (he : extent ≤ limit) (hl : 0 ≤ limit) (hd : 0 ≤ dpi)
    (hd' : dpi ≤ 1200) : (windowDots extent dpi : Int) ≤ max 1 (limit * 12) := by
  have hprod : extent * dpi ≤ limit * 1200 := by
    calc extent * dpi ≤ limit * dpi := Int.mul_le_mul_of_nonneg_right he hd
      _ ≤ limit * 1200 := Int.mul_le_mul_of_nonneg_left hd' hl
  have hdiv : (extent * dpi).tdiv 100 ≤ limit * 12 := by
    apply (Int.tdiv_le_tdiv (by decide) hprod).trans
    rw [Int.tdiv_eq_ediv_of_nonneg (by omega)]
    omega
  unfold windowDots
  dsimp only
  split <;> omega

theorem computeParameters_bounds {v : OptionValues} (hv : v.resolution ∈ resolutionList) :
    v.computeParameters.pixelsPerLine ≤ 10200 ∧ v.computeParameters.lines ≤ 16800 := by
  obtain ⟨hlo, hhi⟩ := effectiveResolution_bounds hv
  have hmaxY := maxY_bounds v
  obtain ⟨hl, ht, -, -, hr, hb⟩ := computeWindow_inside v
  unfold pantumMaxYAdf at hmaxY
  have hpixels : windowDots (v.computeWindow.right - v.computeWindow.left) v.effectiveResolution ≤
      10200 := by
    have hx := windowDots_le (show v.computeWindow.right - v.computeWindow.left ≤ pantumMaxX by omega)
      (by decide) (by omega) hhi
    unfold pantumMaxX at hx
    omega
  have hlines : windowDots (v.computeWindow.bottom - v.computeWindow.top) v.effectiveResolution ≤
      16800 := by
    have hy := windowDots_le (show v.computeWindow.bottom - v.computeWindow.top ≤ v.maxY by omega)
      hmaxY.1 (by omega) hhi
    omega
  unfold OptionValues.computeParameters
  dsimp only
  split_ifs <;> exact ⟨hpixels, hlines⟩

def word {σ : Type} (b : List UInt8) (off : Nat) : Prog (Stop Status) σ Nat := do
  inside (off + 4 ≤ b.length)
  pure (getBe32 b off)

def appendRowMem (line : Handle → Prog Fault Cells Unit) (next : Nat) :
    Prog (Stop Status) Host Unit := do
  let h ← gets Host.h
  let bpl ← below (2 ^ 31) h.params.bytesPerLine
  plain (outReserve bpl)
  let h ← gets Host.h
  let row ← written bpl (line h)
  let next ← below (2 ^ 31) next
  modify <| Host.onHandle fun h => { h with out := h.out ++ row, nextRow := next }

def emitWhiteRowsNMem : Nat → Prog (Stop Status) Host Unit
  | 0 => pure ()
  | n + 1 => do
    let h ← gets Host.h
    appendRowMem (fun h => fill 0 h.params.white h.params.bytesPerLine) (h.nextRow + 1)
    emitWhiteRowsNMem n

def emitWhiteRowsMem (upto : Nat) : Prog (Stop Status) Host Unit := do
  let h ← gets Host.h
  emitWhiteRowsNMem (min upto h.params.lines - h.nextRow)

/-- What `convert_row` multiplies and subtracts in `int`. -/
def convertInts {σ : Type} (h : Handle) : Prog (Stop Status) σ Unit := do
  let _ ← below (2 ^ 31) (3 * h.params.pixelsPerLine)
  let _ ← below (2 ^ 31) (h.params.lines - h.whiteBottom)
  let _ ← below (2 ^ 31 + 1) (h.whiteBottom - h.params.lines)
  pure ()

def placeRowsMem (env : Env) (b : Block) : Nat → Nat → Prog (Stop Status) Host Unit
  | 0, _ => pure ()
  | n + 1, i => do
    let h ← gets Host.h
    let row := (b.first + i) % 2 ^ 32
    if row < b.first ∨ row < h.nextRow ∨ h.params.lines ≤ row then pure ()
    else do
      -- A sum that has wrapped around must not get here.
      let row ← below (2 ^ 32) (b.first + i)
      let row ← below (2 ^ 31) row
      let off ← below (2 ^ 64) (i * b.stride)
      let avail ← below (2 ^ 31) b.avail
      convertInts h
      appendRowMem (fun h => convertRowMem env h (b.raw.drop off) avail row) (row + 1)
    placeRowsMem env b n (i + 1)

def gapEnd {σ : Type} (first lines : Nat) : Prog (Stop Status) σ Nat :=
  if first < lines then below (2 ^ 31) first else pure lines

def placeBlockMem (env : Env) (b : Block) : Prog (Stop Status) Host Unit := do
  let h ← gets Host.h
  let lines ← below (2 ^ 31) h.params.lines
  let upto ← gapEnd b.first lines
  emitWhiteRowsMem upto
  placeRowsMem env b b.rows 0

/-- `!rows || !planes || body / rows < planes`, from left to right. -/
def malformed {σ : Type} (rows planes body : Nat) : Prog (Stop Status) σ Bool :=
  if rows = 0 then pure true
  else if planes = 0 then pure true
  else do
    let share ← divide body rows
    pure (share < planes)

def refuse (body : Nat) (st : Status) : Prog (Stop Status) Session Unit := do
  let body ← below (2 ^ 32) body
  plain (do onInp (ignore (drainPayload body)); fail st)

/-- `handle_data_block` with every division, conversion and access checked. -/
def handleDataBlockMem (env : Env) (plen : Nat) : Prog (Stop Status) Session Unit := do
  if plen < pantumDataHeaderLen then refuse plen .ioError
  else do
    let head ← plain (onInp (usbRead pantumDataHeaderLen))
    let type ← word head 0
    let first ← word head 4
    let rows ← word head 8
    let planes ← word head 12
    let pixels ← word head 16
    let body ← minus plen pantumDataHeaderLen
    let h ← gets fun s => s.host.h
    if type = dataJpeg then refuse body .unsupported
    else if ← malformed rows planes body then refuse body .ioError
    else do
      let stride ← divide body rows
      let share ← divide stride planes
      let share ← below (2 ^ 32) share
      if planes ≠ (if h.params.format = .rgb then 3 else 1) then refuse body .ioError
      else if ← plain (onHost (rawReserve body)) then do
        let h ← gets fun s => s.host.h
        inside (body ≤ h.rawCap)
        let raw ← plain (onInp (usbRead body))
        zoom hostLens (placeBlockMem env
          { first := first, rows := rows, avail := min share pixels, stride := stride, raw := raw })
      else refuse body .noMem

theorem ofList_drop (l : List UInt8) (n : Nat) : ofList (l.drop n) = (ofList l).shift n := by
  funext i
  simp [ofList, shift, List.getD_eq_getElem?_getD]

theorem Parameters.Sized.line_le {p : Parameters} (hp : p.Sized) :
    p.bytesPerLine ≤ 3 * p.pixelsPerLine + 1 := by
  by_cases hrgb : p.format = .rgb
  · have := hp.rgb hrgb
    omega
  · by_cases hdepth : p.depth = 1
    · have := hp.bilevel hrgb hdepth
      omega
    · have := hp.gray hrgb hdepth
      omega

/-- What the page of a job keeps to, whatever its margins are. -/
structure Handle.Bounded (h : Handle) : Prop where
  sized : h.params.Sized
  pixels : h.params.pixelsPerLine ≤ 10200
  lines : h.params.lines ≤ 16800
  bottom : h.whiteBottom < 2 ^ 31

/-- The rows of a block have their samples in its payload. -/
structure Block.Inside (b : Block) (p : Parameters) : Prop where
  first : b.first < 2 ^ 32
  rows : b.rows < 2 ^ 32
  raw : b.rows * b.stride ≤ b.raw.length
  size : b.raw.length < 2 ^ 31
  samples : p.samples b.avail ≤ b.stride
  avail : b.avail < 2 ^ 31

theorem SameControl.bounded {h h' : Handle} (a : SameControl h h') (hb : h.Bounded) : h'.Bounded :=
  ⟨a.params ▸ hb.sized, a.params ▸ hb.pixels, a.params ▸ hb.lines, a.get Handle.whiteBottom ▸ hb.bottom⟩

theorem Handle.Bounded.line (hb : h.Bounded) : h.params.bytesPerLine < 2 ^ 31 := by
  have hline := hb.sized.line_le
  have hpixels := hb.pixels
  omega

theorem word_eq {σ : Type} {b : List UInt8} {off : Nat} (h : off + 4 ≤ b.length) :
    (word b off : Prog (Stop Status) σ Nat) = pure (getBe32 b off) := by
  unfold word
  rw [inside_eq h, Prog.pure_bind]

theorem malformed_eq {σ : Type} (rows planes body : Nat) :
    (malformed rows planes body : Prog (Stop Status) σ Bool) =
      pure (decide (rows = 0 ∨ planes = 0 ∨ body / rows < planes)) := by
  unfold malformed
  by_cases hrows : rows = 0
  · rw [if_pos hrows, decide_eq_true (.inl hrows)]
  rw [if_neg hrows]
  by_cases hplanes : planes = 0
  · rw [if_pos hplanes, decide_eq_true (.inr (.inl hplanes))]
  rw [if_neg hplanes, divide_eq hrows, Prog.pure_bind]
  congr 2
  exact propext ⟨fun h => .inr (.inr h), fun h => (h.resolve_left hrows).resolve_left hplanes⟩

theorem convertInts_eq {σ : Type} (hb : h.Bounded) :
    (convertInts h : Prog (Stop Status) σ Unit) = pure () := by
  have hpixels := hb.pixels
  have hlines := hb.lines
  have hbottom := hb.bottom
  unfold convertInts
  rw [below_eq (by omega), Prog.pure_bind, below_eq (by omega), Prog.pure_bind, below_eq (by omega),
    Prog.pure_bind]

theorem refuse_agrees {body : Nat} (hbody : body < 2 ^ 32) (st : Status) (s : Session) :
    Agrees (refuse body st) (do onInp (ignore (drainPayload body)); fail st) s := by
  unfold refuse
  rw [below_eq hbody, Prog.pure_bind]
  exact agrees_plain _ s

theorem appendRow_control (env : Env) (row : Handle → Buffer → Buffer) (next : Nat) (s : Host) :
    wp (appendRow env row next) (fun r t => SameControl s.h t.h ∧ (r = .ok () → t.h.nextRow = next)) s := by
  unfold appendRow
  rw [wp_bind, wp_gets, after_ok, wp_bind]
  apply wp_mono (outReserve_spec (fun _ => []) _ s)
  intro r t hr
  cases r with
  | error e => exact ⟨hr.2.2.1.control, fun h => by cases h⟩
  | ok _ => exact ⟨hr.1.control.trans rfl, fun _ => rfl⟩

theorem appendRow_agrees (env : Env) {line : Handle → Prog Fault Cells Unit}
    {row : Handle → Buffer → Buffer} {next : Nat} {s : Host} (hb : s.h.Bounded) (hnext : next < 2 ^ 31)
    (hline : ∀ h, SameControl s.h h → line h (fresh s.h.params.bytesPerLine) =
      (.ok (), ((row h env.uninit).bytes s.h.params.bytesPerLine).map some)) :
    Agrees (appendRowMem line next) (appendRow env row next) s := by
  unfold appendRowMem appendRow
  apply (agrees_gets Host.h s).bind
  rw [wp_gets]
  rintro _ ⟨⟩
  rw [below_eq hb.line, Prog.pure_bind]
  apply (agrees_plain _ s).bind
  apply wp_mono (outReserve_spec (fun _ => []) _ s)
  rintro r t hr _ rfl
  have hcontrol : SameControl s.h t.h := hr.1.control
  unfold Agrees
  rw [gets_bind, written_eq (hline t.h hcontrol), Prog.pure_bind, below_eq hnext, Prog.pure_bind,
    ← hcontrol.params]
  rfl

theorem emitWhiteRowsN_agrees (env : Env) (n : Nat) {s : Host} (hb : s.h.Bounded)
    (hn : n ≠ 0 → s.h.nextRow + n ≤ s.h.params.lines) :
    Agrees (emitWhiteRowsNMem n) (emitWhiteRowsN env n) s := by
  induction n generalizing s with
  | zero => exact agrees_pure () s
  | succ n ih =>
    have hroom := hn (Nat.succ_ne_zero n)
    have hlines := hb.lines
    rw [emitWhiteRowsNMem, emitWhiteRowsN]
    apply (agrees_gets Host.h s).bind
    rw [wp_gets]
    rintro _ ⟨⟩
    have hrow : Agrees (appendRowMem (fun h => fill 0 h.params.white h.params.bytesPerLine) (s.h.nextRow + 1))
        (appendRow env (fun h dst => dst.memset 0 h.params.white h.params.bytesPerLine)
          (s.h.nextRow + 1)) s := by
      apply appendRow_agrees env hb (by omega)
      intro h hh
      obtain ⟨_, c, hrun, hc⟩ := @fill_row s.h.params.bytesPerLine env.uninit h.params.white
      rw [hh.params] at *
      rw [hc.full fun _ _ => trivial] at hrun
      exact hrun
    apply hrow.bind
    apply wp_mono (appendRow_control env _ _ s)
    rintro r t ⟨hcontrol, hnext⟩ _ rfl
    apply ih (hcontrol.bounded hb)
    intro _
    rw [hnext rfl, hcontrol.params]
    omega

theorem convertRowMem_block (env : Env) {b : Block} (hb : h.Bounded) (hin : b.Inside h.params) {i : Nat}
    (hi : i < b.rows) (row : Nat) :
    convertRowMem env h (b.raw.drop (i * b.stride)) b.avail row (fresh h.params.bytesPerLine) =
      (.ok (), ((convertRow env h ((ofList b.raw).shift (i * b.stride)) b.avail row env.uninit).bytes
        h.params.bytesPerLine).map some) := by
  have hslice : i * b.stride + b.stride ≤ b.raw.length :=
    calc i * b.stride + b.stride = (i + 1) * b.stride := (Nat.succ_mul _ _).symm
      _ ≤ b.rows * b.stride := Nat.mul_le_mul_right _ hi
      _ ≤ b.raw.length := hin.raw
  have hsamples : h.params.samples b.avail ≤ (b.raw.drop (i * b.stride)).length := by
    rw [List.length_drop]
    exact hin.samples.trans (by omega)
  obtain ⟨_, c, hrun, hc⟩ := convertRowMem_shows env hb.sized hsamples row env.uninit
  rw [hc.full fun _ _ => trivial, ofList_drop] at hrun
  exact hrun

/-- The loop goes past a row whose number has wrapped around. -/
theorem placeRows_wrapped (env : Env) {b : Block} (hfirst : b.first < 2 ^ 32) {i : Nat} (hi : i < 2 ^ 32)
    (hwrap : 2 ^ 32 ≤ b.first + i) (n : Nat) : placeRows env b (n + 1) i = placeRows env b n (i + 1) := by
  have hrow : (b.first + i) % 2 ^ 32 < b.first := by omega
  funext s
  rw [placeRows, gets_bind]
  dsimp only
  rw [if_pos (.inl hrow)]

theorem placeRows_agrees (env : Env) {b : Block} (n i : Nat) {s : Host} (hb : s.h.Bounded)
    (hin : b.Inside s.h.params) (hi : i + n ≤ b.rows) :
    Agrees (placeRowsMem env b n i) (placeRows env b n i) s := by
  induction n generalizing i s with
  | zero => exact agrees_pure () s
  | succ n ih =>
    have hrows := hin.rows
    have hfirst := hin.first
    have hlines := hb.lines
    rw [placeRowsMem, placeRows]
    apply (agrees_gets Host.h s).bind
    rw [wp_gets]
    rintro _ ⟨⟩
    dsimp only
    by_cases hskip : (b.first + i) % 2 ^ 32 < b.first ∨ (b.first + i) % 2 ^ 32 < s.h.nextRow ∨
        s.h.params.lines ≤ (b.first + i) % 2 ^ 32
    · rw [if_pos hskip, if_pos hskip]
      exact ih (i + 1) hb hin (by omega)
    rw [if_neg hskip, if_neg hskip]
    have hexact : (b.first + i) % 2 ^ 32 = b.first + i := by omega
    rw [hexact] at hskip ⊢
    have hoff : i * b.stride < 2 ^ 64 := by
      have hle : i * b.stride ≤ b.rows * b.stride := Nat.mul_le_mul_right _ (by omega)
      have hraw := hin.raw
      have hsize := hin.size
      omega
    rw [below_eq (by omega), Prog.pure_bind, below_eq (by omega), Prog.pure_bind, below_eq hoff,
      Prog.pure_bind, below_eq hin.avail, Prog.pure_bind, convertInts_eq hb, Prog.pure_bind]
    have hrow : Agrees (appendRowMem (fun h => convertRowMem env h (b.raw.drop (i * b.stride)) b.avail
        (b.first + i)) (b.first + i + 1)) (appendRow env (fun h dst => convertRow env h
          ((ofList b.raw).shift (i * b.stride)) b.avail (b.first + i) dst) (b.first + i + 1)) s := by
      apply appendRow_agrees env hb (by omega)
      intro h hh
      rw [← hh.params] at hin ⊢
      exact convertRowMem_block env (hh.bounded hb) hin (by omega) _
    apply hrow.bind
    apply wp_mono (appendRow_control env _ _ s)
    rintro r t ⟨hcontrol, -⟩ _ rfl
    exact ih (i + 1) (hcontrol.bounded hb) (hcontrol.params ▸ hin) (by omega)

theorem emitWhiteRowsN_control (env : Env) (n : Nat) (s : Host) :
    wp (emitWhiteRowsN env n) (fun _ t => SameControl s.h t.h) s := by
  induction n generalizing s with
  | zero => exact .refl s.h
  | succ n ih =>
    rw [emitWhiteRowsN, wp_bind, wp_gets, after_ok, wp_bind]
    apply wp_mono (appendRow_control env _ _ s)
    rintro r t ⟨hcontrol, -⟩
    cases r with
    | error e => exact hcontrol
    | ok _ => exact wp_mono (ih t) fun _ _ h => hcontrol.trans h

theorem placeBlock_agrees (env : Env) {b : Block} {s : Host} (hb : s.h.Bounded)
    (hin : b.Inside s.h.params) : Agrees (placeBlockMem env b) (placeBlock env b) s := by
  have hlines := hb.lines
  unfold placeBlockMem placeBlock
  apply (agrees_gets Host.h s).bind
  rw [wp_gets]
  rintro _ ⟨⟩
  have hupto : (gapEnd b.first s.h.params.lines : Prog (Stop Status) Host Nat) =
      pure (if b.first < s.h.params.lines then b.first else s.h.params.lines) := by
    unfold gapEnd
    split
    · exact below_eq (by omega)
    · rfl
  rw [below_eq (by omega), Prog.pure_bind, hupto, Prog.pure_bind]
  have hwhite (upto : Nat) : Agrees (emitWhiteRowsMem upto) (emitWhiteRows env upto) s := by
    unfold emitWhiteRowsMem emitWhiteRows
    apply (agrees_gets Host.h s).bind
    rw [wp_gets]
    rintro _ ⟨⟩
    exact emitWhiteRowsN_agrees env _ hb fun h => by omega
  apply (hwhite _).bind
  unfold emitWhiteRows
  rw [wp_bind, wp_gets, after_ok]
  apply wp_mono (emitWhiteRowsN_control env _ s)
  intro r t hcontrol _ _
  exact placeRows_agrees env b.rows 0 (hcontrol.bounded hb) (hcontrol.params ▸ hin) (by omega)

theorem ofFrame_inside {p : Parameters} {plen : Nat} {head raw : List UInt8}
    (hplen : plen ≤ pantumMaxPayload) (hraw : raw.length = plen - pantumDataHeaderLen)
    (hrows : getBe32 head 8 ≠ 0) (hplanes : getBe32 head 12 = p.planes) :
    (Block.ofFrame plen head raw).Inside p := by
  have hmax : pantumMaxPayload = 67108864 := rfl
  have hmul := Nat.mul_div_le (plen - pantumDataHeaderLen) (getBe32 head 8)
  have hstride := Nat.div_le_self (plen - pantumDataHeaderLen) (getBe32 head 8)
  have hshare := Nat.div_le_self ((plen - pantumDataHeaderLen) / getBe32 head 8) (getBe32 head 12)
  have havail : (Block.ofFrame plen head raw).avail ≤
      (plen - pantumDataHeaderLen) / getBe32 head 8 / getBe32 head 12 := Nat.min_le_left _ _
  refine ⟨getBe32_lt _ _, getBe32_lt _ _, hraw ▸ hmul, hraw.trans_lt (by omega), ?_, by omega⟩
  calc p.samples (Block.ofFrame plen head raw).avail
      ≤ getBe32 head 12 * ((plen - pantumDataHeaderLen) / getBe32 head 8 / getBe32 head 12) := by
        rw [hplanes] at havail ⊢
        exact Nat.mul_le_mul_left _ ((Nat.min_le_left _ _).trans havail)
    _ ≤ (plen - pantumDataHeaderLen) / getBe32 head 8 := Nat.mul_div_le _ _

theorem rawReserve_room (body : Nat) (s : Host) :
    wp (rawReserve body) (fun r t => SameControl s.h t.h ∧ (r = .ok true → body ≤ t.h.rawCap)) s := by
  unfold rawReserve
  rw [wp_bind, wp_gets, after_ok, wp_ite]
  refine ⟨fun _ => ?_, fun hcap => ⟨.refl _, fun _ => not_lt.mp hcap⟩⟩
  rw [wp_bind]
  apply wp_mono (alloc_spec s)
  rintro _ t ⟨b, rfl, hh, -⟩
  rw [after_ok, wp_ite]
  refine ⟨fun _ => ?_, fun _ => ⟨hh ▸ .refl _, fun h => by cases h⟩⟩
  rw [wp_bind, wp_modify, after_ok]
  refine ⟨?_, fun _ => le_rfl⟩
  change SameControl s.h { t.h with rawCap := body }
  rw [hh]
  rfl

/-- Whatever a data block says of itself, and whether it is taken or not, no division is by zero, every
number is exact in its type, every sample is read inside the payload and every byte of a row is written
inside the line reserved for it, for all margins. -/
theorem handleDataBlock_safe (env : Env) {v : OptionValues} (hv : v.resolution ∈ resolutionList)
    {s : Session} (hp : s.host.h.params = v.computeParameters) (hbottom : s.host.h.whiteBottom < 2 ^ 31)
    {plen : Nat} (hplen : plen ≤ pantumMaxPayload) :
    Agrees (handleDataBlockMem env plen) (handleDataBlock env plen) s ∧
      ∀ t, (handleDataBlockMem env plen s).1 ≠ .error (.trap t) := by
  have hmax : pantumMaxPayload = 67108864 := rfl
  have hbounds := computeParameters_bounds hv
  rw [← hp] at hbounds
  have hb : s.host.h.Bounded := ⟨hp ▸ v.computeParameters_sized, hbounds.1, hbounds.2, hbottom⟩
  have hagrees : Agrees (handleDataBlockMem env plen) (handleDataBlock env plen) s := by
    unfold handleDataBlockMem handleDataBlock
    apply agrees_ite
    · exact fun _ => refuse_agrees (by omega) _ s
    intro hlen
    have hbody : plen - pantumDataHeaderLen < 2 ^ 32 := by omega
    apply (agrees_plain _ s).bind
    rw [onInp, wp_zoom]
    apply wp_mono (usbRead_length _ _)
    rintro r i hr head rfl
    have hword (off : Nat) (ho : off + 4 ≤ pantumDataHeaderLen) :
        (word head off : Prog (Stop Status) Session Nat) = pure (getBe32 head off) :=
      word_eq (ho.trans (hr head rfl).ge)
    rw [hword 0 (by decide), Prog.pure_bind, hword 4 (by decide), Prog.pure_bind, hword 8 (by decide),
      Prog.pure_bind, hword 12 (by decide), Prog.pure_bind, hword 16 (by decide), Prog.pure_bind,
      minus_eq (not_lt.mp hlen), Prog.pure_bind]
    dsimp only
    apply (agrees_gets _ _).bind
    rw [wp_gets]
    rintro _ ⟨⟩
    apply agrees_ite
    · exact fun _ => refuse_agrees hbody _ _
    intro _
    rw [malformed_eq, Prog.pure_bind]
    by_cases hcounts : getBe32 head 8 = 0 ∨ getBe32 head 12 = 0 ∨
        (plen - pantumDataHeaderLen) / getBe32 head 8 < getBe32 head 12
    · rw [if_pos hcounts, if_pos (decide_eq_true hcounts)]
      exact refuse_agrees hbody _ _
    rw [if_neg hcounts, if_neg (by rw [decide_eq_false hcounts]; decide)]
    obtain ⟨hrows, hcounts⟩ := not_or.mp hcounts
    have hshare : (plen - pantumDataHeaderLen) / getBe32 head 8 / getBe32 head 12 < 2 ^ 32 :=
      ((Nat.div_le_self _ _).trans (Nat.div_le_self _ _)).trans_lt hbody
    rw [divide_eq hrows, Prog.pure_bind, divide_eq (not_or.mp hcounts).1, Prog.pure_bind,
      below_eq hshare, Prog.pure_bind]
    apply agrees_ite
    · exact fun _ => refuse_agrees hbody _ _
    intro hplanes
    apply (agrees_plain _ _).bind
    rw [onHost, wp_zoom]
    apply wp_mono (rawReserve_room _ _)
    rintro _ t ⟨hcontrol, hroom⟩ ready rfl
    apply agrees_ite
    · intro hready
      have hcap : plen - pantumDataHeaderLen ≤ (hostLens.set t (inpLens.set i s)).host.h.rawCap :=
        hroom (by rw [hready])
      unfold Agrees
      rw [gets_bind, inside_eq hcap, Prog.pure_bind]
      apply (agrees_plain _ _).bind
      rw [onInp, wp_zoom]
      apply wp_mono (usbRead_length _ _)
      rintro r j hr raw rfl
      have hin : (Block.ofFrame plen head raw).Inside t.h.params := by
        apply ofFrame_inside hplen (hr raw rfl) hrows
        rw [hcontrol.params]
        exact not_not.mp hplanes
      exact (placeBlock_agrees env (hcontrol.bounded hb) hin).zoom
    · exact fun _ => refuse_agrees hbody _ _
  exact ⟨hagrees, hagrees.no_trap⟩

def colourValues : OptionValues :=
  ⟨some .color, 75, some .flatbed, 0, 0, saneFix 0, saneFix 0, saneFix 10, saneFix 10⟩

/-- Its page with margins of four dots all around, and a device that sends row 5 with two pixels and a
byte of padding. -/
def colourBlock : Session where
  host := ⟨{ Handle.zero with
    params := colourValues.computeParameters, gamma := id
    whiteTop := 4, whiteBottom := 4, whiteLeft := 4, whiteRight := 4 }, true, [], true⟩
  inp := ⟨[0, 5, 1, 3, 5, 0].flatMap putBe32 ++ [1, 2, 3, 4, 5, 6, 0], [⟨.success, 24⟩, ⟨.success, 7⟩]⟩
  outp := ⟨[], [], []⟩

theorem handleDataBlock_safe_colourBlock :
    (Agrees (handleDataBlockMem plainEnv 31) (handleDataBlock plainEnv 31) colourBlock ∧
      ∀ t, (handleDataBlockMem plainEnv 31 colourBlock).1 ≠ .error (.trap t)) ∧
    (handleDataBlock plainEnv 31 colourBlock).2.host.h.nextRow = 6 :=
  ⟨@handleDataBlock_safe plainEnv colourValues (by decide) colourBlock rfl (by decide) 31 (by decide),
    by decide +kernel⟩

end PantumOpen.Scan
