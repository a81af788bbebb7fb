import PantumOpen.Print.Duplex

/-! Jobs that are interrupted in the middle of a write, wherever that is. -/

namespace PantumOpen.Print
open Bytes Prog Stdio

variable {env : Env} {opt : JobOptions} {arrivals : List Bool} {pages : List RasterPage}

section
variable {cs : List Chunk} {q : Nat}

theorem chunksSize_append (l r : List Chunk) : chunksSize (l ++ r) = chunksSize l + chunksSize r := by
  simp [chunksSize]

theorem chunksSize_cons (c : Chunk) (cs : List Chunk) : chunksSize (c :: cs) = c.size + chunksSize cs := by
  simp [chunksSize]

theorem Chunk.size_pos (c : Chunk) : 16 ≤ c.size := by
  simp only [size]
  omega

theorem torn_split (h : q < chunksSize cs) : ∃ l c r q', cs = l ++ c :: r ∧ q = chunksSize l + q' ∧
    q' < c.size := by
  induction cs generalizing q with
  | nil => exact absurd h (Nat.not_lt_zero _)
  | cons c cs ih =>
    rcases Nat.lt_or_ge q c.size with hq | hq
    · exact ⟨[], c, cs, q, rfl, (Nat.zero_add q).symm, hq⟩
    · rw [chunksSize_cons] at h
      obtain ⟨l, d, r, q', rfl, hq', hlt⟩ := ih (q := q - c.size) (by omega)
      refine ⟨c :: l, d, r, q', rfl, ?_, hlt⟩
      rw [chunksSize_cons]
      omega

theorem torn_take (l r : List Chunk) {c : Chunk} (h : q < c.size) :
    ((l ++ c :: r).flatMap Chunk.bytes).take (chunksSize l + q) =
      l.flatMap Chunk.bytes ++ c.bytes.take q := by
  rw [List.flatMap_append, List.flatMap_cons, ← chunks_length, List.take_length_add_append,
    List.take_append_of_le_length (by rw [c.bytes_length]; exact h.le)]

theorem torn_start (l r : List Chunk) {c : Chunk} (h : q < c.size) :
    (∃ j < (l ++ c :: r).length, chunksSize l + q = chunksSize ((l ++ c :: r).take j)) ↔ q = 0 := by
  constructor
  · rintro ⟨j, -, hj⟩
    rcases Nat.lt_or_ge l.length j with hlt | hge
    · obtain ⟨n, rfl⟩ : ∃ n, j = l.length + (n + 1) := ⟨j - l.length - 1, by omega⟩
      rw [List.take_length_add_append, List.take_succ_cons, chunksSize_append, chunksSize_cons] at hj
      omega
    · have hsplit := chunksSize_append (l.take j) (l.drop j)
      rw [List.take_append_drop] at hsplit
      rw [List.take_append_of_le_length hge] at hj
      omega
  · rintro rfl
    exact ⟨l.length, by simp, by rw [List.take_left, Nat.add_zero]⟩

theorem not_framed_take (h : ∀ c ∈ cs, c.Inner) (hq : q < chunksSize cs) :
    ¬ Framed ((cs.flatMap Chunk.bytes).take q) := by
  obtain ⟨l, c, r, q', rfl, rfl, hlt⟩ := torn_split hq
  have hl : ∀ d ∈ l, d.Inner := fun d hd => h d (List.mem_append_left _ hd)
  have hc := h c (List.mem_append_right l List.mem_cons_self)
  rw [torn_take l r hlt, framed_chunks hl, ← List.append_nil (c.bytes.take q')]
  exact not_framed_torn hc hlt (.inl rfl)

/-- A pause that is cut short is no chunk even when a page follows it. -/
theorem not_framed_pause (hdr : PageHeader) (lay : PageLayout) (bie : List UInt8) (hpos : 0 < q)
    (hq : q < 16) :
    ¬ Framed (pauseChunk.bytes.take q ++ ((pageChunks hdr lay opt bie).flatMap Chunk.bytes ++
      tailBytes)) := by
  obtain ⟨more, hmore⟩ : ∃ more, (pageChunks hdr lay opt bie).flatMap Chunk.bytes ++ tailBytes =
      Chunk.header { type := zjtStartPage, items := pageItems hdr lay opt } ++ more := by
    unfold pageChunks pageChunksOf
    rw [List.cons_append, List.flatMap_cons, Chunk.bytes, List.append_assoc, List.append_assoc]
    exact ⟨_, rfl⟩
  -- Shifted by the missing bytes, the signature of the next header is not where it should be.
  have hword (n : Nat) (hn : n = 14 ∨ n = 17) : ∀ q < 16, 0 < q →
      getBe16 (pauseChunk.bytes.take q ++ (putBe32 (16 + n * 12 + 0) ++ putBe32 zjtStartPage ++
        putBe32 n ++ putBe16 (n * 12) ++ putBe16 zjSignature)) 14 ≠ zjSignature := by
    rcases hn with rfl | rfl <;> decide
  have hitems : (pageItems hdr lay opt).length = 14 ∨ (pageItems hdr lay opt).length = 17 := by
    by_cases h : lay.dmpaper = 0 <;> simp [pageItems, h]
  rw [hmore, ← List.append_assoc]
  have hhead : 16 ≤ (pauseChunk.bytes.take q ++ Chunk.header
      { type := zjtStartPage, items := pageItems hdr lay opt }).length := by
    rw [List.length_append, Chunk.header_length]
    omega
  have hlong := congrArg List.length hmore
  rw [List.length_append, List.length_append, Chunk.header_length] at hlong
  have hend : tailBytes.length = 25 := rfl
  have hpause : (pauseChunk.bytes.take q).length = q := List.length_take_of_le hq.le
  intro hf
  generalize hbs : _ ++ more = bs at hf
  have htotal := congrArg List.length hbs
  rw [List.length_append, List.length_append, Chunk.header_length] at htotal
  cases hf with
  | close => omega
  | @chunk d rest header announced signed hrest =>
    have h14 := congrArg (getBe16 · 14) hbs
    rw [getBe16_append_left d rest (by omega), getBe16_append_left _ more (by omega), signed] at h14
    exact hword _ hitems q hq hpos h14

end

def afterPause (env : Env) (opt : JobOptions) (pages : List RasterPage) : List Chunk :=
  let backs := (evens pages).reverse.flatMap (pageBlock env opt)
  if pages.length % 2 = 0 then backs
  else if blankRenders env opt (pageNumber pages.length) (progressAfter pages).lastHdr then
    blankBlock env opt (progressAfter pages).lastHdr ++ backs
  else []

/-- What follows a pause that is cut short. -/
def strayChunks (env : Env) (opt : JobOptions) (pages : List RasterPage) : List Chunk :=
  if pages.length % 2 = 0 then []
  else if blankRenders env opt (pageNumber pages.length) (progressAfter pages).lastHdr then
    blankBlock env opt (progressAfter pages).lastHdr
  else []

def jobChunks (env : Env) (opt : JobOptions) (arrivals : List Bool) (pages : List RasterPage) :
    List Chunk :=
  if opt.manualDuplex then
    if replays env opt arrivals pages then
      (odds pages).flatMap (pageBlock env opt) ++ [pauseChunk] ++ afterPause env opt pages
    else []
  else (printed env opt arrivals 0 pages).flatMap (pageBlock env opt)

theorem pageBlock_inner (hdr : PageHeader) (lay : PageLayout) (bie : List UInt8) :
    ∀ c ∈ pageChunks hdr lay opt bie, c.Inner := by
  intro c hc
  refine ⟨pageChunks_fits hdr lay opt bie c hc, ?_⟩
  simp only [pageChunks, pageChunksOf, List.cons_append, List.mem_cons, List.mem_append, List.mem_map,
    List.not_mem_nil, or_false] at hc
  rcases hc with rfl | rfl | ⟨raw, -, rfl⟩ | rfl | rfl <;>
    simp [zjtStartPage, zjtJbigBih, zjtJbigBid, zjtEndJbig, zjtEndPage, zjtEndDoc]

theorem strayChunks_cases (env : Env) (opt : JobOptions) (pages : List RasterPage) :
    strayChunks env opt pages = [] ∨ ∃ hdr lay bie, strayChunks env opt pages =
      pageChunks hdr lay opt bie := by
  unfold strayChunks
  split
  · exact .inl rfl
  · split
    · exact .inr ⟨_, _, _, rfl⟩
    · exact .inl rfl

theorem strayChunks_inner : ∀ c ∈ strayChunks env opt pages, c.Inner := by
  rcases strayChunks_cases env opt pages with h | ⟨hdr, lay, bie, h⟩ <;> rw [h]
  · exact fun c hc => absurd hc List.not_mem_nil
  · exact pageBlock_inner hdr lay bie

theorem jobChunks_inner : ∀ c ∈ jobChunks env opt arrivals pages, c.Inner := by
  have hblocks (ps : List RasterPage) : ∀ c ∈ ps.flatMap (pageBlock env opt), c.Inner := by
    intro c hc
    obtain ⟨p, -, hp⟩ := List.mem_flatMap.mp hc
    exact pageBlock_inner _ _ _ c hp
  have hpause : pauseChunk.Inner := ⟨⟨by decide, by decide, by decide⟩, by decide⟩
  have hafter : ∀ c ∈ afterPause env opt pages, c.Inner := by
    intro c hc
    unfold afterPause at hc
    split at hc
    · exact hblocks _ c hc
    · split at hc
      · rcases List.mem_append.mp hc with hc | hc
        · exact pageBlock_inner _ _ _ c hc
        · exact hblocks _ c hc
      · exact absurd hc List.not_mem_nil
  intro c hc
  unfold jobChunks at hc
  split at hc
  · split at hc
    · simp only [List.mem_append, List.mem_singleton] at hc
      rcases hc with (hc | rfl) | hc
      · exact hblocks _ c hc
      · exact hpause
      · exact hafter c hc
    · exact absurd hc List.not_mem_nil
  · exact hblocks _ c hc

theorem blankOut_state (f : File) :
    (blankOut env opt pages f).2 = (writeChunks (strayChunks env opt pages) f).2 := by
  unfold blankOut strayChunks
  split
  · rfl
  · split
    · rfl
    · rfl

theorem backsOut_state (f : File) : (backsOut env opt pages f).2 =
    match writeChunk pauseChunk f with
    | (.ok _, g) => (writeChunks (afterPause env opt pages) g).2
    | (.error _, g) => (writeChunks (strayChunks env opt pages) g).2 := by
  rcases hpause : writeChunk pauseChunk f with ⟨r, g⟩
  have hpaused : attempt (writeChunk pauseChunk) f = (.ok r, g) := by
    simp only [attempt, hpause]
  have hblank : attempt (blankOut env opt pages) g =
      (.ok (blankOut env opt pages g).1, (blankOut env opt pages g).2) := rfl
  unfold backsOut
  rw [bind_ok hpaused, bind_ok hblank]
  cases r with
  | error => exact blankOut_state g
  | ok =>
    unfold blankOut afterPause
    dsimp only
    by_cases he : pages.length % 2 = 0
    · rw [if_pos he, if_pos he]
      rfl
    · rw [if_neg he, if_neg he]
      by_cases hb : blankRenders env opt (pageNumber pages.length) (progressAfter pages).lastHdr = true
      · rw [if_pos hb, if_pos hb, writeChunks_eq, writeChunks_eq, writeChunks_eq, List.flatMap_append]
        rcases hw : writeAll ((blankBlock env opt (progressAfter pages).lastHdr).flatMap Chunk.bytes) g
          with ⟨⟨⟩ | ⟨⟩, g'⟩
        · rw [writeAll_append_error hw]
          rfl
        · rw [writeAll_append_ok hw]
      · rw [if_neg hb, if_neg hb]
        rfl

theorem writeChunks_cut (cs : List Chunk) (bs : List UInt8) {q : Nat} (h : q < chunksSize cs) :
    ∃ l c r q', cs = l ++ c :: r ∧ q = chunksSize l + q' ∧ q' < c.size ∧
      writeChunks cs (tape bs (some q) false) =
        (.error (), tape (bs ++ (l.flatMap Chunk.bytes ++ c.bytes.take q')) none true) := by
  obtain ⟨l, c, r, q', rfl, rfl, hlt⟩ := torn_split h
  refine ⟨l, c, r, q', rfl, rfl, hlt, ?_⟩
  rw [writeChunks_eq, writeAll_tape_cut (by rwa [chunks_length]), torn_take l r hlt]

theorem writeChunks_pass (cs : List Chunk) {bs : List UInt8} {q : Nat} (h : chunksSize cs ≤ q) :
    writeChunks cs (tape bs (some q) false) =
      (.ok (), tape (bs ++ cs.flatMap Chunk.bytes) (some (q - chunksSize cs)) false) := by
  rw [writeChunks_eq, writeAll_tape_pass (by rwa [chunks_length]), chunks_length]

theorem bodyOut_replays (hd : opt.manualDuplex = true) (hrep : replays env opt arrivals pages = true) :
    bodyOut env opt arrivals pages = (do
      writeChunks ((odds pages).flatMap (pageBlock env opt))
      backsOut env opt pages) := by
  unfold bodyOut
  rw [hd, hrep]
  rfl

/-- A job that is cut short stops there, except that a blank sheet may follow the pause. -/
theorem bodyOut_cut (bs : List UInt8) {q : Nat} (hq : q < chunksSize (jobChunks env opt arrivals pages)) :
    ∃ l c r q' stray, jobChunks env opt arrivals pages = l ++ c :: r ∧ q = chunksSize l + q' ∧
      q' < c.size ∧ (stray = [] ∨ c = pauseChunk ∧ stray = strayChunks env opt pages) ∧
      (bodyOut env opt arrivals pages (tape bs (some q) false)).2 =
        tape (bs ++ (l.flatMap Chunk.bytes ++ c.bytes.take q' ++ stray.flatMap Chunk.bytes)) none true := by
  cases hd : opt.manualDuplex with
  | false =>
    have hcs : jobChunks env opt arrivals pages =
        (printed env opt arrivals 0 pages).flatMap (pageBlock env opt) := by
      unfold jobChunks
      rw [hd]
      rfl
    have hbody : bodyOut env opt arrivals pages = writeChunks (jobChunks env opt arrivals pages) := by
      unfold bodyOut
      rw [hd, hcs]
      rfl
    obtain ⟨l, c, r, q', hsplit, hpos, hlt, hw⟩ := writeChunks_cut _ bs hq
    refine ⟨l, c, r, q', [], hsplit, hpos, hlt, .inl rfl, ?_⟩
    rw [hbody, hw, List.flatMap_nil, List.append_nil]
  | true =>
    cases hrep : replays env opt arrivals pages with
    | false =>
      have hcs : jobChunks env opt arrivals pages = [] := by
        unfold jobChunks
        rw [hd, hrep]
        rfl
      rw [hcs] at hq
      exact absurd hq (Nat.not_lt_zero _)
    | true =>
      set fronts := (odds pages).flatMap (pageBlock env opt)
      have hcs : jobChunks env opt arrivals pages =
          fronts ++ [pauseChunk] ++ afterPause env opt pages := by
        unfold jobChunks
        rw [hd, hrep]
        rfl
      have hsize : chunksSize [pauseChunk] = 16 := rfl
      rw [bodyOut_replays hd hrep, hcs]
      rw [hcs, chunksSize_append, chunksSize_append, hsize] at hq
      -- The cut is in the fronts, in the pause or behind it.
      rcases Nat.lt_or_ge q (chunksSize fronts) with hfront | hfront
      · obtain ⟨l, c, r, q', hsplit, hpos, hlt, hw⟩ := writeChunks_cut _ bs hfront
        refine ⟨l, c, r ++ [pauseChunk] ++ afterPause env opt pages, q', [], ?_, hpos, hlt, .inl rfl, ?_⟩
        · rw [hsplit, List.append_assoc, List.append_assoc, List.cons_append, List.append_assoc]
        · rw [bind_error hw, List.flatMap_nil, List.append_nil]
      rw [bind_ok (writeChunks_pass fronts hfront), backsOut_state, writeChunk_eq]
      rcases Nat.lt_or_ge (q - chunksSize fronts) 16 with hpause | hpause
      -- The failed pause does not keep the blank sheet back.
      · refine ⟨fronts, pauseChunk, afterPause env opt pages, q - chunksSize fronts,
          strayChunks env opt pages, ?_, by omega, hpause, .inr ⟨rfl, rfl⟩, ?_⟩
        · rw [List.append_assoc]
          rfl
        · rw [writeAll_tape_cut hpause]
          dsimp only
          rw [writeChunks_eq, writeAll_tape, List.append_assoc, List.append_assoc, List.append_assoc]
      · obtain ⟨l, c, r, q', hsplit, hpos, hlt, hw⟩ :=
          writeChunks_cut (q := q - chunksSize fronts - 16)
            (afterPause env opt pages) (bs ++ fronts.flatMap Chunk.bytes ++ pauseChunk.bytes) (by omega)
        refine ⟨fronts ++ [pauseChunk] ++ l, c, r, q', [], ?_, ?_, hlt, .inl rfl, ?_⟩
        · rw [hsplit, List.append_assoc (fronts ++ [pauseChunk])]
        · rw [chunksSize_append, chunksSize_append, hsize]
          omega
        · rw [writeAll_tape_pass hpause]
          dsimp only
          rw [show pauseChunk.bytes.length = 16 from rfl, hw]
          simp only [List.flatMap_append, List.flatMap_singleton, List.flatMap_nil, List.append_assoc,
            List.append_nil]

theorem bodyOut_pass {bs : List UInt8} {q : Nat} (hq : chunksSize (jobChunks env opt arrivals pages) ≤ q) :
    (bodyOut env opt arrivals pages (tape bs (some q) false)).2 =
      tape (bs ++ (jobChunks env opt arrivals pages).flatMap Chunk.bytes)
        (some (q - chunksSize (jobChunks env opt arrivals pages))) false := by
  cases hd : opt.manualDuplex with
  | false =>
    have hbody : bodyOut env opt arrivals pages = writeChunks (jobChunks env opt arrivals pages) := by
      unfold bodyOut jobChunks
      rw [hd]
      rfl
    rw [hbody, writeChunks_pass _ hq]
  | true =>
    cases hrep : replays env opt arrivals pages with
    | false =>
      have hbody : bodyOut env opt arrivals pages = pure () := by
        unfold bodyOut
        rw [hd, hrep]
        rfl
      have hcs : jobChunks env opt arrivals pages = [] := by
        unfold jobChunks
        rw [hd, hrep]
        rfl
      rw [hbody, hcs, List.flatMap_nil, List.append_nil]
      rfl
    | true =>
      set fronts := (odds pages).flatMap (pageBlock env opt)
      have hcs : jobChunks env opt arrivals pages =
          fronts ++ [pauseChunk] ++ afterPause env opt pages := by
        unfold jobChunks
        rw [hd, hrep]
        rfl
      have hsize : chunksSize [pauseChunk] = 16 := rfl
      rw [bodyOut_replays hd hrep, hcs]
      rw [hcs, chunksSize_append, chunksSize_append, hsize] at hq
      have hlen : pauseChunk.bytes.length = 16 := rfl
      rw [bind_ok (writeChunks_pass fronts (by omega)), backsOut_state, writeChunk_eq,
        writeAll_tape_pass (show pauseChunk.bytes.length ≤ _ by rw [hlen]; omega)]
      dsimp only
      rw [writeChunks_pass _ (by rw [hlen]; omega), hlen]
      simp only [List.flatMap_append, List.flatMap_singleton, List.append_assoc, chunksSize_append,
        hsize, Nat.sub_sub, Nat.add_assoc]

theorem headBytes_eq (rest : List UInt8) : headBytes ++ rest =
    uel ++ zjMagic ++ ([paramChunk, startDocChunk].flatMap Chunk.bytes ++ rest) := by
  rw [headBytes, List.append_assoc]

theorem headChunks_inner : ∀ c ∈ [paramChunk, startDocChunk], c.Inner := by
  intro c hc
  simp only [List.mem_cons, List.not_mem_nil, or_false] at hc
  rcases hc with rfl | rfl
  · exact ⟨⟨by decide, by decide, by decide⟩, by decide⟩
  · exact ⟨⟨by decide, by decide, by decide⟩, by decide⟩

theorem wellFormed_iff {rest : List UInt8} : WellFormed (uel ++ zjMagic ++ rest) ↔ Framed rest := by
  constructor
  · rintro ⟨rest', hsame, hf⟩
    rw [List.append_cancel_left hsame]
    exact hf
  · exact fun hf => ⟨rest, rfl, hf⟩

theorem wellFormed_head {rest : List UInt8} : WellFormed (headBytes ++ rest) ↔ Framed rest := by
  rw [headBytes_eq, wellFormed_iff, framed_chunks headChunks_inner]

theorem not_wellFormed_head {q : Nat} (h : q < headBytes.length) : ¬ WellFormed (headBytes.take q) := by
  intro hwf
  have h13 : (uel ++ zjMagic).length = 13 := rfl
  have hlen : (headBytes.take q).length = q := List.length_take_of_le h.le
  obtain ⟨rest, hrest, hf⟩ := hwf
  have hlong := congrArg List.length hrest
  rw [hlen, List.length_append, h13] at hlong
  obtain ⟨n, rfl⟩ : ∃ n, q = 13 + n := ⟨q - 13, by omega⟩
  have hsame : ([paramChunk, startDocChunk].flatMap Chunk.bytes).take n = rest := by
    rw [headBytes, ← h13, List.take_length_add_append] at hrest
    exact List.append_cancel_left hrest
  have hshort : n < chunksSize [paramChunk, startDocChunk] := by
    rw [headBytes, List.length_append, h13, chunks_length] at h
    omega
  rw [← hsame] at hf
  exact not_framed_take headChunks_inner hshort hf

theorem not_framed_tail {q : Nat} (h : q < tailBytes.length) : ¬ Framed (tailBytes.take q) := by
  intro hf
  have hlen : (tailBytes.take q).length = q := List.length_take_of_le h.le
  have h25 : tailBytes.length = 25 := rfl
  have hle := hf.length_le
  omega

/-- Where a job that is interrupted has left the stream in order. -/
def Between (cs : List Chunk) (q : Nat) : Prop := ∃ j < cs.length, q = chunksSize (cs.take j)

theorem Between.lt {cs : List Chunk} {q : Nat} (h : Between cs q) : q < chunksSize cs := by
  obtain ⟨j, hj, rfl⟩ := h
  have hsplit := chunksSize_append (cs.take j) (cs.drop j)
  rw [List.take_append_drop, List.drop_eq_getElem_cons hj, chunksSize_cons] at hsplit
  have hpos := cs[j].size_pos
  omega

theorem jobOut_head {p : Nat} (h : p < headBytes.length) :
    (jobOut env opt arrivals pages { cut := some p }).2.bytes = headBytes.take p := by
  have hstart : ({ cut := some p } : File) = tape [] (some p) false := rfl
  unfold jobOut
  rw [hstart, beginDoc_eq, bind_error (writeAll_tape_cut h), List.nil_append]
  rfl

theorem jobOut_body (q : Nat) :
    (jobOut env opt arrivals pages { cut := some (headBytes.length + q) }).2 =
      (endDoc (bodyOut env opt arrivals pages (tape headBytes (some q) false)).2).2 := by
  have hstart : ({ cut := some (headBytes.length + q) } : File) =
      tape [] (some (headBytes.length + q)) false := rfl
  unfold jobOut
  rw [hstart, beginDoc_eq, bind_ok (writeAll_tape_pass (Nat.le_add_right _ _)), List.nil_append,
    attempt_bind, Nat.add_sub_cancel_left]

/-- A chunk that is cut short is not made up for by what follows it. -/
theorem framed_cut {l : List Chunk} {c : Chunk} {q : Nat} {stray : List Chunk}
    (hl : ∀ d ∈ l, d.Inner) (hc : c.Inner) (hq : q < c.size)
    (hstray : stray = [] ∨ c = pauseChunk ∧ stray = strayChunks env opt pages) :
    Framed (l.flatMap Chunk.bytes ++ c.bytes.take q ++ stray.flatMap Chunk.bytes ++ tailBytes) ↔
      q = 0 := by
  rw [List.append_assoc, List.append_assoc, framed_chunks hl]
  have hinner : ∀ d ∈ stray, d.Inner := by
    rcases hstray with rfl | ⟨-, rfl⟩
    · exact fun d hd => absurd hd List.not_mem_nil
    · exact strayChunks_inner
  constructor
  · intro hf
    by_contra hne
    have hpos : 0 < q := Nat.pos_of_ne_zero hne
    by_cases hnil : stray = []
    · rw [hnil, List.flatMap_nil, List.nil_append] at hf
      exact not_framed_torn hc hq (.inr ⟨rfl, hpos⟩) hf
    · obtain ⟨rfl, rfl⟩ := hstray.resolve_left hnil
      obtain ⟨hdr, lay, bie, hpage⟩ := (strayChunks_cases env opt pages).resolve_left hnil
      rw [hpage] at hf
      exact not_framed_pause hdr lay bie hpos hq hf
  · rintro rfl
    rw [List.take_zero, List.nil_append, framed_chunks hinner]
    exact .close

theorem jobOut_cut (q : Nat) :
    WellFormed (jobOut env opt arrivals pages { cut := some (headBytes.length + q) }).2.bytes ↔
      chunksSize (jobChunks env opt arrivals pages) + tailBytes.length ≤ q ∨
        Between (jobChunks env opt arrivals pages) q := by
  have hinner : ∀ c ∈ jobChunks env opt arrivals pages, c.Inner := jobChunks_inner
  rw [jobOut_body, endDoc_eq]
  rcases Nat.lt_or_ge q (chunksSize (jobChunks env opt arrivals pages)) with hin | hout
  · obtain ⟨l, c, r, q', stray, hsplit, rfl, hlt, hstray, hrun⟩ := bodyOut_cut headBytes hin
    rw [hsplit] at hinner hin ⊢
    have hl : ∀ d ∈ l, d.Inner := fun d hd => hinner d (List.mem_append_left _ hd)
    have hc := hinner c (List.mem_append_right l List.mem_cons_self)
    have hbetween : Between (l ++ c :: r) (chunksSize l + q') ↔ q' = 0 := torn_start l r hlt
    rw [hrun, writeAll_tape, hbetween]
    change WellFormed (_ ++ _ ++ _) ↔ _
    rw [List.append_assoc, wellFormed_head, framed_cut hl hc hlt hstray]
    exact ⟨.inr, fun h => h.resolve_left (by omega)⟩
  · have hnot : ¬ Between (jobChunks env opt arrivals pages) q := fun hb => by
      have hlt := hb.lt
      omega
    rw [bodyOut_pass hout]
    set bs := headBytes ++ (jobChunks env opt arrivals pages).flatMap Chunk.bytes with hbs
    rcases Nat.lt_or_ge (q - chunksSize (jobChunks env opt arrivals pages)) tailBytes.length with ht | ht
    · rw [writeAll_tape_cut ht]
      change WellFormed (_ ++ _) ↔ _
      rw [hbs, List.append_assoc, wellFormed_head, framed_chunks hinner]
      apply iff_of_false (not_framed_tail ht)
      rintro (h | h)
      · omega
      · exact hnot h
    · rw [writeAll_tape_pass ht]
      change WellFormed (_ ++ _) ↔ _
      rw [hbs, List.append_assoc, wellFormed_head, framed_chunks hinner]
      exact iff_of_true .close (.inl (by omega))

theorem main_silent (s : Filter)
    (h : ¬ (env.rasterOpens = true ∧ (opt.manualDuplex = true → env.spoolsOpen = true))) :
    (main env opt s).2.stdout = s.stdout := by
  cases hr : env.rasterOpens
  · unfold main
    rw [msg_bind, hr]
    split <;> rfl
  · have hclosed : opt.manualDuplex = true ∧ env.spoolsOpen = false := by
      simpa [hr] using h
    unfold main
    rw [msg_bind, hclosed.1, hclosed.2]
    rfl

theorem not_wellFormed_nil : ¬ WellFormed [] := by
  rintro ⟨rest, hrest, -⟩
  exact absurd hrest.symm (by simp [uel])

/-- A job that is interrupted leaves a well-formed stream when the write that is cut short is that of
a whole chunk between the head of the document and its end, and in no other case. -/
theorem interrupted_wellFormed (env : Env) (opt : JobOptions) (r : RasterStream) (arrivals : List Bool)
    (p : Nat) :
    WellFormed (main env opt (.start r arrivals (some p))).2.stdout.bytes ↔
      (env.rasterOpens = true ∧ (opt.manualDuplex = true → env.spoolsOpen = true)) ∧
        ((frame ((jobChunks env opt arrivals r.pages).flatMap Chunk.bytes)).length ≤ p ∨
          ∃ q, p = headBytes.length + q ∧ Between (jobChunks env opt arrivals r.pages) q) := by
  by_cases hopen : env.rasterOpens = true ∧ (opt.manualDuplex = true → env.spoolsOpen = true)
  · obtain ⟨st, t, hrun, hout, -⟩ := main_spec hopen.1 hopen.2 r arrivals (some p)
    have hlen : (frame ((jobChunks env opt arrivals r.pages).flatMap Chunk.bytes)).length =
        headBytes.length + (chunksSize (jobChunks env opt arrivals r.pages) + tailBytes.length) := by
      rw [frame, List.length_append, List.length_append, chunks_length, Nat.add_assoc]
    rw [hrun, hout, hlen, and_iff_right hopen]
    rcases Nat.lt_or_ge p headBytes.length with hp | hp
    · rw [jobOut_head hp]
      apply iff_of_false (not_wellFormed_head hp)
      rintro (h | ⟨q, hq, -⟩)
      · exact absurd (Nat.le_of_add_right_le h) (Nat.not_le.mpr hp)
      · exact absurd (hq ▸ Nat.le_add_right _ q) (Nat.not_le.mpr hp)
    · obtain ⟨q, hq⟩ := Nat.exists_eq_add_of_le hp
      rw [hq]
      have hsame : (∃ q', headBytes.length + q = headBytes.length + q' ∧
          Between (jobChunks env opt arrivals r.pages) q') ↔
          Between (jobChunks env opt arrivals r.pages) q :=
        ⟨fun ⟨q', h, hb⟩ => Nat.add_left_cancel h ▸ hb, fun hb => ⟨q, rfl, hb⟩⟩
      rw [jobOut_cut, hsame, Nat.add_le_add_iff_left]
  · rw [main_silent _ hopen]
    exact iff_of_false not_wellFormed_nil fun h => hopen h.1

/-- A page of one dot, interrupted when eight bytes of its START_PAGE chunk are out. -/
theorem dotPage_torn : ¬ WellFormed (main dotEnv dotOptions.simplex
    (.start dotPage.alone [] (some (headBytes.length + 8)))).2.stdout.bytes := by
  obtain ⟨st, t, hrun, hout, -⟩ := @main_spec dotEnv dotOptions.simplex rfl nofun
    dotPage.alone [] (some (headBytes.length + 8))
  rw [hrun, hout, jobOut_cut]
  unfold Between
  decide +kernel

end PantumOpen.Print
