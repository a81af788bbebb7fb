import PantumOpen.Print.Duplex

/-! The page lines of a job against the pages in its stream. -/

namespace PantumOpen.Print
open Prog Stdio

variable {env : Env} {opt : JobOptions}

def Entry.copies : Entry → Option (Option Nat)
  | .chunk _ _ type _ _ items _ =>
    if type = zjtStartPage then
      some ((items.find? fun item => item.type == zjiDmcopies.toNat).map ItemRecord.value)
    else none
  | _ => none

def announcedCopies (stream : List UInt8) : List (Option Nat) :=
  match parse stream with
  | .ok entries => entries.filterMap Entry.copies
  | .error _ => []

def printOrder {α : Type} (opt : JobOptions) (l : List α) : List α :=
  if opt.manualDuplex then odds l ++ (evens l).reverse else l

/-- The page lines are numbered from 1 on, and each tells the copies of the page in the stream. -/
def Accounted (opt : JobOptions) (s : Filter) : Prop :=
  (s.pageLines.map fun line => line.1.toNat) = List.range' 1 s.pageLines.length ∧
    announcedCopies s.stdout.bytes = (printOrder opt s.pageLines).map fun line => some line.2.toNat

def Chunk.copies (c : Chunk) : Option (Option Nat) :=
  if c.type = zjtStartPage then
    some ((c.items.find? fun item => item.type == zjiDmcopies).map fun item => item.value.toNat)
  else none

theorem entry_copies (pos : Nat) (c : Chunk) : (c.entry pos).copies = c.copies := by
  have hfind (items : List ZjItem) :
      ((items.map ZjItem.entry).find? fun item => item.type == zjiDmcopies.toNat).map
          ItemRecord.value =
        (items.find? fun item => item.type == zjiDmcopies).map fun item => item.value.toNat := by
    induction items with
    | nil => rfl
    | cons item items ih =>
      have hsame : (item.entry.type == zjiDmcopies.toNat) = (item.type == zjiDmcopies) := by
        rw [Bool.eq_iff_iff, beq_iff_eq, beq_iff_eq]
        exact UInt16.toNat_inj
      rw [List.map_cons, List.find?_cons, List.find?_cons, hsame]
      cases item.type == zjiDmcopies
      · exact ih
      · rfl
  unfold Chunk.entry Entry.copies Chunk.copies
  dsimp only
  rw [hfind]

theorem chunkEntries_copies (pos : Nat) (cs : List Chunk) :
    (chunkEntries pos cs).filterMap Entry.copies = cs.filterMap Chunk.copies := by
  induction cs generalizing pos with
  | nil => rfl
  | cons c cs ih =>
    rw [chunkEntries, List.filterMap_cons, List.filterMap_cons, entry_copies, ih]

theorem pageChunks_copies (hdr : PageHeader) (lay : PageLayout) (bie : List UInt8) :
    (pageChunks hdr lay opt bie).filterMap Chunk.copies = [some hdr.copies.toNat] := by
  have hitem : Chunk.copies { type := zjtStartPage, items := pageItems hdr lay opt } =
      some (some hdr.copies.toNat) := by
    unfold Chunk.copies pageItems
    by_cases h : lay.dmpaper = 0
    · simp [h, zjiDmpaper, zjiCustomUnit, zjiCustomWidth, zjiCustomHeight, zjiDmcopies,
        PageHeader.copies]
    · simp [h, zjiDmpaper, zjiDmcopies, PageHeader.copies]
  have hbids (bids : List (List UInt8)) :
      (bids.map fun raw => ({ type := zjtJbigBid, raw := raw } : Chunk)).filterMap Chunk.copies = [] := by
    rw [List.filterMap_map]
    exact List.filterMap_eq_nil_iff.mpr fun raw _ => rfl
  unfold pageChunks pageChunksOf
  rw [List.cons_append, List.filterMap_cons, hitem, List.filterMap_append, List.filterMap_cons, hbids]
  rfl

theorem pageBlocks_copies (pages : List RasterPage) :
    (pages.flatMap (pageBlock env opt)).filterMap Chunk.copies =
      pages.map fun p => some p.hdr.copies.toNat := by
  induction pages with
  | nil => rfl
  | cons p pages ih =>
    rw [List.flatMap_cons, List.filterMap_append, ih]
    exact congrArg (· ++ _) (pageChunks_copies _ _ _)

theorem bodyChunks_fits (pages : List RasterPage) : ∀ c ∈ bodyChunks env opt pages, c.Fits := by
  have hpages (ps : List RasterPage) : ∀ c ∈ ps.flatMap (pageBlock env opt), c.Fits := by
    intro c hc
    obtain ⟨p, -, hp⟩ := List.mem_flatMap.mp hc
    exact pageChunks_fits _ _ _ _ c hp
  intro c hc
  unfold bodyChunks duplexChunks at hc
  split at hc
  · rw [List.mem_append, List.mem_append, List.mem_append] at hc
    rcases hc with ((hc | hc) | hc) | hc
    · exact hpages _ c hc
    · obtain rfl := List.mem_singleton.mp hc
      exact ⟨by decide, by decide, by decide⟩
    · split at hc
      · exact absurd hc List.not_mem_nil
      · exact pageChunks_fits _ _ _ _ c hc
    · exact hpages _ c hc
  · exact hpages _ c hc

theorem announcedCopies_frame {cs : List Chunk} (h : ∀ c ∈ cs, c.Fits) :
    announcedCopies (frame (cs.flatMap Chunk.bytes)) = cs.filterMap Chunk.copies := by
  have hstream : frame (cs.flatMap Chunk.bytes) =
      uel ++ zjMagic ++ ([paramChunk, startDocChunk] ++ cs ++ [endDocChunk]).flatMap Chunk.bytes ++
        uel := by
    simp only [frame, headBytes, tailBytes, List.flatMap_append, List.flatMap_singleton,
      List.append_assoc]
  have hfits : ∀ c ∈ [paramChunk, startDocChunk] ++ cs ++ [endDocChunk], c.Fits := by
    intro c hc
    simp only [List.mem_append, List.mem_cons, List.not_mem_nil, or_false] at hc
    rcases hc with ((rfl | rfl) | hc) | rfl
    · exact ⟨by decide, by decide, by decide⟩
    · exact ⟨by decide, by decide, by decide⟩
    · exact h c hc
    · exact ⟨by decide, by decide, by decide⟩
  unfold announcedCopies
  rw [hstream, parse_stream hfits]
  dsimp only
  have hhead : [paramChunk, startDocChunk].filterMap Chunk.copies = [] := rfl
  have htail : [endDocChunk].filterMap Chunk.copies = [] := rfl
  rw [List.filterMap_append, List.filterMap_append, chunkEntries_copies, List.filterMap_append,
    List.filterMap_append, hhead, htail, List.append_nil, List.nil_append]
  exact List.append_nil _

theorem bodyChunks_copies (pages : List RasterPage) :
    (bodyChunks env opt pages).filterMap Chunk.copies =
      if opt.manualDuplex then
        ((odds pages).map fun p => some p.hdr.copies.toNat) ++
          (if pages.length % 2 = 0 then [] else [some (progressAfter pages).lastHdr.copies.toNat]) ++
          ((evens pages).reverse.map fun p => some p.hdr.copies.toNat)
      else pages.map fun p => some p.hdr.copies.toNat := by
  unfold bodyChunks
  split
  · have hpause : [pauseChunk].filterMap Chunk.copies = [] := rfl
    unfold duplexChunks
    rw [List.filterMap_append, List.filterMap_append, List.filterMap_append, pageBlocks_copies,
      pageBlocks_copies, hpause, List.append_nil]
    split
    · rfl
    · rw [blankBlock, pageChunks_copies]
  · exact pageBlocks_copies pages

theorem pageNumbers_iff (n : Nat) :
    ((List.range n).map fun i => (pageNumber i).toNat) = List.range' 1 n ↔ n < 2 ^ 32 := by
  have hnum (i : Nat) : (pageNumber i).toNat = (i + 1) % 2 ^ 32 := UInt32.toNat_ofNat'
  have hrange : List.range' 1 n = (List.range n).map fun i => i + 1 := by
    rw [List.range'_eq_map_range]
    simp only [Nat.add_comm]
  rw [hrange]
  constructor
  · intro h
    by_contra hn
    have hmem : 2 ^ 32 - 1 ∈ List.range n := List.mem_range.mpr (by omega)
    have hwrap := List.map_inj_left.mp h _ hmem
    rw [hnum] at hwrap
    exact absurd hwrap (by decide)
  · intro h
    apply List.map_congr_left
    intro i hi
    have hi := List.mem_range.mp hi
    rw [hnum, Nat.mod_eq_of_lt (by omega)]

def jobLines (opt : JobOptions) (pages : List RasterPage) : List (UInt32 × UInt32) :=
  linesOf pages ++ if opt.manualDuplex then blankLine pages else []

def sides (opt : JobOptions) (pages : List RasterPage) : Nat :=
  pages.length + if opt.manualDuplex then pages.length % 2 else 0

theorem jobLines_numbers (pages : List RasterPage) :
    ((jobLines opt pages).map fun line => line.1.toNat) =
      (List.range (sides opt pages)).map fun i => (pageNumber i).toNat := by
  have hlines : ((linesOf pages).map fun line => line.1.toNat) =
      (List.range pages.length).map fun i => (pageNumber i).toNat := by
    unfold linesOf
    rw [List.map_map, List.range_eq_range', ← List.zipIdx_map_snd 0 pages, List.map_map]
    rfl
  unfold jobLines sides blankLine
  cases opt.manualDuplex
  · simpa using hlines
  · rcases Nat.mod_two_eq_zero_or_one pages.length with he | he
    · simpa [he] using hlines
    · simp [he, hlines, List.range_succ]

theorem linesOf_copies (pages : List RasterPage) :
    ((linesOf pages).map fun line => some line.2.toNat) =
      pages.map fun p => some p.hdr.copies.toNat := by
  unfold linesOf
  rw [List.map_map]
  conv_rhs => rw [← List.zipIdx_map_fst 0 pages, List.map_map]
  rfl

theorem copies_eq_one {hdr : PageHeader} : hdr.copies.toNat = 1 ↔ hdr.numCopies ≤ 1 := by
  have hle : hdr.numCopies ≤ 1 ↔ hdr.numCopies.toNat ≤ 1 := UInt32.le_iff_toNat_le
  have hzero : hdr.numCopies = 0 ↔ hdr.numCopies.toNat = 0 := UInt32.toNat_inj.symm
  unfold PageHeader.copies
  rw [hle]
  split
  · rename_i h
    rw [ne_eq, hzero] at h
    omega
  · rename_i h
    have h := hzero.mp (not_not.mp h)
    simp [h]

theorem printOrder_copies (pages : List RasterPage) :
    (bodyChunks env opt pages).filterMap Chunk.copies =
        ((printOrder opt (jobLines opt pages)).map fun line => some line.2.toNat) ↔
      opt.manualDuplex = false ∨ pages.length % 2 = 0 ∨
        (progressAfter pages).lastHdr.numCopies ≤ 1 := by
  obtain ⟨hodds, hevens⟩ := odds_evens_map (fun p : RasterPage => some p.hdr.copies.toNat) pages
  rw [bodyChunks_copies]
  unfold printOrder jobLines blankLine
  cases hd : opt.manualDuplex
  · simp [linesOf_copies]
  · obtain ⟨lodds, levens⟩ := odds_evens_map (fun line : UInt32 × UInt32 => some line.2.toNat)
      (linesOf pages)
    rw [linesOf_copies] at lodds levens
    by_cases he : pages.length % 2 = 0
    · simp [he, ← lodds, ← levens, hodds, hevens]
    · have hlen : (linesOf pages).length % 2 = 1 := by
        simp only [linesOf, List.length_map, List.length_zipIdx]
        omega
      obtain ⟨hfirst, hsecond⟩ := odds_evens_append (linesOf pages) (pageNumber pages.length, (1 : UInt32))
      simp only [hlen, Nat.one_ne_zero, if_false, List.append_nil] at hfirst hsecond
      have hone : (1 : UInt32).toNat = 1 := rfl
      simp [he, hfirst, hsecond, ← lodds, ← levens, hodds, hevens, hone, copies_eq_one]

/-- A job that completes has its pages accounted for, unless the counter wraps or the blank sheet of
a manual duplex job is printed more than once. -/
theorem accounted_iff {r : RasterStream} {arrivals : List Bool}
    (h : Completes env opt (.start r arrivals none)) :
    Accounted opt (main env opt (.start r arrivals none)).2 ↔
      sides opt r.pages < 2 ^ 32 ∧ (opt.manualDuplex = false ∨ r.pages.length % 2 = 0 ∨
        ∀ last, r.pages.getLast? = some last → last.hdr.numCopies ≤ 1) := by
  obtain ⟨-, s, hdone, -, -, hnone, -⟩ := h.completed
  have hlines : (main env opt (.start r arrivals none)).2.pageLines = jobLines opt r.pages := by
    rw [hdone.lines, hnone]
    rfl
  have hlen : (jobLines opt r.pages).length = sides opt r.pages := by
    have hnum := congrArg List.length (@jobLines_numbers opt r.pages)
    simpa using hnum
  have hlast : (progressAfter r.pages).lastHdr.numCopies ≤ 1 ↔
      ∀ last, r.pages.getLast? = some last → last.hdr.numCopies ≤ 1 := by
    unfold progressAfter
    cases r.pages.getLast? with
    | none => exact ⟨fun _ => nofun, fun _ => show PageHeader.zero.numCopies ≤ 1 by decide⟩
    | some last => exact ⟨fun hle q hq => Option.some.inj hq ▸ hle, fun hall => hall last rfl⟩
  unfold Accounted
  rw [hlines, hlen, jobLines_numbers, pageNumbers_iff, h.stdout,
    announcedCopies_frame (bodyChunks_fits r.pages), printOrder_copies, hlast]

/-- The page lines tell of one copy of the blank sheet where the stream asks for three. -/
theorem dotPage_unaccounted : Completes dotEnv dotOptions (.start dotPage.alone [] none) ∧
    ¬ Accounted dotOptions (main dotEnv dotOptions (.start dotPage.alone [] none)).2 := by
  refine ⟨dotPage_completes, ?_⟩
  unfold Accounted
  decide +kernel

theorem accounted_iff_dotPages :
    Accounted dotOptions (main dotEnv dotOptions (.start dotPages [] none)).2 ↔
      sides dotOptions dotPages.pages < 2 ^ 32 ∧ (dotOptions.manualDuplex = false ∨
        dotPages.pages.length % 2 = 0 ∨
        ∀ last, dotPages.pages.getLast? = some last → last.hdr.numCopies ≤ 1) :=
  accounted_iff dotPages_complete

end PantumOpen.Print
