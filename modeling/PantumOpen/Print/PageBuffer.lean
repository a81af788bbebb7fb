import PantumOpen.Lib.Cells
import PantumOpen.Print.PageOutcome

/-! The buffer a compressed page is collected in, down to the block behind it: a page is complete or it
is not sent. -/

namespace PantumOpen.Print
open Prog Cells

/-- `buf_t` with the block it points to; no block is an empty one. -/
structure BufBlock where
  block : Cells := []
  len : Nat := 0
  cap : Nat := 0
  failed : Bool := false

/-- What can go wrong in `buf_append` besides an allocation: a copy past the end of the block, or a
doubling loop that goes on for ever. -/
inductive BufFault
  | bounds | endless
  deriving DecidableEq, Repr

/-- The doubling loop of `buf_append` in `size_t`, up to `n` tests of its condition. After 64 doublings
every capacity is 0, so that 65 tests tell whether it ends. -/
def doubleCap (need : Nat) : Nat → Nat → Option Nat
  | 0, _ => none
  | n + 1, cap => if cap < need then doubleCap need n (cap * 2 % 2 ^ 64) else some cap

def realloc (block : Cells) (cap : Nat) : Cells := (block ++ fresh (cap - block.length)).take cap

def copyIn (src : List UInt8) : Prog BufFault BufBlock Unit := do
  let b ← read
  if b.len + src.length ≤ b.block.length then
    modify fun b => { b with block := b.block.splice b.len src, len := b.len + src.length }
  else fail .bounds

def appendMem (room : Bool) (src : List UInt8) : Prog BufFault BufBlock Unit := do
  let b ← read
  if b.failed then pure ()
  else if (b.len + src.length) % 2 ^ 64 > b.cap then
    match doubleCap ((b.len + src.length) % 2 ^ 64) 65 (if b.cap = 0 then 65536 else b.cap) with
    | none => fail .endless
    | some cap =>
      if room then do
        modify fun b => { b with block := realloc b.block cap, cap := cap }
        copyIn src
      else modify fun b => { b with failed := true }
  else copyIn src

def collectMem (grow : Nat → Bool) : Nat → List (List UInt8) → Prog BufFault BufBlock Unit
  | _, [] => pure ()
  | i, piece :: pieces => do
    appendMem (grow i) piece
    collectMem grow (i + 1) pieces

structure BufBlock.Holds (b : BufBlock) (d : Buf) : Prop where
  alloc : b.block.length = b.cap
  cap : b.cap = d.cap
  least : b.cap = 0 ∨ 65536 ≤ b.cap
  len : b.len = d.data.length
  fits : b.len ≤ b.cap
  data : b.block.take b.len = d.data.map some
  failed : b.failed = d.failed

theorem BufBlock.empty_holds : BufBlock.Holds {} {} :=
  ⟨rfl, rfl, .inl rfl, rfl, le_rfl, rfl, rfl⟩

/-- The doubling loop ends with enough room where that much can be had. -/
theorem doubleCap_ends {need n cap : Nat} (hneed : need < 2 ^ 63) (h : need ≤ cap * 2 ^ n) :
    doubleCap need (n + 1) cap = some (growCap need n cap) ∧ need ≤ growCap need n cap ∧
      cap ≤ growCap need n cap := by
  induction n generalizing cap with
  | zero =>
    rw [Nat.pow_zero, Nat.mul_one] at h
    rw [doubleCap, if_neg (Nat.not_lt.mpr h), growCap]
    exact ⟨rfl, h, le_rfl⟩
  | succ n ih =>
    rw [doubleCap, growCap]
    by_cases hlt : cap < need
    · have hmod : cap * 2 % 2 ^ 64 = cap * 2 := Nat.mod_eq_of_lt (by omega)
      rw [if_pos hlt, if_pos hlt, hmod]
      have hmore : need ≤ cap * 2 * 2 ^ n := by rwa [Nat.mul_assoc, ← Nat.pow_succ']
      obtain ⟨hends, henough, hle⟩ := ih hmore
      exact ⟨hends, henough, by omega⟩
    · rw [if_neg hlt, if_neg hlt]
      exact ⟨rfl, Nat.not_lt.mp hlt, le_rfl⟩

theorem realloc_length (block : Cells) (cap : Nat) : (realloc block cap).length = cap := by
  unfold realloc fresh
  rw [List.length_take, List.length_append, List.length_replicate]
  omega

theorem realloc_take {block : Cells} {n cap : Nat} (hn : n ≤ block.length) (hcap : n ≤ cap) :
    (realloc block cap).take n = block.take n := by
  unfold realloc
  rw [List.take_take, Nat.min_eq_left hcap, List.take_append_of_le_length hn]

theorem copyIn_holds {b : BufBlock} {d : Buf} (h : b.Holds d) {src : List UInt8}
    (hfit : b.len + src.length ≤ b.cap) :
    Runs (copyIn src) (fun _ t => t.Holds { d with data := d.data ++ src }) b := by
  have hroom : b.len + src.length ≤ b.block.length := by rwa [h.alloc]
  refine ⟨(), { b with block := b.block.splice b.len src, len := b.len + src.length }, ?_, ?_⟩
  · unfold copyIn
    rw [read_bind, if_pos hroom]
    rfl
  · refine ⟨(splice_length hroom).trans h.alloc, h.cap, h.least, ?_, hfit, ?_, h.failed⟩
    · rw [List.length_append, ← h.len]
    · have hpre : (b.block.take b.len ++ src.map some).length = b.len + src.length := by
        rw [List.length_append, List.length_take, List.length_map, Nat.min_eq_left (by omega)]
      dsimp only
      unfold splice
      rw [List.map_append, ← h.data, ← hpre, List.take_left]

theorem BufBlock.Holds.grow {b : BufBlock} {d : Buf} (h : b.Holds d) {cap : Nat} (hle : b.cap ≤ cap)
    (hleast : 65536 ≤ cap) :
    BufBlock.Holds { b with block := realloc b.block cap, cap := cap } { d with cap := cap } := by
  have hfits := h.fits
  have halloc := h.alloc
  have hroom : b.len ≤ b.block.length := by rwa [halloc]
  have hcap : b.len ≤ cap := hfits.trans hle
  refine ⟨realloc_length _ _, rfl, .inr hleast, h.len, hcap, ?_, h.failed⟩
  show (realloc b.block cap).take b.len = _
  rw [realloc_take hroom hcap]
  exact h.data

theorem appendMem_failed (room : Bool) (src : List UInt8) {b : BufBlock} (h : b.failed = true) :
    appendMem room src b = (.ok (), b) := by
  unfold appendMem
  rw [read_bind, if_pos h]
  rfl

/-- One append does to the block what it does to the bytes. -/
theorem appendMem_holds {b : BufBlock} {d : Buf} (h : b.Holds d) (room : Bool) {src : List UInt8}
    (hlen : d.data.length + src.length < 2 ^ 63) :
    Runs (appendMem room src) (fun _ t => t.Holds (bufAppend room d src)) b := by
  by_cases hf : b.failed = true
  · rw [bufAppend_failed room src (h.failed.symm.trans hf)]
    exact ⟨(), b, appendMem_failed room src hf, h⟩
  have hneed : (b.len + src.length) % 2 ^ 64 = d.data.length + src.length := by
    rw [h.len]
    exact Nat.mod_eq_of_lt (by omega)
  have hcap := h.cap
  have hfd : ¬ d.failed = true := by rwa [← h.failed]
  have hmem : appendMem room src b = (if (b.len + src.length) % 2 ^ 64 > b.cap then
      match doubleCap ((b.len + src.length) % 2 ^ 64) 65 (if b.cap = 0 then 65536 else b.cap) with
      | none => fail .endless
      | some cap =>
        if room then do
          modify fun b => { b with block := realloc b.block cap, cap := cap }
          copyIn src
        else modify fun b => { b with failed := true }
      else copyIn src : Prog BufFault BufBlock Unit) b := by
    unfold appendMem
    rw [read_bind, if_neg hf]
  unfold Runs
  rw [hmem]
  change Runs _ _ b
  unfold bufAppend
  rw [if_neg hfd, hneed, ← hcap]
  -- Below half of the address space neither the sum nor the doubling wraps around.
  by_cases hmore : d.data.length + src.length > b.cap
  · rw [if_pos hmore, if_pos hmore]
    have hstart : 65536 ≤ (if b.cap = 0 then 65536 else b.cap) ∧
        b.cap ≤ (if b.cap = 0 then 65536 else b.cap) := by
      have hleast := h.least
      split <;> omega
    have hreach : d.data.length + src.length ≤ (if b.cap = 0 then 65536 else b.cap) * 2 ^ 64 := by
      omega
    obtain ⟨hends, henough, hle⟩ := doubleCap_ends hlen hreach
    rw [hends]
    cases room
    · exact ⟨(), _, rfl, h.alloc, rfl, h.least, h.len, h.fits, h.data, rfl⟩
    · have hgrown := h.grow (hstart.2.trans hle) (hstart.1.trans hle)
      refine Runs.bind (Q := fun _ t => t = _) ⟨(), _, rfl, rfl⟩ ?_
      rintro _ _ rfl
      apply copyIn_holds hgrown
      dsimp only
      rw [h.len]
      exact henough
  · rw [if_neg hmore, if_neg hmore]
    have hfit : b.len + src.length ≤ b.cap := by
      rw [h.len]
      exact Nat.not_lt.mp hmore
    have hcopied := copyIn_holds h hfit
    rwa [← hcap] at hcopied

theorem bufAppend_length (room : Bool) (b : Buf) (src : List UInt8) :
    (bufAppend room b src).data.length ≤ b.data.length + src.length := by
  have hsame : b.data.length ≤ b.data.length + src.length := by omega
  have hmore : (b.data ++ src).length ≤ b.data.length + src.length := by rw [List.length_append]
  unfold bufAppend
  split
  · exact hsame
  · split
    · split
      · exact hmore
      · exact hsame
    · exact hmore

/-- Piece number `i` is appended when `realloc` answers as it would for that piece. -/
def appendPiece (grow : Nat → Bool) (b : Buf × Nat) (piece : List UInt8) : Buf × Nat :=
  (bufAppend (grow b.2) b.1 piece, b.2 + 1)

theorem jbigCollect_eq (grow : Nat → Bool) (pieces : List (List UInt8)) :
    jbigCollect grow pieces = (pieces.foldl (appendPiece grow) ({}, 0)).1 := rfl

theorem collectMem_holds {grow : Nat → Bool} {pieces : List (List UInt8)} {i : Nat} {b : BufBlock}
    {d : Buf} (h : b.Holds d) (hlen : d.data.length + pieces.flatten.length < 2 ^ 63) :
    Runs (collectMem grow i pieces)
      (fun _ t => t.Holds (pieces.foldl (appendPiece grow) (d, i)).1) b := by
  induction pieces generalizing i b d with
  | nil => exact ⟨(), b, rfl, h⟩
  | cons piece pieces ih =>
    rw [List.flatten_cons, List.length_append] at hlen
    have hone := bufAppend_length (grow i) d piece
    apply Runs.bind (appendMem_holds h (grow i) (by omega))
    intro _ t ht
    have hrest : (bufAppend (grow i) d piece).data.length + pieces.flatten.length < 2 ^ 63 := by omega
    exact ih ht hrest

theorem appendPiece_failed {grow : Nat → Bool} {pieces : List (List UInt8)} {b : Buf × Nat}
    (h : b.1.failed = true) : (pieces.foldl (appendPiece grow) b).1 = b.1 := by
  induction pieces generalizing b with
  | nil => rfl
  | cons piece pieces ih =>
    have hsame : (appendPiece grow b piece).1 = b.1 := bufAppend_failed _ piece h
    rw [List.foldl_cons, ih (by rwa [hsame]), hsame]

theorem jbigCollect_sticky {grow : Nat → Bool} {pieces : List (List UInt8)} {n : Nat}
    (h : (jbigCollect grow (pieces.take n)).failed = true) :
    jbigCollect grow pieces = jbigCollect grow (pieces.take n) := by
  rw [jbigCollect_eq] at h
  have hsplit : jbigCollect grow pieces =
      ((pieces.drop n).foldl (appendPiece grow) ((pieces.take n).foldl (appendPiece grow) ({}, 0))).1 := by
    rw [← List.foldl_append, List.take_append_drop, jbigCollect_eq]
  rw [hsplit, appendPiece_failed h, jbigCollect_eq]

def BufBlock.Sized (b : BufBlock) : Prop := b.block.length = b.cap

theorem copyIn_sized {b : BufBlock} (h : b.Sized) (src : List UInt8) :
    (copyIn src b).2.Sized := by
  unfold copyIn
  rw [read_bind]
  split
  · rename_i hroom
    exact (splice_length hroom).trans h
  · exact h

theorem appendMem_sized {b : BufBlock} (h : b.Sized) (room : Bool) (src : List UInt8) :
    (appendMem room src b).2.Sized := by
  unfold appendMem
  rw [read_bind]
  generalize doubleCap ((b.len + src.length) % 2 ^ 64) 65 (if b.cap = 0 then 65536 else b.cap) = grown
  split
  · exact h
  split
  · rcases grown with _ | cap
    · exact h
    · cases room
      · exact h
      · have hgrown : BufBlock.Sized { b with block := realloc b.block cap, cap := cap } :=
          realloc_length _ _
        exact copyIn_sized hgrown src
  · exact copyIn_sized h src

theorem collectMem_sized {grow : Nat → Bool} {pieces : List (List UInt8)} {i : Nat} {b : BufBlock}
    (h : b.Sized) : (collectMem grow i pieces b).2.Sized := by
  induction pieces generalizing i b with
  | nil => exact h
  | cons piece pieces ih =>
    have hone := appendMem_sized h (grow i) piece
    rw [collectMem]
    rcases hp : appendMem (grow i) piece b with ⟨e | u, t⟩
    · rw [hp] at hone
      rwa [bind_error hp]
    · rw [hp] at hone
      rw [bind_ok hp]
      exact ih hone

/-- Either the image is the pieces in order, or nothing of the page is written; a failure stays; the
capacity is that of the block; and below 2^63 bytes the block holds what has been appended. -/
theorem page_complete_or_unsent (env : Env) (page : UInt32) (k : Sink) (hdr : PageHeader)
    (lay : PageLayout) (opt : JobOptions) (bitmap : List UInt8) (bmpW bmpH : UInt32) (s : Filter) :
    let pieces := env.jbig bitmap (bmpW * lay.depth) bmpH
    let grow := (env.allocs page).grow
    let compress := jbigCompress env page bitmap (bmpW * lay.depth) bmpH s
    let finish := finishPage env page k hdr lay opt bitmap bmpW bmpH s
    (compress = (.ok pieces.flatten, s) ∨
      compress.1 = .error () ∧ finish.1 = .error () ∧ finish.2.files = s.files) ∧
    (∀ n, (jbigCollect grow (pieces.take n)).failed = true →
      jbigCollect grow pieces = jbigCollect grow (pieces.take n)) ∧
    (∀ n, (collectMem grow 0 (pieces.take n) {}).2.Sized) ∧
    ∀ n, (pieces.take n).flatten.length < 2 ^ 63 →
      Runs (collectMem grow 0 (pieces.take n)) (fun _ b => b.Holds (jbigCollect grow (pieces.take n)))
        {} := by
  intro pieces grow compress finish
  refine ⟨?_, fun n hfailed => jbigCollect_sticky hfailed, fun n => collectMem_sized rfl, ?_⟩
  · by_cases hc : compresses grow pieces = true
    · left
      show jbigCompress env page bitmap (bmpW * lay.depth) bmpH s = _
      rw [jbigCompress_ok hc]
      rfl
    · right
      have hc : compresses grow pieces = false := Bool.eq_false_iff.mpr hc
      have hcompress := jbigCompress_error hc s
      have hfinish := @finishPage_error env opt page k hdr lay bitmap bmpW bmpH hc s
      exact ⟨congrArg Prod.fst hcompress, congrArg Prod.fst hfinish,
        congrArg (fun r => r.2.files) hfinish⟩
  · intro n hlen
    have hstart : (Buf.data {}).length + (pieces.take n).flatten.length < 2 ^ 63 := by simpa using hlen
    exact collectMem_holds BufBlock.empty_holds hstart

theorem page_complete_or_unsent_onePiece :
    Runs (collectMem (fun _ => true) 0 [List.replicate 20 0])
      (fun _ b => b.Holds (jbigCollect (fun _ => true) [List.replicate 20 0])) {} := by
  let env : Env := { jbig := fun _ _ _ => [List.replicate 20 0] }
  exact (page_complete_or_unsent env 1 .stdout ⟨(600, 600), 1, (100, 100), 40, 9, 0, 8, 40, 0⟩
    ⟨0, 64, 8, 1, false⟩ ⟨2, false, false, false, false, 0⟩ [] 64 8 { raster := ⟨[], []⟩ }).2.2.2 1
    (by decide)

end PantumOpen.Print
