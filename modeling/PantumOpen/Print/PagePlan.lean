import PantumOpen.Print.PageOutcome
import PantumOpen.Print.Spool

/-! The pages of a job that are printed, as a function of what the job finds: their numbers, the
files they go to and the lines that announce them. -/

namespace PantumOpen.Print
open Prog Stdio

section
variable {α β : Type}

mutual

def odds : List α → List α
  | [] => []
  | a :: l => a :: evens l

def evens : List α → List α
  | [] => []
  | _ :: l => odds l

end

theorem odds_evens_append (l : List α) (a : α) :
    odds (l ++ [a]) = odds l ++ (if l.length % 2 = 0 then [a] else []) ∧
      evens (l ++ [a]) = evens l ++ if l.length % 2 = 0 then [] else [a] := by
  induction l with
  | nil => exact ⟨rfl, rfl⟩
  | cons b l ih =>
    have hpar : (b :: l).length % 2 = 0 ↔ ¬ l.length % 2 = 0 := by
      rw [List.length_cons]
      omega
    rw [List.cons_append, odds, odds, evens, evens, ih.1, ih.2]
    simp only [hpar]
    by_cases h : l.length % 2 = 0
    · simp [h]
    · simp [h]

theorem odds_evens_length (l : List α) :
    (odds l).length = (l.length + 1) / 2 ∧ (evens l).length = l.length / 2 := by
  induction l with
  | nil => simp [odds, evens]
  | cons b l ih =>
    rw [odds, evens, List.length_cons, List.length_cons, ih.1, ih.2]
    omega

theorem odds_evens_subset (l : List α) : odds l ⊆ l ∧ evens l ⊆ l := by
  induction l with
  | nil => exact ⟨List.Subset.refl _, List.Subset.refl _⟩
  | cons b l ih =>
    exact ⟨List.cons_subset_cons b ih.2, List.subset_cons_of_subset b ih.1⟩

theorem odds_evens_map (f : α → β) (l : List α) :
    odds (l.map f) = (odds l).map f ∧ evens (l.map f) = (evens l).map f := by
  induction l with
  | nil => exact ⟨rfl, rfl⟩
  | cons b l ih => exact ⟨congrArg (f b :: ·) ih.2, ih.1⟩

end

variable {env : Env} {opt : JobOptions}

def pageNumber (i : Nat) : UInt32 := UInt32.ofNat (i + 1)

theorem pageSink_number (opt : JobOptions) (i : Nat) : pageSink opt (pageNumber i) =
    if opt.manualDuplex then if i % 2 = 0 then .fronts else .backs else .stdout := by
  have hodd : pageNumber i &&& 1 = 1 ↔ i % 2 = 0 := by
    rw [← UInt32.toNat_inj, UInt32.toNat_and, pageNumber, UInt32.toNat_ofNat']
    have hone : (1 : UInt32).toNat = 2 ^ 1 - 1 := rfl
    rw [hone, Nat.and_two_pow_sub_one_eq_mod]
    omega
  unfold pageSink
  simp only [hodd]

def sinkPages {α : Type} (opt : JobOptions) : Sink → List α → List α
  | .stdout, l => if opt.manualDuplex then [] else l
  | .fronts, l => if opt.manualDuplex then odds l else []
  | .backs, l => if opt.manualDuplex then evens l else []

theorem sinkPages_append {α : Type} (opt : JobOptions) (k : Sink) (l : List α) (a : α) :
    sinkPages opt k (l ++ [a]) =
      sinkPages opt k l ++ if pageSink opt (pageNumber l.length) = k then [a] else [] := by
  obtain ⟨hodds, hevens⟩ := odds_evens_append l a
  rw [pageSink_number]
  cases hd : opt.manualDuplex
  · cases k <;> simp [sinkPages, hd]
  · by_cases hl : l.length % 2 = 0
    · cases k <;> simp [sinkPages, hd, hl, hodds, hevens]
    · cases k <;> simp [sinkPages, hd, hl, hodds, hevens]

def blockBytes (env : Env) (opt : JobOptions) (p : RasterPage) : List UInt8 :=
  (pageBlock env opt p).flatMap Chunk.bytes

def sinkBlocks (env : Env) (opt : JobOptions) (k : Sink) (pages : List RasterPage) :
    List (List UInt8) := (sinkPages opt k pages).map (blockBytes env opt)

theorem sinkBlocks_append (k : Sink) (pages : List RasterPage) (p : RasterPage) :
    sinkBlocks env opt k (pages ++ [p]) = sinkBlocks env opt k pages ++
      if pageSink opt (pageNumber pages.length) = k then [blockBytes env opt p] else [] := by
  unfold sinkBlocks
  rw [sinkPages_append, List.map_append]
  split <;> rfl

/-- Of a simplex job every page goes to standard output, of a manual duplex job none. -/
theorem sinkBlocks_stdout (pages : List RasterPage) : sinkBlocks env opt .stdout pages =
    if opt.manualDuplex then [] else pages.map (blockBytes env opt) := by
  cases hd : opt.manualDuplex <;> simp [sinkBlocks, sinkPages, hd]

/-- Page `i` gets through: it renders and, in a manual duplex job, it finds a slot. -/
structure Prints (env : Env) (opt : JobOptions) (i : Nat) (p : RasterPage) : Prop where
  renders : Renders env opt (pageNumber i) p
  marks : opt.manualDuplex = true → marks (env.allocs (pageNumber i)).slots (i / 2) = true

theorem prints_iff {i : Nat} {p : RasterPage} : Prints env opt i p ↔
    (Renders env opt (pageNumber i) p ∧
      (opt.manualDuplex = true → marks (env.allocs (pageNumber i)).slots (i / 2) = true)) :=
  ⟨fun h => ⟨h.renders, h.marks⟩, fun h => ⟨h.1, h.2⟩⟩

instance {i : Nat} {p : RasterPage} : Decidable (Prints env opt i p) :=
  decidable_of_iff _ prints_iff.symm

/-- The pages that are printed, from page `i` on, when the tests of `job_cancelled` to come find
what `arrivals` says. -/
def printed (env : Env) (opt : JobOptions) : List Bool → Nat → List RasterPage → List RasterPage
  | _, _, [] => []
  | arrivals, i, p :: pages =>
    if arrivals.headD false = false ∧ Prints env opt i p then
      p :: printed env opt arrivals.tail (i + 1) pages
    else []

def finishes (env : Env) (opt : JobOptions) (arrivals : List Bool) (pages : List RasterPage) : Bool :=
  (printed env opt arrivals 0 pages).length == pages.length && !arrivals.getD pages.length false

theorem printed_isPrefixOf (arrivals : List Bool) (i : Nat) (pages : List RasterPage) :
    printed env opt arrivals i pages <+: pages := by
  induction pages generalizing arrivals i with
  | nil => exact List.prefix_rfl
  | cons p pages ih =>
    rw [printed]
    split
    · exact List.prefix_cons_inj p |>.mpr (ih _ _)
    · exact List.nil_prefix

theorem finishes_iff {arrivals : List Bool} {pages : List RasterPage} :
    finishes env opt arrivals pages = true ↔
      printed env opt arrivals 0 pages = pages ∧ arrivals.getD pages.length false = false := by
  unfold finishes
  rw [Bool.and_eq_true, beq_iff_eq, Bool.not_eq_true']
  refine and_congr_left' ⟨fun h => (printed_isPrefixOf _ _ _).eq_of_length h, fun h => ?_⟩
  rw [h]

theorem printed_stop {arrivals : List Bool} {i : Nat} {p : RasterPage} {pages : List RasterPage}
    (h : arrivals.headD false = true ∨ ¬ Prints env opt i p) :
    printed env opt arrivals i (p :: pages) = [] := by
  rw [printed, if_neg]
  rintro ⟨hno, hp⟩
  rcases h with hyes | hnot
  · exact absurd (hno.symm.trans hyes) (by decide)
  · exact hnot hp

/-- The pages up to the first that does not get through, or before which the job is seen to be
cancelled. -/
theorem printed_spec (arrivals : List Bool) (i : Nat) (pages : List RasterPage) :
    (∀ j < (printed env opt arrivals i pages).length, arrivals.getD j false = false ∧
      ∃ p, pages[j]? = some p ∧ Prints env opt (i + j) p) ∧
    (arrivals.getD (printed env opt arrivals i pages).length false = true ∨
      pages[(printed env opt arrivals i pages).length]? = none ∨
      ∃ p, pages[(printed env opt arrivals i pages).length]? = some p ∧
        ¬ Prints env opt (i + (printed env opt arrivals i pages).length) p) := by
  induction pages generalizing arrivals i with
  | nil => exact ⟨fun j hj => absurd hj (Nat.not_lt_zero j), .inr (.inl rfl)⟩
  | cons p pages ih =>
    by_cases hp : arrivals.headD false = false ∧ Prints env opt i p
    · obtain ⟨hbefore, hat⟩ := ih arrivals.tail (i + 1)
      have hshift (j : Nat) : arrivals.tail.getD j false = arrivals.getD (j + 1) false := by
        cases arrivals <;> rfl
      rw [printed, if_pos hp, List.length_cons]
      refine ⟨fun j hj => ?_, ?_⟩
      · cases j with
        | zero => exact ⟨by rw [← hp.1]; cases arrivals <;> rfl, p, rfl, hp.2⟩
        | succ j =>
          obtain ⟨hno, q, hq, hprints⟩ := hbefore j (Nat.lt_of_succ_lt_succ hj)
          rw [hshift] at hno
          rw [Nat.add_right_comm, Nat.add_assoc] at hprints
          exact ⟨hno, q, hq, hprints⟩
      · rw [hshift, Nat.add_right_comm, Nat.add_assoc] at hat
        simpa using hat
    · rw [printed, if_neg hp]
      refine ⟨fun j hj => absurd hj (Nat.not_lt_zero j), ?_⟩
      by_cases hyes : arrivals.headD false = true
      · exact .inl (by rw [← hyes]; cases arrivals <;> rfl)
      · exact .inr (.inr ⟨p, rfl, fun h => hp ⟨Bool.eq_false_iff.mpr hyes, h⟩⟩)

def progressAfter (pages : List RasterPage) : Progress where
  page := UInt32.ofNat pages.length
  lastHdr := (pages.getLast?.map RasterPage.hdr).getD .zero

theorem progressAfter_append (pages : List RasterPage) (p : RasterPage) :
    progressAfter (pages ++ [p]) = ⟨pageNumber pages.length, p.hdr⟩ := by
  simp [progressAfter, pageNumber]

theorem progressAfter_next (pages : List RasterPage) :
    (progressAfter pages).page + 1 = pageNumber pages.length := (UInt32.ofNat_add _ 1).symm

def Diagnostic.pageLine : Diagnostic → Option (UInt32 × UInt32)
  | .page number copies => some (number, copies)
  | _ => none

def Filter.pageLines (s : Filter) : List (UInt32 × UInt32) := s.log.filterMap Diagnostic.pageLine

theorem pageLines_msg (s : Filter) (d : Diagnostic) :
    { s with log := s.log ++ [d] }.pageLines = s.pageLines ++ d.pageLine.toList := by
  cases d <;> simp [Filter.pageLines, Diagnostic.pageLine]

def linesOf (pages : List RasterPage) : List (UInt32 × UInt32) :=
  pages.zipIdx.map fun x => (pageNumber x.2, x.1.hdr.copies)

theorem linesOf_append (pages : List RasterPage) (p : RasterPage) :
    linesOf (pages ++ [p]) = linesOf pages ++ [(pageNumber pages.length, p.hdr.copies)] := by
  simp [linesOf, List.zipIdx_append]

end PantumOpen.Print
