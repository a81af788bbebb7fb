import PantumOpen.Lib.Pick
import PantumOpen.Scan.Image

/-! The halftone mask: the pattern, its energy field and the loops of `build_dither_mask`. -/

namespace PantumOpen.Scan
open Buffer Pick

def ditherCells : Nat := ditherSize * ditherSize

def ditherRadius : Nat := 8

def ditherKernel : Nat := 2 * ditherRadius + 1

def ditherSeed : UInt32 := 0x9e3779b9

def ditherOnes : Nat := ditherCells / 10

abbrev DitherCell := Fin ditherCells

/-- How the energy field is cleared, how a cell that is set or cleared is folded into it, and how its
comparisons come out. Nothing is assumed of the arithmetic behind them. -/
structure EnergyField (Φ : Type) where
  clear : Φ
  fold : DitherCell → Bool → Φ → Φ
  beats : Bool → Φ → DitherCell → DitherCell → Bool

/-- What the code does to energies, in `float`. -/
structure Arith (E : Type) where
  zero : E
  add : E → E → E
  sub : E → E → E
  lt : E → E → Bool

/-- The coordinate `u - DITHER_RADIUS` steps from `c` on the torus. -/
def wrap (c u : Nat) : Nat := (((c : Int) + ((u : Int) - ditherRadius)) % ditherSize).toNat

theorem wrap_lt (c u : Nat) : wrap c u < ditherSize := by
  unfold wrap ditherSize
  omega

theorem torus_lt {row col : Nat} (hrow : row < ditherSize) (hcol : col < ditherSize) :
    row * ditherSize + col < ditherCells := by
  unfold ditherCells
  have hle := Nat.mul_le_mul_right ditherSize hrow
  rw [Nat.succ_mul] at hle
  omega

/-- The cell that entry `(u, v)` of the kernel falls on when its middle lies on `cell`. -/
def torusCell (cell : DitherCell) (u v : Nat) : DitherCell :=
  ⟨wrap (cell.val / ditherSize) u * ditherSize + wrap (cell.val % ditherSize) v,
    torus_lt (wrap_lt _ _) (wrap_lt _ _)⟩

/-- The field as an array, with the kernel `k` added around a cell that is set and taken away around
one that is cleared. -/
def Arith.energyField {E : Type} (A : Arith E) (k : Nat → Nat → E) : EnergyField (DitherCell → E) where
  clear := fun _ => A.zero
  fold cell set energy :=
    forRange 0 (fun u energy => forRange 0 (fun v (energy : DitherCell → E) =>
      let i := torusCell cell u v
      Function.update energy i
        (if set then A.add (energy i) (k u v) else A.sub (energy i) (k u v)))
      ditherKernel energy) ditherKernel energy
  beats biggest energy i best :=
    if biggest then A.lt (energy best) (energy i) else A.lt (energy i) (energy best)

variable {Φ : Type}

structure DitherState (Φ : Type) where
  pattern : DitherCell → Bool
  energy : Φ

def ditherToggle (F : EnergyField Φ) (s : DitherState Φ) (cell : DitherCell) (set : Bool) :
    DitherState Φ :=
  ⟨Function.update s.pattern cell set, F.fold cell set s.energy⟩

/-- `dither_extreme`; no cell stands for -1. -/
@[irreducible] def ditherExtreme (F : EnergyField Φ) (s : DitherState Φ) (want biggest : Bool) :
    Option DitherCell :=
  pick (fun i => s.pattern i == want) (F.beats biggest s.energy) (List.finRange ditherCells)

def DitherState.clear (F : EnergyField Φ) : DitherState Φ := ⟨fun _ => false, F.clear⟩

def xorshift (rnd : UInt32) : UInt32 :=
  let rnd := rnd ^^^ rnd <<< 13
  let rnd := rnd ^^^ rnd >>> 17
  rnd ^^^ rnd <<< 5

/-- The white-noise pattern with `left` more cells to place, if `n` draws are enough. -/
def seedLoop (F : EnergyField Φ) : Nat → Nat → UInt32 → DitherState Φ → Option (DitherState Φ)
  | _, 0, _, s => some s
  | 0, _ + 1, _, _ => none
  | n + 1, left + 1, rnd, s =>
    let rnd := xorshift rnd
    let cell : DitherCell := ⟨rnd.toNat % ditherCells, Nat.mod_lt _ (by decide)⟩
    if s.pattern cell then seedLoop F n (left + 1) rnd s
    else seedLoop F n left rnd (ditherToggle F s cell true)

inductive SwapEnd
  | coincide | noCluster | noHole
  deriving DecidableEq, Repr

def swapRound (F : EnergyField Φ) (s : DitherState Φ) : Option SwapEnd × DitherState Φ :=
  match ditherExtreme F s true true with
  | none => (some .noCluster, s)
  | some cluster =>
    let s := ditherToggle F s cluster false
    match ditherExtreme F s false false with
    | none => (some .noHole, ditherToggle F s cluster true)
    | some hole => (if hole = cluster then some .coincide else none, ditherToggle F s hole true)

/-- The prototype loop, if it ends within `n` rounds. -/
def swapLoop (F : EnergyField Φ) : Nat → DitherState Φ → Option (SwapEnd × DitherState Φ)
  | 0, _ => none
  | n + 1, s =>
    match swapRound F s with
    | (some e, s) => some (e, s)
    | (none, s) => swapLoop F n s

structure Ranking (Φ : Type) where
  state : DitherState Φ
  rank : DitherCell → Nat

/-- The ranks below `n`, the highest first; whether no round found the pattern empty. -/
def thinLoop (F : EnergyField Φ) : Nat → Ranking Φ → Bool × Ranking Φ
  | 0, r => (true, r)
  | i + 1, r =>
    match ditherExtreme F r.state true true with
    | none => (false, r)
    | some cluster =>
      thinLoop F i ⟨ditherToggle F r.state cluster false, Function.update r.rank cluster i⟩

def restore (F : EnergyField Φ) (proto : DitherCell → Bool) : DitherState Φ :=
  (List.finRange ditherCells).foldl (fun s i => if proto i then ditherToggle F s i true else s)
    (.clear F)

/-- `n` ranks from `i` on; whether no round found the pattern full. -/
def fillLoop (F : EnergyField Φ) : Nat → Nat → Ranking Φ → Bool × Ranking Φ
  | 0, _, r => (true, r)
  | n + 1, i, r =>
    match ditherExtreme F r.state false false with
    | none => (false, r)
    | some hole =>
      fillLoop F n (i + 1) ⟨ditherToggle F r.state hole true, Function.update r.rank hole i⟩

def maskByte (rank : Nat) : UInt8 := UInt8.ofNat (1 + rank * 255 / ditherCells)

structure MaskBuild where
  proto : SwapEnd
  thinned : Bool
  filled : Bool
  rank : DitherCell → Nat

def MaskBuild.mask (b : MaskBuild) (i : DitherCell) : UInt8 := maskByte (b.rank i)

/-- `build_dither_mask` from the seeded pattern on, if the prototype loop ends within `n` rounds. -/
def buildFrom (F : EnergyField Φ) (n : Nat) (start : DitherState Φ) : Option MaskBuild := do
  let (e, s) ← swapLoop F n start
  let thin := thinLoop F ditherOnes ⟨s, fun _ => 0⟩
  let fill := fillLoop F (ditherCells - ditherOnes) ditherOnes ⟨restore F s.pattern, thin.2.rank⟩
  pure ⟨e, thin.1, fill.1, fill.2.rank⟩

/-- `build_dither_mask` once its memory is there, with `n` rounds for each of the loops that have no
counter. -/
def buildMask (F : EnergyField Φ) (n : Nat) : Option MaskBuild := do
  let start ← seedLoop F n ditherOnes ditherSeed (.clear F)
  buildFrom F n start

variable {F : EnergyField Φ} {s : DitherState Φ}

def setCells (pattern : DitherCell → Bool) : Finset DitherCell := {c | pattern c = true}

@[simp] theorem mem_setCells {pattern : DitherCell → Bool} {c : DitherCell} :
    c ∈ setCells pattern ↔ pattern c = true := by
  unfold setCells
  rw [Finset.mem_filter_univ]

theorem setCells_set (pattern : DitherCell → Bool) (c : DitherCell) :
    setCells (Function.update pattern c true) = insert c (setCells pattern) := by
  ext i
  rw [mem_setCells, Finset.mem_insert, mem_setCells, Function.update_apply]
  by_cases h : i = c <;> simp [h]

theorem setCells_clear (pattern : DitherCell → Bool) (c : DitherCell) :
    setCells (Function.update pattern c false) = (setCells pattern).erase c := by
  ext i
  rw [mem_setCells, Finset.mem_erase, mem_setCells, Function.update_apply]
  by_cases h : i = c <;> simp [h]

theorem setCells_toggle_set (s : DitherState Φ) (c : DitherCell) :
    setCells (ditherToggle F s c true).pattern = insert c (setCells s.pattern) :=
  setCells_set s.pattern c

theorem setCells_toggle_clear (s : DitherState Φ) (c : DitherCell) :
    setCells (ditherToggle F s c false).pattern = (setCells s.pattern).erase c :=
  setCells_clear s.pattern c

theorem setCells_empty : setCells (DitherState.clear F).pattern = ∅ := by
  ext c
  rw [mem_setCells]
  exact iff_of_false nofun (Finset.notMem_empty c)

theorem ditherExtreme_some {want biggest : Bool} {c : DitherCell}
    (h : ditherExtreme F s want biggest = some c) : s.pattern c = want := by
  unfold ditherExtreme at h
  simpa using (pick_some h).2

theorem ditherExtreme_set (h : (setCells s.pattern).Nonempty) :
    ∃ c, ditherExtreme F s true true = some c ∧ c ∈ setCells s.pattern := by
  obtain ⟨i, hi⟩ := h
  have hsome : ∃ c, ditherExtreme F s true true = some c := by
    unfold ditherExtreme
    exact pick_isSome ⟨i, List.mem_finRange i, by simpa using hi⟩
  obtain ⟨c, hc⟩ := hsome
  exact ⟨c, hc, mem_setCells.mpr (ditherExtreme_some hc)⟩

theorem ditherExtreme_clear {i : DitherCell} (h : i ∉ setCells s.pattern) :
    ∃ c, ditherExtreme F s false false = some c ∧ c ∉ setCells s.pattern := by
  have hsome : ∃ c, ditherExtreme F s false false = some c := by
    unfold ditherExtreme
    exact pick_isSome ⟨i, List.mem_finRange i, by simpa using h⟩
  obtain ⟨c, hc⟩ := hsome
  have hclear := ditherExtreme_some hc
  exact ⟨c, hc, by simp [hclear]⟩

theorem restore_pattern (F : EnergyField Φ) (proto : DitherCell → Bool) :
    (restore F proto).pattern = proto := by
  have hfold (l : List DitherCell) (t : DitherState Φ) (c : DitherCell) :
      (l.foldl (fun s i => if proto i then ditherToggle F s i true else s) t).pattern c =
        (t.pattern c || (decide (c ∈ l) && proto c)) := by
    induction l generalizing t with
    | nil => simp
    | cons a l ih =>
      rw [List.foldl_cons, ih]
      by_cases hca : c = a
      · subst hca
        cases hp : proto c <;> simp [ditherToggle]
      · cases hp : proto a <;> simp [ditherToggle, hca]
  funext c
  unfold restore
  rw [hfold, DitherState.clear, decide_eq_true (List.mem_finRange c)]
  simp

theorem swapRound_eq {cluster hole : DitherCell}
    (hcluster : ditherExtreme F s true true = some cluster)
    (hhole : ditherExtreme F (ditherToggle F s cluster false) false false = some hole) :
    swapRound F s = (if hole = cluster then some .coincide else none,
      ditherToggle F (ditherToggle F s cluster false) hole true) := by
  rw [swapRound, hcluster]
  dsimp only
  rw [hhole]

/-- One round takes the cell `cluster` away and sets the cell `hole`. -/
structure SwapStep (F : EnergyField Φ) (s : DitherState Φ) (cluster hole : DitherCell) : Prop where
  taken : cluster ∈ setCells s.pattern
  free : hole ∉ (setCells s.pattern).erase cluster
  found : ditherExtreme F (ditherToggle F s cluster false) false false = some hole
  round : swapRound F s = (if hole = cluster then some .coincide else none,
    ditherToggle F (ditherToggle F s cluster false) hole true)

theorem exists_swapStep (F : EnergyField Φ) (h : (setCells s.pattern).Nonempty) :
    ∃ cluster hole, SwapStep F s cluster hole := by
  obtain ⟨cluster, hcluster, hset⟩ := ditherExtreme_set (F := F) h
  have hgone : cluster ∉ setCells (ditherToggle F s cluster false).pattern := by
    rw [setCells_toggle_clear]
    exact Finset.notMem_erase cluster _
  obtain ⟨hole, hhole, hclear⟩ := ditherExtreme_clear (F := F) hgone
  rw [setCells_toggle_clear] at hclear
  exact ⟨cluster, hole, hset, hclear, hhole, swapRound_eq hcluster hhole⟩

theorem SwapStep.cells {cluster hole : DitherCell} (h : SwapStep F s cluster hole) :
    setCells (swapRound F s).2.pattern = insert hole ((setCells s.pattern).erase cluster) := by
  rw [h.round]
  exact (setCells_toggle_set _ _).trans (congrArg _ (setCells_toggle_clear _ _))

theorem SwapStep.card {cluster hole : DitherCell} (h : SwapStep F s cluster hole) :
    (setCells (swapRound F s).2.pattern).card = (setCells s.pattern).card := by
  rw [h.cells, Finset.card_insert_of_notMem h.free, Finset.card_erase_add_one h.taken]

theorem swapLoop_last {n : Nat} {e : SwapEnd} {t : DitherState Φ} (h : swapRound F s = (some e, t)) :
    swapLoop F (n + 1) s = some (e, t) := by
  rw [swapLoop, h]

theorem buildFrom_some {n : Nat} {start : DitherState Φ} {b : MaskBuild}
    (h : buildFrom F n start = some b) : ∃ e s, swapLoop F n start = some (e, s) ∧
      b = ⟨e, (thinLoop F ditherOnes ⟨s, fun _ => 0⟩).1,
        (fillLoop F (ditherCells - ditherOnes) ditherOnes
          ⟨restore F s.pattern, (thinLoop F ditherOnes ⟨s, fun _ => 0⟩).2.rank⟩).1,
        (fillLoop F (ditherCells - ditherOnes) ditherOnes
          ⟨restore F s.pattern, (thinLoop F ditherOnes ⟨s, fun _ => 0⟩).2.rank⟩).2.rank⟩ := by
  unfold buildFrom at h
  rcases hswap : swapLoop F n start with _ | ⟨e, s⟩
  · rw [hswap] at h
    cases h
  · rw [hswap] at h
    exact ⟨e, s, rfl, (Option.some.inj h).symm⟩

theorem swapLoop_zero : swapLoop F 0 s = none := by
  rw [swapLoop]

theorem swapLoop_more {n : Nat} {t : DitherState Φ} (h : swapRound F s = (none, t)) :
    swapLoop F (n + 1) s = swapLoop F n t := by
  rw [swapLoop, h]

/-- A prototype loop that ends has met its cluster in its void, with as many cells as before. -/
theorem swapLoop_end {n : Nat} {e : SwapEnd} {t : DitherState Φ} (h : (setCells s.pattern).Nonempty)
    (hend : swapLoop F n s = some (e, t)) :
    e = .coincide ∧ (setCells t.pattern).card = (setCells s.pattern).card := by
  induction n generalizing s with
  | zero =>
    rw [swapLoop_zero] at hend
    exact absurd hend (Option.some_ne_none _).symm
  | succ n ih =>
    obtain ⟨cluster, hole, hstep⟩ := exists_swapStep F h
    have hcard := hstep.card
    have hround := hstep.round
    by_cases hsame : hole = cluster
    · rw [if_pos hsame] at hround
      rw [hround] at hcard
      rw [swapLoop_last hround, Option.some_inj, Prod.mk.injEq] at hend
      obtain ⟨rfl, rfl⟩ := hend
      exact ⟨rfl, hcard⟩
    · rw [if_neg hsame] at hround
      rw [hround] at hcard
      rw [swapLoop_more hround] at hend
      have hne :
          (setCells (ditherToggle F (ditherToggle F s cluster false) hole true).pattern).Nonempty := by
        rw [← Finset.card_pos, hcard, Finset.card_pos]
        exact h
      obtain ⟨he, ht⟩ := ih hne hend
      exact ⟨he, ht.trans hcard⟩

end PantumOpen.Scan
