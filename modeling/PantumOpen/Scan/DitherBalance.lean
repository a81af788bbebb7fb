import PantumOpen.Scan.Dither
import PantumOpen.Scan.Screening

/-! The ranks of `build_dither_mask` are a bijection, and the mask is balanced, whatever the energies
are and however their comparisons come out. -/

namespace PantumOpen.Scan
open Buffer

variable {Φ : Type} {F : EnergyField Φ} {rank : DitherCell → Nat} {s : Finset DitherCell} {lo hi : Nat}

/-- The cells of `s` have different ranks, from `lo` up to `hi`. -/
structure Ranks (rank : DitherCell → Nat) (s : Finset DitherCell) (lo hi : Nat) : Prop where
  range : ∀ c ∈ s, lo ≤ rank c ∧ rank c < hi
  inj : Set.InjOn rank s

theorem ranks_empty (rank : DitherCell → Nat) (lo hi : Nat) : Ranks rank ∅ lo hi :=
  ⟨fun _ h => absurd h (Finset.notMem_empty _), by simp⟩

theorem Ranks.give (h : Ranks rank s lo hi) {c : DitherCell} (hc : c ∉ s) {i lo' hi' : Nat}
    (hrange : lo' ≤ lo ∧ hi ≤ hi' ∧ lo' ≤ i ∧ i < hi') (hnew : i < lo ∨ hi ≤ i) :
    Ranks (Function.update rank c i) (insert c s) lo' hi' := by
  have hold {d : DitherCell} (hd : d ∈ s) : Function.update rank c i d = rank d :=
    Function.update_of_ne (fun he : d = c => hc (he ▸ hd)) _ _
  have hmem {d : DitherCell} (hd : d ∈ s) : rank d ≠ i := by
    have hr := h.range d hd
    omega
  refine ⟨fun d hd => ?_, fun d hd d' hd' he => ?_⟩
  · rcases Finset.mem_insert.mp hd with rfl | hd
    · rw [Function.update_self]
      omega
    · have hr := h.range d hd
      rw [hold hd]
      omega
  · rw [Finset.mem_coe, Finset.mem_insert] at hd hd'
    rcases hd with rfl | hd <;> rcases hd' with rfl | hd'
    · rfl
    · rw [Function.update_self, hold hd'] at he
      exact absurd he.symm (hmem hd')
    · rw [hold hd, Function.update_self] at he
      exact absurd he (hmem hd)
    · rw [hold hd, hold hd'] at he
      exact h.inj hd hd' he

theorem thinLoop_ranks {i : Nat} {r : Ranking Φ} (hcard : (setCells r.state.pattern).card = i)
    (hout : Disjoint s (setCells r.state.pattern)) (h : Ranks r.rank s i hi) (hle : i ≤ hi) :
    (thinLoop F i r).1 = true ∧
      Ranks (thinLoop F i r).2.rank (s ∪ setCells r.state.pattern) 0 hi := by
  induction i generalizing s r with
  | zero =>
    rw [Finset.card_eq_zero.mp hcard, Finset.union_empty]
    exact ⟨rfl, h⟩
  | succ i ih =>
    have hne : (setCells r.state.pattern).Nonempty := Finset.card_pos.mp (by omega)
    obtain ⟨c, hc, hset⟩ := ditherExtreme_set (F := F) hne
    have hnot : c ∉ s := fun hcs => Finset.disjoint_left.mp hout hcs hset
    have hgive := h.give hnot (show i ≤ i + 1 ∧ hi ≤ hi ∧ i ≤ i ∧ i < hi by omega)
      (.inl (Nat.lt_succ_self i))
    have hcells : setCells (ditherToggle F r.state c false).pattern =
        (setCells r.state.pattern).erase c := setCells_toggle_clear _ _
    have hrest : insert c s ∪ (setCells r.state.pattern).erase c = s ∪ setCells r.state.pattern := by
      rw [Finset.insert_union, ← Finset.union_insert, Finset.insert_erase hset]
    rw [thinLoop, hc]
    have hind := @ih (insert c s)
      ⟨ditherToggle F r.state c false, Function.update r.rank c i⟩
      (by rw [hcells, Finset.card_erase_of_mem hset, hcard]; rfl) ?_ hgive (by omega)
    · rw [hcells, hrest] at hind
      exact hind
    · rw [hcells, Finset.disjoint_insert_left]
      exact ⟨Finset.notMem_erase c _, hout.mono_right (Finset.erase_subset _ _)⟩

theorem fillLoop_ranks {n i : Nat} {r : Ranking Φ} (hcard : (setCells r.state.pattern).card + n = ditherCells)
    (h : Ranks r.rank (setCells r.state.pattern) 0 i) :
    (fillLoop F n i r).1 = true ∧ Ranks (fillLoop F n i r).2.rank Finset.univ 0 (i + n) := by
  have hall : Fintype.card DitherCell = ditherCells := Fintype.card_fin _
  induction n generalizing i r with
  | zero =>
    have hfull : setCells r.state.pattern = Finset.univ := by
      rw [← Finset.card_eq_iff_eq_univ, hall, ← hcard, Nat.add_zero]
    rw [hfull] at h
    exact ⟨rfl, h⟩
  | succ n ih =>
    obtain ⟨j, hj⟩ : ∃ j, j ∉ setCells r.state.pattern := by
      by_contra hno
      have hfull : setCells r.state.pattern = Finset.univ :=
        Finset.eq_univ_iff_forall.mpr fun j => not_not.mp fun hj => hno ⟨j, hj⟩
      rw [hfull, Finset.card_univ, hall] at hcard
      omega
    obtain ⟨c, hc, hclear⟩ := ditherExtreme_clear (F := F) hj
    have hgive := h.give hclear (show 0 ≤ 0 ∧ i ≤ i + 1 ∧ 0 ≤ i ∧ i < i + 1 by omega) (.inr le_rfl)
    have hcells : setCells (ditherToggle F r.state c true).pattern = insert c (setCells r.state.pattern) :=
      setCells_toggle_set _ _
    rw [fillLoop, hc, show i + (n + 1) = i + 1 + n by omega]
    refine @ih (i + 1) ⟨ditherToggle F r.state c true, Function.update r.rank c i⟩ ?_ ?_
    · rw [hcells, Finset.card_insert_of_notMem hclear]
      omega
    · rw [hcells]
      exact hgive

theorem Ranks.bijOn (h : Ranks rank Finset.univ 0 ditherCells) :
    Set.BijOn rank Set.univ (Set.Iio ditherCells) := by
  have hmaps : Set.MapsTo rank (Finset.univ : Finset DitherCell) (Finset.range ditherCells) := by
    intro c hc
    rw [Finset.coe_range]
    exact (h.range c hc).2
  have hcard : (Finset.range ditherCells).card ≤ (Finset.univ : Finset DitherCell).card := by
    rw [Finset.card_range, Finset.card_univ, Fintype.card_fin]
  refine ⟨fun c _ => (h.range c (Finset.mem_univ c)).2,
    fun c _ d _ he => h.inj (Finset.mem_univ c) (Finset.mem_univ d) he, fun r hr => ?_⟩
  obtain ⟨c, -, hc⟩ := Finset.surjOn_of_injOn_of_card_le rank hmaps h.inj hcard
    (by rwa [Finset.coe_range])
  exact ⟨c, Set.mem_univ c, hc⟩

/-- A mask that is balanced: its cells are ranked one by one, and the thresholds share them out
evenly. -/
structure MaskBuild.Balanced (b : MaskBuild) : Prop where
  proto : b.proto = .coincide
  thinned : b.thinned = true
  filled : b.filled = true
  ranks : Set.BijOn b.rank Set.univ (Set.Iio ditherCells)
  bounds : ∀ c, 1 ≤ (b.mask c).toNat ∧ (b.mask c).toNat ≤ 255
  even : ∀ t : Nat, 1 ≤ t → t ≤ 255 →
    (Finset.univ.filter fun c => (b.mask c).toNat = t).card = 64 ∨
      (Finset.univ.filter fun c => (b.mask c).toNat = t).card = 65

theorem maskByte_toNat {r : Nat} (h : r < ditherCells) :
    (maskByte r).toNat = 1 + r * 255 / 16384 := by
  have hcells : ditherCells = 16384 := rfl
  rw [hcells] at h
  unfold maskByte
  rw [hcells, UInt8.toNat_ofNat']
  exact Nat.mod_eq_of_lt (by omega)

theorem mask_bounds {r : Nat} (h : r < ditherCells) :
    1 ≤ (maskByte r).toNat ∧ (maskByte r).toNat ≤ 255 := by
  have hcells : ditherCells = 16384 := rfl
  rw [maskByte_toNat h]
  omega

theorem threshold_ranks {t : Nat} (ht : 1 ≤ t) (ht' : t ≤ 255) :
    ((Finset.range 16384).filter fun r => 1 + r * 255 / 16384 = t) =
      Finset.Ico (((t - 1) * 16384 + 254) / 255) ((t * 16384 + 254) / 255) := by
  ext r
  rw [Finset.mem_filter, Finset.mem_range, Finset.mem_Ico]
  omega

theorem mask_even (h : Ranks rank Finset.univ 0 ditherCells) {t : Nat} (ht : 1 ≤ t) (ht' : t ≤ 255) :
    (Finset.univ.filter fun c => (maskByte (rank c)).toNat = t).card =
      (t * 16384 + 254) / 255 - ((t - 1) * 16384 + 254) / 255 := by
  have hbelow (c : DitherCell) : rank c < ditherCells := (h.range c (Finset.mem_univ c)).2
  have himage : ((Finset.univ.filter fun c => (maskByte (rank c)).toNat = t).image rank) =
      (Finset.range 16384).filter fun r => 1 + r * 255 / 16384 = t := by
    ext r
    rw [Finset.mem_image, Finset.mem_filter, Finset.mem_range]
    constructor
    · rintro ⟨c, hc, rfl⟩
      rw [Finset.mem_filter_univ, maskByte_toNat (hbelow c)] at hc
      exact ⟨hbelow c, hc⟩
    · rintro ⟨hr, hc⟩
      obtain ⟨c, -, rfl⟩ := h.bijOn.surjOn hr
      refine ⟨c, ?_, rfl⟩
      rw [Finset.mem_filter_univ, maskByte_toNat (hbelow c)]
      exact hc
  rw [← Nat.card_Ico, ← threshold_ranks ht ht', ← himage,
    Finset.card_image_of_injOn fun c _ d _ he => h.inj (Finset.mem_univ c) (Finset.mem_univ d) he]

/-- A halftone row under the mask: what is black after the tone curve is a dot, and what is white is
none. -/
def MaskBuild.KeepsExtremes (b : MaskBuild) : Prop :=
  ∀ (env : Env) (h : Handle) (src : Buffer) (avail row : Nat) (dst : Buffer) (x : Nat),
    (∀ c : DitherCell, env.ditherMask c.val = b.mask c) → h.halftone = true →
    h.params.format = .gray → h.params.depth = 1 → x < 8 * h.params.bytesPerLine →
    ¬ h.Blank avail row x →
    (h.gamma (src x) = 0 → (convertRow env h src avail row dst).bit x = true) ∧
      (h.gamma (src x) = 255 → (convertRow env h src avail row dst).bit x = false)

theorem MaskBuild.keepsExtremes {b : MaskBuild}
    (hb : ∀ c, 1 ≤ (b.mask c).toNat ∧ (b.mask c).toNat ≤ 255) : b.KeepsExtremes := by
  intro env h src avail row dst x hmask hhalf hf hd hx hblank
  have hrow : row % ditherSize < ditherSize := Nat.mod_lt _ (by decide)
  have hcol : x % ditherSize < ditherSize := Nat.mod_lt _ (by decide)
  obtain ⟨hlo, hhi⟩ := hb ⟨row % ditherSize * ditherSize + x % ditherSize, torus_lt hrow hcol⟩
  rw [← hmask] at hlo hhi
  have hbit : (convertRow env h src avail row dst).bit x = _ :=
    convertRow_bilevel hf hd src avail row dst hx rfl
  rw [hhalf, if_pos rfl, decide_eq_true hblank, Bool.true_and] at hbit
  rw [hbit]
  refine ⟨fun h0 => decide_eq_true ?_, fun h1 => decide_eq_false ?_⟩
  · rw [h0]
    exact hlo
  · rw [h1]
    exact Nat.not_lt.mpr hhi

theorem Ranks.balanced {b : MaskBuild} (h : Ranks b.rank Finset.univ 0 ditherCells)
    (hproto : b.proto = .coincide) (hthin : b.thinned = true) (hfill : b.filled = true) :
    b.Balanced ∧ b.KeepsExtremes := by
  have hbounds (c : DitherCell) : 1 ≤ (b.mask c).toNat ∧ (b.mask c).toNat ≤ 255 :=
    mask_bounds (h.range c (Finset.mem_univ c)).2
  refine ⟨⟨hproto, hthin, hfill, h.bijOn, hbounds, fun t ht ht' => ?_⟩, MaskBuild.keepsExtremes hbounds⟩
  have hcount := mask_even h ht ht'
  unfold MaskBuild.mask
  rw [hcount]
  omega

/-- The three loops rank every cell once, and none of them is left by a test for -1. -/
theorem buildFrom_ranks {n : Nat} {start : DitherState Φ}
    (hones : (setCells start.pattern).card = ditherOnes) {b : MaskBuild}
    (hb : buildFrom F n start = some b) : b.proto = .coincide ∧ b.thinned = true ∧ b.filled = true ∧
      Ranks b.rank Finset.univ 0 ditherCells := by
  have hpos : 0 < ditherOnes ∧ ditherOnes + (ditherCells - ditherOnes) = ditherCells := by
    unfold ditherOnes ditherCells ditherSize
    omega
  obtain ⟨e, s, hswap, rfl⟩ := buildFrom_some hb
  obtain ⟨he, hcard⟩ := swapLoop_end (Finset.card_pos.mp (by omega)) hswap
  rw [hones] at hcard
  obtain ⟨hthin, hlow⟩ := thinLoop_ranks (F := F) (r := ⟨s, fun _ => 0⟩) hcard
    (Finset.disjoint_empty_left _) (ranks_empty _ ditherOnes ditherOnes) le_rfl
  rw [Finset.empty_union] at hlow
  have hrest : setCells (restore F s.pattern).pattern = setCells s.pattern := by rw [restore_pattern]
  obtain ⟨hfill, hall⟩ := fillLoop_ranks (F := F) (n := ditherCells - ditherOnes) (i := ditherOnes)
    (r := ⟨restore F s.pattern, (thinLoop F ditherOnes ⟨s, fun _ => 0⟩).2.rank⟩)
    (by rw [hrest, hcard, hpos.2]) (by rw [hrest]; exact hlow)
  rw [hpos.2] at hall
  exact ⟨he, hthin, hfill, hall⟩

/-- Whatever the energies are and however their comparisons come out: a mask that is built from a
pattern of the starting density is balanced. -/
theorem build_balanced (F : EnergyField Φ) (n : Nat) {start : DitherState Φ}
    (hones : (setCells start.pattern).card = ditherOnes) {b : MaskBuild}
    (hb : buildFrom F n start = some b) : b.Balanced ∧ b.KeepsExtremes := by
  obtain ⟨hproto, hthin, hfill, hranks⟩ := buildFrom_ranks hones hb
  exact hranks.balanced hproto hthin hfill

/-- A field that never tells two cells apart. -/
def flatField : EnergyField Unit := ⟨(), fun _ _ _ => (), fun _ _ _ _ => false⟩

/-- The starting density, all of it at the top. -/
def topPattern : DitherState Unit := ⟨fun c => decide (c.val < ditherOnes), ()⟩

theorem topPattern_card : (setCells topPattern.pattern).card = ditherOnes := by
  have hcells : setCells topPattern.pattern = ({c | c.val < ditherOnes} : Finset DitherCell) := by
    ext c
    simp [topPattern]
  rw [hcells, Fin.card_filter_val_lt]
  decide

def topCell : DitherCell := ⟨0, by decide⟩

/-- Where no cell is told from another, the first one of the right kind is found. -/
theorem flatField_first {s : DitherState Unit} {want : Bool} (biggest : Bool)
    (h : s.pattern topCell = want) : ditherExtreme flatField s want biggest = some topCell := by
  have hcells : List.finRange ditherCells = topCell :: (List.finRange 16383).map Fin.succ :=
    List.finRange_succ
  unfold ditherExtreme
  rw [hcells]
  exact Pick.pick_head (by simp [h]) fun _ _ => rfl

theorem topPattern_swapLoop : ∃ s, swapLoop flatField 1 topPattern = some (.coincide, s) := by
  have hset : topPattern.pattern topCell = true := decide_eq_true (show 0 < ditherOnes by decide)
  have hcleared : (ditherToggle flatField topPattern topCell false).pattern topCell = false := by
    simp [ditherToggle]
  have hround := swapRound_eq (flatField_first true hset) (flatField_first false hcleared)
  rw [if_pos rfl] at hround
  exact ⟨_, swapLoop_last hround⟩

theorem build_balanced_topPattern :
    ∃ b, buildFrom flatField 1 topPattern = some b ∧ b.Balanced ∧ b.KeepsExtremes := by
  obtain ⟨s, hs⟩ := topPattern_swapLoop
  have hb : ∃ b, buildFrom flatField 1 topPattern = some b := by
    unfold buildFrom
    rw [hs]
    exact ⟨_, rfl⟩
  obtain ⟨b, hb⟩ := hb
  exact ⟨b, hb, build_balanced flatField 1 topPattern_card hb⟩

theorem seedLoop_card {n left : Nat} {rnd : UInt32} {s t : DitherState Φ}
    (h : seedLoop F n left rnd s = some t) :
    (setCells t.pattern).card = (setCells s.pattern).card + left := by
  induction n generalizing left rnd s with
  | zero =>
    cases left with
    | zero =>
      cases h
      exact (Nat.add_zero _).symm
    | succ left => cases h
  | succ n ih =>
    cases left with
    | zero =>
      cases h
      exact (Nat.add_zero _).symm
    | succ left =>
      rw [seedLoop] at h
      split at h
      · exact ih h
      · rename_i hfree
        rw [ih h, setCells_toggle_set, Finset.card_insert_of_notMem (by simpa using hfree)]
        omega

theorem buildMask_balanced (F : EnergyField Φ) {n : Nat} {b : MaskBuild} (hb : buildMask F n = some b) :
    b.Balanced ∧ b.KeepsExtremes := by
  unfold buildMask at hb
  rcases hseed : seedLoop F n ditherOnes ditherSeed (.clear F) with _ | start
  · rw [hseed] at hb
    cases hb
  · rw [hseed] at hb
    have hcard := seedLoop_card hseed
    rw [setCells_empty, Finset.card_empty, Nat.zero_add] at hcard
    obtain ⟨hproto, hthin, hfill, hranks⟩ := buildFrom_ranks hcard hb
    exact hranks.balanced hproto hthin hfill

end PantumOpen.Scan
