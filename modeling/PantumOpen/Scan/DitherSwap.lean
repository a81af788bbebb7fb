import PantumOpen.Scan.DitherField

/-! The prototype loop without rounding: it ends, and the energies it keeps up to date are exact. -/

namespace PantumOpen.Scan
open Buffer Interaction Pick

def swapState {Φ : Type} (F : EnergyField Φ) : Nat → DitherState Φ → Option (DitherState Φ)
  | 0, s => some s
  | n + 1, s =>
    match swapRound F s with
    | (none, t) => swapState F n t
    | (some _, _) => none

def seeded {Φ : Type} (F : EnergyField Φ) (cells : List DitherCell) : DitherState Φ :=
  cells.foldl (fun s c => ditherToggle F s c true) (.clear F)

variable {E : Type} [AddCommGroup E] [LinearOrder E] {k : Nat → Nat → E}
  {s : DitherState (DitherCell → E)}

/-- A round begins with exact energies and as many cells as `m`, keeps them exact when its cluster is
gone, and finds a cluster and a void. -/
structure RoundOk (k : Nat → Nat → E) (m : Nat) (s : DitherState (DitherCell → E)) : Prop where
  exact : s.Exact k
  thinned : ∀ c, ditherExtreme (exactField k) s true true = some c →
    (ditherToggle (exactField k) s c false).Exact k
  card : (setCells s.pattern).card = m
  cluster : (swapRound (exactField k) s).1 ≠ some .noCluster
  hole : (swapRound (exactField k) s).1 ≠ some .noHole

/-- Every round of the prototype loop is as it should be, and one of them is the last. -/
structure Settles (k : Nat → Nat → E) (s : DitherState (DitherCell → E)) : Prop where
  rounds : ∀ n t, swapState (exactField k) n s = some t → RoundOk k (setCells s.pattern).card t
  ends : ∃ n t, swapLoop (exactField k) n s = some (.coincide, t) ∧ t.Exact k ∧
    (setCells t.pattern).card = (setCells s.pattern).card

theorem seeded_exact (k : Nat → Nat → E) {cells : List DitherCell} (h : cells.Nodup) :
    (seeded (exactField k) cells).Exact k ∧
      setCells (seeded (exactField k) cells).pattern = cells.toFinset := by
  induction cells using List.reverseRecOn with
  | nil => exact ⟨exact_clear k, setCells_empty⟩
  | append_singleton cells c ih =>
    obtain ⟨hnodup, -, hnew⟩ := List.nodup_append.mp h
    obtain ⟨hexact, hcells⟩ := ih hnodup
    have hc : c ∉ setCells (seeded (exactField k) cells).pattern := by
      rw [hcells, List.mem_toFinset]
      exact fun hc => hnew c hc c List.mem_cons_self rfl
    have hsnoc : seeded (exactField k) (cells ++ [c]) =
        ditherToggle (exactField k) (seeded (exactField k) cells) c true := by
      unfold seeded
      rw [List.foldl_append]
      rfl
    rw [hsnoc]
    refine ⟨hexact.set hc, ?_⟩
    rw [setCells_toggle_set, hcells, List.toFinset_append]
    ext i
    simp

variable {cluster hole : DitherCell}

theorem SwapStep.exact (h : SwapStep (exactField k) s cluster hole) (hs : s.Exact k) :
    (swapRound (exactField k) s).2.Exact k := by
  have hfree := h.free
  rw [← setCells_toggle_clear (F := exactField k)] at hfree
  rw [h.round]
  exact (hs.unset h.taken).set hfree

theorem SwapStep.roundOk (h : SwapStep (exactField k) s cluster hole) (hs : s.Exact k) :
    RoundOk k (setCells s.pattern).card s := by
  have hround := congrArg Prod.fst h.round
  dsimp only at hround
  refine ⟨hs, fun c hc => hs.unset (mem_setCells.mpr (ditherExtreme_some hc)), rfl, ?_, ?_⟩
  · rw [hround]
    split <;> simp
  · rw [hround]
    split <;> simp

theorem Settles.rounds_of (hs : s.Exact k) (h : (setCells s.pattern).Nonempty) {n : Nat}
    {t : DitherState (DitherCell → E)} (ht : swapState (exactField k) n s = some t) :
    RoundOk k (setCells s.pattern).card t := by
  induction n generalizing s with
  | zero =>
    obtain ⟨cluster, hole, hstep⟩ := exists_swapStep (exactField k) h
    rw [swapState, Option.some_inj] at ht
    rw [← ht]
    exact hstep.roundOk hs
  | succ n ih =>
    obtain ⟨cluster, hole, hstep⟩ := exists_swapStep (exactField k) h
    have hexact := hstep.exact hs
    have hcard := hstep.card
    rw [swapState] at ht
    rcases hr : swapRound (exactField k) s with ⟨_ | e, u⟩
    · rw [hr] at ht hexact hcard
      rw [← hcard]
      refine ih hexact ?_ ht
      rw [← Finset.card_pos, hcard, Finset.card_pos]
      exact h
    · rw [hr] at ht
      exact absurd ht (Option.some_ne_none _).symm

variable [IsOrderedAddMonoid E]

/-- A round that is not the last takes a cell to where the energy is lower, or as low and earlier in the
scan. -/
theorem SwapStep.descends (hk : SymmetricKernel k) (h : SwapStep (exactField k) s cluster hole)
    (hs : s.Exact k) (hne : hole ≠ cluster) :
    level (weight k) Fin.val (setCells (swapRound (exactField k) s).2.pattern) <
      level (weight k) Fin.val (setCells s.pattern) := by
  have hgone : cluster ∉ (setCells s.pattern).erase cluster := Finset.notMem_erase _ _
  have hclear : (ditherToggle (exactField k) s cluster false).pattern cluster = false := by
    unfold ditherToggle
    exact Function.update_self cluster false s.pattern
  have henergy : (ditherToggle (exactField k) s cluster false).energy =
      field (weight k) ((setCells s.pattern).erase cluster) := by
    rw [(hs.unset h.taken).field, setCells_toggle_clear]
  have hfound := h.found
  unfold ditherExtreme at hfound
  have hleast := pick_least (p := fun i => (ditherToggle (exactField k) s cluster false).pattern i == false)
    (ditherToggle (exactField k) s cluster false).energy (List.pairwise_lt_finRange ditherCells) hfound
    (List.mem_finRange cluster) (by simpa using hclear)
  rw [henergy] at hleast
  have hmove := level_move (weight_symm hk) Fin.val hgone h.free
    (hleast.imp_right fun ⟨heq, hle⟩ => ⟨heq, lt_of_le_of_ne hle (fun he => hne (Fin.ext he))⟩)
  rwa [Finset.insert_erase h.taken, ← h.cells] at hmove

theorem swapLoop_stops (hk : SymmetricKernel k) (hs : s.Exact k) (h : (setCells s.pattern).Nonempty) :
    ∃ n t, swapLoop (exactField k) n s = some (.coincide, t) ∧ t.Exact k ∧
      (setCells t.pattern).card = (setCells s.pattern).card := by
  -- by induction on the level of the pattern, which every round but the last lowers
  generalize hp : setCells s.pattern = p
  induction p using (level_wellFounded (weight k) Fin.val).induction generalizing s with
  | _ p ih =>
    obtain ⟨cluster, hole, hstep⟩ := exists_swapStep (exactField k) h
    have hexact := hstep.exact hs
    have hcard := hstep.card
    have hround := hstep.round
    by_cases hsame : hole = cluster
    · rw [if_pos hsame] at hround
      rw [hround] at hexact hcard
      exact ⟨1, _, swapLoop_last hround, hexact, hp ▸ hcard⟩
    · have hlower := hstep.descends hk hs hsame
      rw [if_neg hsame] at hround
      rw [hround] at hexact hcard hlower
      have hne := Finset.card_pos.mp (hcard.symm ▸ Finset.card_pos.mpr h)
      obtain ⟨n, t, hn, ht, htcard⟩ := ih _ (hp ▸ hlower) hexact hne rfl
      exact ⟨n + 1, t, (swapLoop_more hround).trans hn, ht, hp ▸ htcard.trans hcard⟩

/-- From every seed, with every symmetric kernel, the prototype loop ends with its cluster in its void,
and it keeps the energies exact and the number of cells. -/
theorem swapLoop_settles (hk : SymmetricKernel k) {cells : List DitherCell} (hnodup : cells.Nodup)
    (hsome : 1 ≤ cells.length) :
    Settles k (seeded (exactField k) cells) ∧
      (setCells (seeded (exactField k) cells).pattern).card = cells.length := by
  obtain ⟨hexact, hcells⟩ := seeded_exact k hnodup
  have hcard : (setCells (seeded (exactField k) cells).pattern).card = cells.length := by
    rw [hcells, List.toFinset_card_of_nodup hnodup]
  have hne : (setCells (seeded (exactField k) cells).pattern).Nonempty := by
    rw [← Finset.card_pos, hcard]
    exact hsome
  exact ⟨⟨fun n t ht => Settles.rounds_of hexact hne ht, swapLoop_stops hk hexact hne⟩, hcard⟩

theorem swapLoop_settles_pyramid :
    Settles pyramid (seeded (exactField pyramid) [⟨0, by decide⟩, ⟨5, by decide⟩]) ∧
      (setCells (seeded (exactField pyramid) [⟨0, by decide⟩, ⟨5, by decide⟩]).pattern).card =
        [0, 5].length :=
  swapLoop_settles pyramid_symmetric (by decide) (by decide)

end PantumOpen.Scan
