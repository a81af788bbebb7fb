import PantumOpen.Scan.OptionRanges

/-! `constrain_word` over all words: what it returns, and where its arithmetic leaves the type. -/

namespace PantumOpen.Scan

/-- A signed 32-bit result; there is none when the operation overflows. -/
def fitWord (v : Int) : Option Int := if -2 ^ 31 ≤ v ∧ v < 2 ^ 31 then some v else none

def fitDistance (v w : Int) : Option Int := if v < w then fitWord (w - v) else fitWord (v - w)

def nearestWordChecked (v : Int) : List Int → Int → Option Int
  | [], best => some best
  | w :: ws, best => do
    let d1 ← fitDistance v w
    let d2 ← fitDistance v best
    nearestWordChecked v ws (if d1 < d2 then w else best)

/-- `constrain_word` on a machine that stops at a signed overflow. -/
def constrainWordChecked (o : Descriptor) (v : Int) : Option Int :=
  match o.constraint with
  | .range r => do
    let out := if v < r.min then r.min else v
    let out := if r.max < out then r.max else out
    if r.quant ≠ 0 then
      let d ← fitWord (out - r.min)
      let d ← fitWord (d + r.quant / 2)
      let steps := d.tdiv r.quant
      let d ← fitWord (steps * r.quant)
      let out ← fitWord (r.min + d)
      pure (if r.max < out then r.max else out)
    else pure out
  | .wordList list => nearestWordChecked v list (list.headD 0)
  | _ => some v

theorem fitWord_of_lt {v : Int} (hlo : -2 ^ 31 ≤ v) (hhi : v < 2 ^ 31) : fitWord v = some v :=
  if_pos ⟨hlo, hhi⟩

theorem fitWord_eq_some {v w : Int} : fitWord v = some w ↔ w = v ∧ -2 ^ 31 ≤ v ∧ v < 2 ^ 31 := by
  unfold fitWord
  split
  · rename_i h
    exact ⟨fun hs => ⟨(Option.some.inj hs).symm, h⟩, fun hs => hs.1 ▸ rfl⟩
  · rename_i h
    exact ⟨nofun, fun hs => absurd hs.2 h⟩

/-- The ranges of the option table: their ends are words, and the grid reaches the upper one. -/
structure Range.Sound (r : Range) : Prop where
  ordered : r.min ≤ r.max
  min : -2 ^ 31 ≤ r.min
  max : r.max < 2 ^ 31
  quant : 0 ≤ r.quant ∧ r.quant < 2 ^ 31
  grid : r.quant ≠ 0 → r.quant ∣ r.max - r.min

def Constraint.Sound : Constraint → Prop
  | .range r => r.Sound
  | .wordList list => list ≠ [] ∧ ∀ w ∈ list, 0 < w ∧ w < 2 ^ 31
  | _ => True

def Range.clamp (r : Range) (v : Int) : Int :=
  if v < r.min then r.min else if r.max < v then r.max else v

/-- The grid point nearest to a word, the upper one of two. -/
def Range.gridPoint (r : Range) (v : Int) : Int :=
  r.min + (v - r.min + r.quant / 2) / r.quant * r.quant

/-- The nearest grid point, if there is a grid, kept inside the range. -/
def Range.snap (r : Range) (v : Int) : Int := r.clamp (if r.quant = 0 then v else r.gridPoint v)

def Constraint.Nearest (c : Constraint) (v x : Int) : Prop :=
  match c with
  | .range r => x = r.snap v ∧ r.Allows x ∧ ∀ y, r.Allows y → |x - v| ≤ |y - v|
  | .wordList list => list.argmin (fun w => |w - v|) = some x
  | _ => x = v

structure Snaps (o : Descriptor) (v : Int) : Prop where
  exact : constrainWordChecked o v = some (constrainWord o v).1
  nearest : o.constraint.Nearest v (constrainWord o v).1
  inexact : (constrainWord o v).2 = true ↔ (constrainWord o v).1 ≠ v
  settled : constrainWordChecked o (constrainWord o v).1 = some (constrainWord o v).1

/-- No difference that `constrain_word` takes leaves the 32-bit words. -/
def Constraint.Roomy (c : Constraint) (v : Int) : Prop :=
  match c with
  | .range r => r.quant ≠ 0 → max (r.clamp v) (r.snap v) - r.min + r.quant / 2 < 2 ^ 31
  | .wordList list => ∀ w ∈ list, w - v < 2 ^ 31
  | _ => True

section
variable {v : Int}

theorem distance_eq (v w : Int) : (if v < w then w - v else v - w) = |w - v| := by
  split
  · exact (abs_of_pos (by omega)).symm
  · rw [abs_sub_comm]
    exact (abs_of_nonneg (by omega)).symm

theorem checkedDistance {w : Int} (h : w - v < 2 ^ 31) (h' : v - w < 2 ^ 31) :
    fitDistance v w = some |w - v| := by
  rw [← distance_eq]
  unfold fitDistance
  split
  · exact fitWord_of_lt (by omega) h
  · exact fitWord_of_lt (by omega) h'

theorem wrappedDistance {w : Int} (h : w - v < 2 ^ 31) (h' : v - w < 2 ^ 31) :
    (if v < w then wrap32 (w - v) else wrap32 (v - w)) = |w - v| := by
  rw [← distance_eq]
  split
  · exact wrap32_of_lt (by omega) h
  · exact wrap32_of_lt (by omega) h'

/-- While the distances are words, the search is the one for the first least distance. -/
theorem nearestWord_fold (list : List Int) {best : Int}
    (h : ∀ w ∈ best :: list, w - v < 2 ^ 31 ∧ v - w < 2 ^ 31) :
    nearestWordChecked v list best = some (nearestWord v list best) ∧
      some (nearestWord v list best) =
        list.foldl (List.argAux fun w x => |w - v| < |x - v|) (some best) := by
  induction list generalizing best with
  | nil => exact ⟨rfl, rfl⟩
  | cons w ws ih =>
    obtain ⟨hbest, hbest'⟩ := h best List.mem_cons_self
    obtain ⟨hw, hw'⟩ := h w (List.mem_cons_of_mem _ List.mem_cons_self)
    have hnext := @ih (if |w - v| < |best - v| then w else best) (by
      intro x hx
      rcases List.mem_cons.mp hx with rfl | hx
      · split
        · exact ⟨hw, hw'⟩
        · exact ⟨hbest, hbest'⟩
      · exact h x (List.mem_cons_of_mem _ (List.mem_cons_of_mem _ hx)))
    rw [nearestWordChecked, nearestWord, checkedDistance hw hw', checkedDistance hbest hbest',
      wrappedDistance hw hw', wrappedDistance hbest hbest', List.foldl_cons]
    refine ⟨hnext.1, hnext.2.trans ?_⟩
    congr 1
    exact apply_ite some _ _ _

theorem nearestWordChecked_room (list : List Int) {best x : Int}
    (h : nearestWordChecked v list best = some x) : ∀ w ∈ list, w - v < 2 ^ 31 := by
  induction list generalizing best with
  | nil => exact fun w hw => absurd hw List.not_mem_nil
  | cons w ws ih =>
    rw [nearestWordChecked] at h
    obtain ⟨d1, hd1, h⟩ := Option.bind_eq_some_iff.mp h
    obtain ⟨d2, hd2, h⟩ := Option.bind_eq_some_iff.mp h
    intro y hy
    rcases List.mem_cons.mp hy with rfl | hy
    · unfold fitDistance at hd1
      split at hd1
      · exact (fitWord_eq_some.mp hd1).2.2
      · omega
    · exact ih h y hy

end

section
variable {r : Range} {v : Int}

theorem Range.clamp_bounds (h : r.min ≤ r.max) (v : Int) : r.min ≤ r.clamp v ∧ r.clamp v ≤ r.max := by
  unfold clamp
  split_ifs <;> omega

theorem clamp_eq (h : r.min ≤ r.max) (v : Int) :
    (if r.max < (if v < r.min then r.min else v) then r.max else if v < r.min then r.min else v) =
      r.clamp v := by
  unfold Range.clamp
  split_ifs <;> omega

theorem Range.gridPoint_near (hq : 0 < r.quant) (v : Int) :
    r.gridPoint v ≤ v + r.quant / 2 ∧ v + r.quant / 2 < r.gridPoint v + r.quant := by
  have hle := Int.ediv_mul_le (v - r.min + r.quant / 2) hq.ne'
  have hlt := Int.lt_ediv_add_one_mul_self (v - r.min + r.quant / 2) hq
  rw [Int.add_mul, Int.one_mul] at hlt
  unfold gridPoint
  omega

theorem Range.gridPoint_grid (r : Range) (v : Int) : r.quant ∣ r.gridPoint v - r.min := by
  unfold gridPoint
  rw [add_sub_cancel_left]
  exact Int.dvd_mul_left _ _

theorem Range.gridPoint_of_dvd (hq : 0 < r.quant) (h : r.quant ∣ v - r.min) : r.gridPoint v = v := by
  obtain ⟨k, hk⟩ := h
  obtain ⟨hle, hlt⟩ := Range.gridPoint_near hq v
  have hgrid : r.quant ∣ r.gridPoint v - v := by
    have hdiff : r.gridPoint v - v = (r.gridPoint v - r.min) - (v - r.min) := by omega
    rw [hdiff]
    exact Int.dvd_sub (r.gridPoint_grid v) ⟨k, hk⟩
  have hzero := Int.eq_zero_of_abs_lt_dvd hgrid (abs_lt.mpr ⟨by omega, by omega⟩)
  omega

theorem Range.gridPoint_mono (hq : 0 < r.quant) {w : Int} (h : v ≤ w) : r.gridPoint v ≤ r.gridPoint w := by
  have hdiv := Int.ediv_le_ediv hq (show v - r.min + r.quant / 2 ≤ w - r.min + r.quant / 2 by omega)
  have hmul := Int.mul_le_mul_of_nonneg_right hdiv hq.le
  unfold gridPoint
  omega

theorem Range.Sound.gridPoint_ends (hr : r.Sound) (hq : 0 < r.quant) :
    r.gridPoint r.min = r.min ∧ r.gridPoint r.max = r.max :=
  ⟨Range.gridPoint_of_dvd hq (by rw [sub_self]; exact Int.dvd_zero _),
    Range.gridPoint_of_dvd hq (hr.grid hq.ne')⟩

/-- The grid has a point at each end of the range, so it does not matter what is done first. -/
theorem Range.Sound.snap_eq (hr : r.Sound) (hq : 0 < r.quant) (v : Int) :
    r.snap v = r.gridPoint (r.clamp v) := by
  obtain ⟨hmin, hmax⟩ := hr.gridPoint_ends hq
  have hord := hr.ordered
  have hlow {w : Int} (h : w ≤ r.min) : r.gridPoint w ≤ r.min := hmin ▸ Range.gridPoint_mono hq h
  have hmid {w : Int} (h : r.min ≤ w) : r.min ≤ r.gridPoint w := hmin ▸ Range.gridPoint_mono hq h
  have hmid' {w : Int} (h : w ≤ r.max) : r.gridPoint w ≤ r.max := hmax ▸ Range.gridPoint_mono hq h
  have hhigh {w : Int} (h : r.max ≤ w) : r.max ≤ r.gridPoint w := hmax ▸ Range.gridPoint_mono hq h
  unfold snap clamp
  rw [if_neg hq.ne']
  by_cases h₁ : v < r.min
  · have hle := hlow h₁.le
    rw [if_pos h₁, hmin]
    split_ifs <;> omega
  · by_cases h₂ : r.max < v
    · have hge := hhigh h₂.le
      rw [if_neg h₁, if_pos h₂, hmax]
      split_ifs <;> omega
    · have hge := hmid (Int.not_lt.mp h₁)
      have hle := hmid' (Int.not_lt.mp h₂)
      rw [if_neg h₁, if_neg h₂]
      split_ifs <;> omega

theorem Range.Sound.quant_pos (hr : r.Sound) (hq : r.quant ≠ 0) : 0 < r.quant :=
  lt_of_le_of_ne hr.quant.1 (Ne.symm hq)

theorem Range.Sound.snap_allows (hr : r.Sound) (v : Int) : r.Allows (r.snap v) := by
  have hbounds := Range.clamp_bounds hr.ordered (if r.quant = 0 then v else r.gridPoint v)
  refine ⟨hbounds.1, hbounds.2, fun hq => ?_⟩
  rw [hr.snap_eq (hr.quant_pos hq)]
  exact r.gridPoint_grid _

theorem Range.Allows.clamp {x : Int} (h : r.Allows x) : r.clamp x = x := by
  have hmin := h.min
  have hmax := h.max
  unfold Range.clamp
  split_ifs <;> omega

theorem Range.Allows.snap {x : Int} (h : r.Allows x) (hr : r.Sound) : r.snap x = x := by
  have hclamp := h.clamp
  by_cases hq : r.quant = 0
  · unfold Range.snap
    rw [if_pos hq, hclamp]
  · rw [hr.snap_eq (hr.quant_pos hq), hclamp]
    exact Range.gridPoint_of_dvd (hr.quant_pos hq) (h.grid hq)

theorem Range.Sound.snap_outside (hr : r.Sound) (h : r.Allows (r.clamp v)) : r.snap v = r.clamp v := by
  by_cases hq : r.quant = 0
  · unfold snap
    rw [if_pos hq]
  · rw [hr.snap_eq (hr.quant_pos hq)]
    exact Range.gridPoint_of_dvd (hr.quant_pos hq) (h.grid hq)

theorem Range.Sound.snap_nearest (hr : r.Sound) (v : Int) {y : Int} (hy : r.Allows y) :
    |r.snap v - v| ≤ |y - v| := by
  have hord := hr.ordered
  have hmin := hy.min
  have hmax := hy.max
  by_cases h₁ : v < r.min
  · have hclamp : r.clamp v = r.min := if_pos h₁
    have hend : r.snap v = r.min := (hr.snap_outside (hclamp ▸
      ⟨le_rfl, hord, fun _ => by rw [sub_self]; exact Int.dvd_zero _⟩)).trans hclamp
    rw [hend, abs_of_nonneg (by omega), abs_of_nonneg (by omega)]
    omega
  by_cases h₂ : r.max < v
  · have hclamp : r.clamp v = r.max := (if_neg h₁).trans (if_pos h₂)
    have hend : r.snap v = r.max :=
      (hr.snap_outside (hclamp ▸ ⟨hord, le_rfl, hr.grid⟩)).trans hclamp
    rw [hend, abs_of_nonpos (by omega), abs_of_nonpos (by omega)]
    omega
  have hclamp : r.clamp v = v := by
    unfold clamp
    rw [if_neg h₁, if_neg h₂]
  by_cases hq : r.quant = 0
  · have hsame : r.snap v = v := by
      unfold snap
      rw [if_pos hq, hclamp]
    rw [hsame, sub_self, abs_zero]
    exact abs_nonneg _
  · have hpos := hr.quant_pos hq
    rw [hr.snap_eq hpos, hclamp]
    obtain ⟨hle, hlt⟩ := Range.gridPoint_near hpos v
    by_cases heq : y = r.gridPoint v
    · rw [heq]
    · -- another grid point is at least one step away
      have hstep : r.quant ≤ |y - r.gridPoint v| := by
        refine Int.le_of_dvd (abs_pos.mpr (sub_ne_zero.mpr heq)) ((dvd_abs _ _).mpr ?_)
        have hdiff : y - r.gridPoint v = (y - r.min) - (r.gridPoint v - r.min) := by omega
        rw [hdiff]
        exact Int.dvd_sub (hy.grid hq) (r.gridPoint_grid v)
      rcases abs_cases (y - r.gridPoint v) with ⟨h, _⟩ | ⟨h, _⟩ <;>
        rcases abs_cases (r.gridPoint v - v) with ⟨h', _⟩ | ⟨h', _⟩ <;>
          rcases abs_cases (y - v) with ⟨h'', _⟩ | ⟨h'', _⟩ <;> omega

section
variable {o : Descriptor}

theorem constrainWord_range (hc : o.constraint = .range r) (hr : r.Sound)
    (hroom : r.quant ≠ 0 → r.clamp v - r.min + r.quant / 2 < 2 ^ 31) :
    constrainWordChecked o v = some (r.snap v) ∧ (constrainWord o v).1 = r.snap v := by
  obtain ⟨hlo, hhi⟩ := Range.clamp_bounds hr.ordered v
  unfold constrainWordChecked constrainWord
  rw [hc]
  dsimp only
  rw [clamp_eq hr.ordered]
  by_cases hq : r.quant = 0
  · rw [if_neg (not_not.mpr hq), if_neg (not_not.mpr hq)]
    have hsame : r.snap v = r.clamp v := by
      unfold Range.snap
      rw [if_pos hq]
    rw [hsame]
    exact ⟨rfl, rfl⟩
  rw [if_pos hq, if_pos hq]
  have hpos := hr.quant_pos hq
  have hroom := hroom hq
  have hmin := hr.min
  have hmax := hr.max
  have hsnap := hr.snap_eq hpos v
  have hallows := hr.snap_allows v
  rw [hsnap] at hallows
  have hdist : 0 ≤ r.clamp v - r.min := by omega
  have hhalf : 0 ≤ r.quant / 2 := Int.ediv_nonneg hpos.le (by decide)
  -- The numbers of the computation are bounded by the clamped word and half a step.
  set steps := (r.clamp v - r.min + r.quant / 2) / r.quant with hsteps
  have hpoint : r.gridPoint (r.clamp v) = r.min + steps * r.quant := rfl
  have hle : steps * r.quant ≤ r.clamp v - r.min + r.quant / 2 := Int.ediv_mul_le _ hq
  have hge : 0 ≤ steps * r.quant := Int.mul_nonneg (Int.ediv_nonneg (by omega) hpos.le) hpos.le
  have hup := hallows.max
  rw [hpoint] at hup
  have htdiv : (r.clamp v - r.min + r.quant / 2).tdiv r.quant = steps :=
    Int.tdiv_eq_ediv_of_nonneg (by omega)
  constructor
  · have h₁ := fitWord_of_lt (v := r.clamp v - r.min) (by omega) (by omega)
    have h₂ := fitWord_of_lt (v := r.clamp v - r.min + r.quant / 2) (by omega) hroom
    have h₃ := fitWord_of_lt (v := steps * r.quant) (by omega) (by omega)
    have h₄ := fitWord_of_lt (v := r.min + steps * r.quant) (by omega) (by omega)
    simp only [h₁, h₂, htdiv, h₃, h₄, Option.bind_eq_bind, Option.bind_some]
    rw [if_neg (by omega), hsnap, hpoint]
    rfl
  · rw [wrap32_of_lt (v := r.clamp v - r.min) (by omega) (by omega), wrap32_of_lt (by omega) hroom, htdiv,
      wrap32_of_lt (v := steps * r.quant) (by omega) (by omega), wrap32_of_lt (by omega) (by omega),
      if_neg (by omega), hsnap, hpoint]

theorem constrainWordChecked_room {x : Int} (hc : o.constraint = .range r) (hr : r.Sound)
    (hq : r.quant ≠ 0) (h : constrainWordChecked o v = some x) :
    r.clamp v - r.min + r.quant / 2 < 2 ^ 31 := by
  unfold constrainWordChecked at h
  rw [hc] at h
  dsimp only at h
  rw [clamp_eq hr.ordered, if_pos hq] at h
  obtain ⟨d, hd, h⟩ := Option.bind_eq_some_iff.mp h
  obtain ⟨d', hd', -⟩ := Option.bind_eq_some_iff.mp h
  obtain ⟨rfl, -⟩ := fitWord_eq_some.mp hd
  exact (fitWord_eq_some.mp hd').2.2

theorem constrainWord_list {list : List Int} (hc : o.constraint = .wordList list)
    (hlist : list ≠ [] ∧ ∀ w ∈ list, 0 < w ∧ w < 2 ^ 31) (hv : v < 2 ^ 31)
    (hroom : ∀ w ∈ list, w - v < 2 ^ 31) :
    constrainWordChecked o v = some (constrainWord o v).1 ∧
      list.argmin (fun w => |w - v|) = some (constrainWord o v).1 := by
  obtain ⟨w, ws, rfl⟩ := List.exists_cons_of_ne_nil hlist.1
  have hnear : ∀ x ∈ w :: w :: ws, x - v < 2 ^ 31 ∧ v - x < 2 ^ 31 := by
    intro x hx
    have hmem : x ∈ w :: ws := by
      rcases List.mem_cons.mp hx with rfl | hx
      · exact List.mem_cons_self
      · exact hx
    have hpos := (hlist.2 x hmem).1
    exact ⟨hroom x hmem, by omega⟩
  obtain ⟨hchecked, hfold⟩ := nearestWord_fold (w :: ws) hnear
  have hfirst : List.argAux (fun w x => |w - v| < |x - v|) (some w) w = some w :=
    if_neg (lt_irrefl _)
  unfold constrainWordChecked constrainWord
  rw [hc]
  refine ⟨hchecked, Eq.trans ?_ hfold.symm⟩
  rw [List.foldl_cons, hfirst]
  rfl

theorem constrainWord_inexact (o : Descriptor) (v : Int) :
    (constrainWord o v).2 = true ↔ (constrainWord o v).1 ≠ v := bne_iff_ne

theorem snaps_free {o : Descriptor} (v : Int) (h : ∀ v, constrainWordChecked o v = some v)
    (hn : ∀ x, o.constraint.Nearest v x ↔ x = v) (hv : (constrainWord o v).1 = v) : Snaps o v :=
  ⟨by rw [h, hv], by rw [hn, hv], constrainWord_inexact o v, h _⟩

/-- `constrain_word` finds the nearest allowed value of every word, exactly when no difference that
it takes overflows. -/
theorem constrainWord_snaps_iff (o : Descriptor) (hc : o.constraint.Sound) (v : Int)
    (_ : -2 ^ 31 ≤ v) (hhi : v < 2 ^ 31) : Snaps o v ↔ o.constraint.Roomy v := by
  cases hkind : o.constraint with
  | range r =>
    rw [hkind] at hc
    have hr : r.Sound := hc
    have hkept := hr.snap_allows v
    have hclamp := hkept.clamp
    constructor
    · intro h hq
      have hfirst := constrainWordChecked_room hkind hr hq h.exact
      have hvalue := (constrainWord_range hkind hr fun _ => hfirst).2
      have hsecond := constrainWordChecked_room hkind hr hq h.settled
      rw [hvalue, hclamp] at hsecond
      omega
    · intro h
      have h : r.quant ≠ 0 → max (r.clamp v) (r.snap v) - r.min + r.quant / 2 < 2 ^ 31 := h
      obtain ⟨hexact, hvalue⟩ := constrainWord_range (v := v) hkind hr fun hq => by
        have := h hq
        omega
      obtain ⟨hagain, -⟩ := constrainWord_range (v := r.snap v) hkind hr fun hq => by
        have := h hq
        rw [hclamp]
        omega
      refine ⟨hvalue ▸ hexact, ?_, constrainWord_inexact o v, ?_⟩
      · rw [hkind, hvalue]
        exact ⟨rfl, hkept, fun y hy => hr.snap_nearest v hy⟩
      · rw [hvalue, hagain, hkept.snap hr]
  | wordList list =>
    -- A second search from the chosen word finds that word at the distance 0.
    rw [hkind] at hc
    constructor
    · intro h
      have hexact := h.exact
      unfold constrainWordChecked at hexact
      rw [hkind] at hexact
      exact nearestWordChecked_room list hexact
    · intro hroom
      obtain ⟨hexact, hvalue⟩ := constrainWord_list hkind hc hhi hroom
      have hmem : (constrainWord o v).1 ∈ list := List.argmin_mem hvalue
      refine ⟨hexact, ?_, constrainWord_inexact o v, ?_⟩
      · rw [hkind]
        exact hvalue
      · obtain ⟨hpos, hword⟩ := hc.2 _ hmem
        obtain ⟨hagain, hbest⟩ := constrainWord_list (v := (constrainWord o v).1) hkind hc hword
          fun w hw => by
            have := (hc.2 w hw).2
            omega
        have hzero := List.le_of_mem_argmin hmem hbest
        rw [sub_self, abs_zero] at hzero
        rw [hagain, sub_eq_zero.mp (abs_nonpos_iff.mp hzero)]
  | none | modeList | sourceList =>
    refine iff_of_true (snaps_free v (fun v => ?_) (fun x => ?_) ?_) trivial
    · unfold constrainWordChecked
      rw [hkind]
    · rw [hkind]
      exact Iff.rfl
    · unfold constrainWord
      rw [hkind]

end

/-- The resolution of a flatbed, requested as 500. -/
theorem constrainWord_snaps_iff_resolution :
    Snaps (initDescriptor false .resolution) 500 ↔
      (Constraint.wordList resolutionList).Roomy 500 :=
  constrainWord_snaps_iff (initDescriptor false .resolution)
    (show resolutionList ≠ [] ∧ ∀ w ∈ resolutionList, 0 < w ∧ w < 2 ^ 31 by decide) 500
    (by decide) (by decide)

/-- 100 above the least word, the distance to 75 is a word and the one to 150 is not: 150 is taken
for the nearer of the two. -/
theorem resolution_overflows :
    constrainWordChecked (initDescriptor false .resolution) (-2 ^ 31 + 100) = none ∧
      (constrainWord (initDescriptor false .resolution) (-2 ^ 31 + 100)).1 = 150 ∧
      ¬ Snaps (initDescriptor false .resolution) (-2 ^ 31 + 100) := by
  have hnone : constrainWordChecked (initDescriptor false .resolution) (-2 ^ 31 + 100) = none := by decide
  exact ⟨hnone, by decide, fun h => absurd (hnone.symm.trans h.exact) nofun⟩

theorem Range.Proper.sound {r : Range} (h : r.Proper) : r.Sound where
  ordered := h.ordered
  min := (show (-2 ^ 31 : Int) ≤ 0 by decide).trans h.min
  max := h.word.trans (by decide)
  quant := ⟨h.quant.1, h.quant.2.trans (by decide)⟩
  grid := h.grid

theorem Range.Proper.roomy {r : Range} (h : r.Proper) (v : Int) : (Constraint.range r).Roomy v := by
  intro _
  have hclamp := (Range.clamp_bounds h.ordered v).2
  have hsnap := (h.sound.snap_allows v).max
  have hmin := h.min
  have hword := h.word
  have hquant := h.quant.2
  omega

end

end PantumOpen.Scan
