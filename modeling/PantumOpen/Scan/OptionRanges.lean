import PantumOpen.Scan.Rows
import PantumOpen.Scan.Control

/-! The values of the options against the constraints in force, and the scan window against the
limits of the firmware. -/

namespace PantumOpen.Scan
open Prog

/-- Inside the range and on its grid. -/
structure Range.Allows (r : Range) (v : Int) : Prop where
  min : r.min ≤ v
  max : v ≤ r.max
  grid : r.quant ≠ 0 → r.quant ∣ v - r.min

def Handle.Allowed (h : Handle) (o : Opt) : Prop :=
  match (h.opt o).constraint with
  | .none => True
  | .range r => r.Allows (h.val.word o)
  | .wordList list => h.val.word o ∈ list
  | .modeList list => ∃ m ∈ list, h.val.mode = some m
  | .sourceList list => ∃ m ∈ list, h.val.source = some m

def yRangeOf (adf : Bool) : Range := if adf then yRangeAdf else yRange

def resolutionListOf (adf : Bool) : List Int := if adf then resolutionListAdf else resolutionList

def sourceListOf (hasAdf : Bool) : List Source := if hasAdf then sourceListAdf else sourceListFlatbed

def optionTable (hasAdf adf lineart : Bool) : Opt → Descriptor
  | .resolution => ⟨.int, plainCap, .wordList (resolutionListOf adf)⟩
  | .threshold => ⟨.fixed, ⟨true, true, !lineart⟩, .range thresholdRange⟩
  | .tlY => ⟨.fixed, plainCap, .range (yRangeOf adf)⟩
  | .brY => ⟨.fixed, plainCap, .range (yRangeOf adf)⟩
  | o => initDescriptor hasAdf o

/-- The descriptors are those that belong to the mode and the source, and every value satisfies its
own. -/
structure Handle.Ruled (h : Handle) : Prop where
  table : h.opt = optionTable h.hasAdf h.val.sourceIsAdf (h.val.modeIs .lineart)
  mode : ∃ m ∈ modeList, h.val.mode = some m
  source : ∃ m ∈ sourceListOf h.hasAdf, h.val.source = some m
  resolution : h.val.resolution ∈ resolutionListOf h.val.sourceIsAdf
  threshold : thresholdRange.Allows h.val.threshold
  tlX : xRange.Allows h.val.tlX
  tlY : (yRangeOf h.val.sourceIsAdf).Allows h.val.tlY
  brX : xRange.Allows h.val.brX
  brY : (yRangeOf h.val.sourceIsAdf).Allows h.val.brY

theorem Handle.Ruled.allowed {h : Handle} (hr : h.Ruled) (o : Opt) : h.Allowed o := by
  unfold Allowed
  rw [hr.table]
  cases o
  · trivial
  · trivial
  · exact hr.mode
  · exact hr.resolution
  · exact hr.source
  · trivial
  · exact hr.threshold
  · trivial
  · exact hr.tlX
  · exact hr.tlY
  · exact hr.brX
  · exact hr.brY

theorem wrap32_of_lt {v : Int} (hlo : -2 ^ 31 ≤ v) (hhi : v < 2 ^ 31) : wrap32 v = v := by
  unfold wrap32
  omega

theorem nearestWord_mem (v : Int) (list : List Int) {best : Int} {all : List Int}
    (hlist : ∀ w ∈ list, w ∈ all) (hbest : best ∈ all) : nearestWord v list best ∈ all := by
  induction list generalizing best with
  | nil => exact hbest
  | cons w ws ih =>
    apply ih (fun x hx => hlist x (List.mem_cons_of_mem _ hx))
    rw [apply_ite (· ∈ all)]
    exact (ite_prop_iff_and.mpr ⟨fun _ => hlist w List.mem_cons_self, fun _ => hbest⟩)

/-- A range whose ends are words and whose grid, if it has one, reaches its upper end. -/
structure Range.Proper (r : Range) : Prop where
  min : 0 ≤ r.min
  ordered : r.min ≤ r.max
  word : r.max < 2 ^ 30
  quant : 0 ≤ r.quant ∧ r.quant < 2 ^ 30
  grid : r.quant ≠ 0 → r.quant ∣ r.max - r.min

theorem constrainWord_allows {o : Descriptor} {r : Range} (hc : o.constraint = .range r)
    (hr : r.Proper) (v : Int) : r.Allows (constrainWord o v).1 := by
  have hclamp (v : Int) : r.min ≤ (if r.max < (if v < r.min then r.min else v) then r.max else
      if v < r.min then r.min else v) ∧ (if r.max < (if v < r.min then r.min else v) then r.max else
      if v < r.min then r.min else v) ≤ r.max := by
    have := hr.ordered
    split_ifs <;> omega
  unfold constrainWord
  rw [hc]
  dsimp only
  obtain ⟨hlo, hhi⟩ := hclamp v
  generalize (if r.max < (if v < r.min then r.min else v) then r.max else
    if v < r.min then r.min else v) = out at hlo hhi
  by_cases hq : r.quant = 0
  · rw [if_neg (not_not.mpr hq)]
    exact ⟨hlo, hhi, fun h => absurd hq h⟩
  rw [if_pos hq]
  have hpos : 0 < r.quant := lt_of_le_of_ne hr.quant.1 (Ne.symm hq)
  have hmin := hr.min
  have hord := hr.ordered
  have hword := hr.word
  have hquant := hr.quant.2
  -- No intermediate word overflows, so the value snaps down to a multiple of the step.
  have hsteps : wrap32 (wrap32 (out - r.min) + r.quant / 2) = out - r.min + r.quant / 2 := by
    rw [wrap32_of_lt (v := out - r.min) (by omega) (by omega)]
    exact wrap32_of_lt (by omega) (by omega)
  rw [hsteps, Int.tdiv_eq_ediv_of_nonneg (by omega)]
  set steps := (out - r.min + r.quant / 2) / r.quant
  have hle : steps * r.quant ≤ out - r.min + r.quant / 2 := Int.ediv_mul_le _ hq
  have hge : 0 ≤ steps * r.quant :=
    Int.mul_nonneg (Int.ediv_nonneg (by omega) hpos.le) hpos.le
  rw [wrap32_of_lt (v := steps * r.quant) (by omega) (by omega),
    wrap32_of_lt (by omega) (by omega)]
  split
  · exact ⟨hord, le_rfl, hr.grid⟩
  · exact ⟨by omega, by omega, fun _ => by
      rw [add_sub_cancel_left]
      exact Int.dvd_mul_left _ _⟩

theorem constrainWord_mem {o : Descriptor} {list : List Int} (hc : o.constraint = .wordList list)
    (hne : list ≠ []) (v : Int) : (constrainWord o v).1 ∈ list := by
  unfold constrainWord
  rw [hc]
  apply nearestWord_mem v list (fun _ h => h)
  obtain ⟨w, ws, rfl⟩ := List.exists_cons_of_ne_nil hne
  exact List.mem_cons_self

theorem thresholdRange_proper : thresholdRange.Proper := by
  constructor <;> decide

theorem xRange_proper : xRange.Proper := by
  constructor <;> decide

theorem yRangeOf_proper (adf : Bool) : (yRangeOf adf).Proper := by
  cases adf <;> constructor <;> decide

theorem initOptions_ruled {s : Host} (hroom : false ∉ s.allocs) :
    wp initOptions (fun _ s' => s'.h.Ruled ∧ false ∉ s'.allocs) s := by
  have hthreshold : thresholdRange.Allows (saneFix 50) := ⟨by decide, by decide, fun _ => ⟨50, rfl⟩⟩
  have htlX : xRange.Allows (saneFix 0) := ⟨by decide, by decide, fun h => absurd rfl h⟩
  have hbrX : xRange.Allows xRange.max := ⟨by decide, by decide, fun h => absurd rfl h⟩
  have htlY : yRange.Allows (saneFix 0) := ⟨by decide, by decide, fun h => absurd rfl h⟩
  have hbrY : yRange.Allows yRange.max := ⟨by decide, by decide, fun h => absurd rfl h⟩
  unfold initOptions
  rw [wp_bind]
  apply wp_mono (alloc_room hroom)
  rintro _ s₁ ⟨rfl, -, h₁⟩
  rw [after_ok, wp_bind]
  apply wp_mono (alloc_room h₁)
  rintro _ s₂ ⟨rfl, -, h₂⟩
  rw [after_ok, wp_modify]
  refine ⟨⟨?_, ⟨.gray, by decide, rfl⟩, ⟨.flatbed, ?_, rfl⟩, ?_, hthreshold, htlX, htlY, hbrX, hbrY⟩, h₂⟩
  · funext o
    cases o <;> rfl
  · change Source.flatbed ∈ sourceListOf s₂.h.hasAdf
    cases s₂.h.hasAdf <;> decide
  · change (300 : Int) ∈ resolutionListOf false
    decide

theorem Handle.setOpt_opt (h : Handle) (o p : Opt) (f : Descriptor → Descriptor) :
    (h.setOpt o f).opt p = if p = o then f (h.opt o) else h.opt p := by
  unfold setOpt
  dsimp only
  rw [Function.update_apply]

theorem updateOptionState_opt {h : Handle} {adf lineart : Bool}
    (htable : h.opt = optionTable h.hasAdf adf lineart) :
    (updateOptionState h).opt = optionTable h.hasAdf h.val.sourceIsAdf (h.val.modeIs .lineart) := by
  funext o
  unfold updateOptionState
  rw [apply_ite Handle.opt, ite_self]
  simp only [Handle.setOpt_opt, htable]
  cases o <;> rfl

theorem updateOptionState_hasAdf (h : Handle) : (updateOptionState h).hasAdf = h.hasAdf := by
  unfold updateOptionState
  rw [apply_ite Handle.hasAdf, ite_self]
  rfl

theorem updateOptionState_val (h : Handle) :
    (updateOptionState h).val =
      let yr := yRangeOf h.val.sourceIsAdf
      { h.val with
        tlY := if yr.max < h.val.tlY then yr.max else h.val.tlY
        brY := if yr.max < h.val.brY then yr.max else h.val.brY
        resolution := if h.val.sourceIsAdf ∧ 600 < h.val.resolution then 600 else h.val.resolution } := by
  have hsplit (h₁ : Handle) (c : Prop) [Decidable c] :
      (if c then { h₁ with val := { h₁.val with resolution := 600 } } else h₁).val =
        { h₁.val with resolution := if c then 600 else h₁.val.resolution } := by
    split <;> rfl
  unfold updateOptionState
  dsimp only
  rw [hsplit]
  rfl

theorem yRangeOf_allows (adf : Bool) {v : Int} (hv : 0 ≤ v) (hmax : v ≤ (yRangeOf adf).max) :
    (yRangeOf adf).Allows v := by
  refine ⟨?_, hmax, ?_⟩ <;> cases adf
  · exact hv
  · exact hv
  · exact fun h => absurd rfl h
  · exact fun h => absurd rfl h

theorem yRangeOf_clamp (adf : Bool) {v : Int} (hv : 0 ≤ v) :
    (yRangeOf adf).Allows (if (yRangeOf adf).max < v then (yRangeOf adf).max else v) := by
  split
  · exact yRangeOf_allows adf (by cases adf <;> decide) le_rfl
  · exact yRangeOf_allows adf hv (by omega)

theorem resolutionListOf_clamp (adf : Bool) {v : Int} (hv : v ∈ resolutionList) :
    (if adf ∧ 600 < v then 600 else v) ∈ resolutionListOf adf := by
  revert v
  cases adf <;> decide

/-- `update_option_state` brings the descriptors and the values that depend on them back in line
after the mode or the source has changed. -/
theorem updateOptionState_ruled {h : Handle} {adf lineart : Bool}
    (htable : h.opt = optionTable h.hasAdf adf lineart) (hmode : ∃ m ∈ modeList, h.val.mode = some m)
    (hsource : ∃ m ∈ sourceListOf h.hasAdf, h.val.source = some m)
    (hresolution : h.val.resolution ∈ resolutionList)
    (hthreshold : thresholdRange.Allows h.val.threshold) (htlX : xRange.Allows h.val.tlX)
    (htlY : 0 ≤ h.val.tlY) (hbrX : xRange.Allows h.val.brX) (hbrY : 0 ≤ h.val.brY) :
    (updateOptionState h).Ruled := by
  constructor <;> rw [updateOptionState_val]
  · rw [updateOptionState_opt htable, updateOptionState_hasAdf]
    rfl
  · exact hmode
  · rw [updateOptionState_hasAdf]
    exact hsource
  · exact resolutionListOf_clamp _ hresolution
  · exact hthreshold
  · exact htlX
  · exact yRangeOf_clamp _ htlY
  · exact hbrX
  · exact yRangeOf_clamp _ hbrY

theorem setString_ruled {β : Type} (name : β → CString) (list : List β)
    {put : Option β → Handle → Handle} {s : Host} (hroom : false ∉ s.allocs) (hs : s.h.Ruled)
    (hput : ∀ b ∈ list, (updateOptionState (put (some b) s.h)).Ruled) (value : Value) :
    wp (setString name list put value) (fun _ s' => s'.h.Ruled ∧ false ∉ s'.allocs) s := by
  unfold setString
  split
  · exact ⟨hs, hroom⟩
  rename_i b hfind
  rw [wp_bind]
  apply wp_mono (alloc_room hroom)
  rintro _ t ⟨rfl, hh, ht⟩
  refine ⟨?_, ht⟩
  change (updateOptionState (put (some b) t.h)).Ruled
  rw [hh]
  exact hput b (List.mem_of_find?_eq_some hfind)

theorem saneControlOption_ruled (option : Int) (action : Action) (value : Option Value) {s : Host}
    (hroom : false ∉ s.allocs) (hs : s.h.Ruled) :
    wp (saneControlOption option action value) (fun _ s' => s'.h.Ruled ∧ false ∉ s'.allocs) s := by
  have hresolution : s.h.val.resolution ∈ resolutionList := by
    have h := hs.resolution
    revert h
    cases s.h.val.sourceIsAdf
    · exact id
    · exact fun h => List.mem_append_left [1200] h
  have hy {v : Int} (h : (yRangeOf s.h.val.sourceIsAdf).Allows v) : 0 ≤ v := by
    have hmin := h.min
    revert hmin
    cases s.h.val.sourceIsAdf <;> exact id
  refine saneControlOption_cases (Q := fun s' => s'.h.Ruled ∧ false ∉ s'.allocs) option action value
    ⟨hs, hroom⟩ (fun o list v _ hc => ?_) (fun o list v _ hc => ?_) fun o v _ hset htype => ?_
  · have hlist : list = modeList := by
      rw [hs.table] at hc
      cases o <;> cases hc
      rfl
    exact setString_ruled _ _ hroom hs (fun m hm => updateOptionState_ruled hs.table
      ⟨m, hlist ▸ hm, rfl⟩ hs.source hresolution hs.threshold hs.tlX (hy hs.tlY) hs.brX (hy hs.brY)) v
  · have hlist : list = sourceListOf s.h.hasAdf := by
      rw [hs.table] at hc
      cases o <;> cases hc
      rfl
    exact setString_ruled _ _ hroom hs (fun m hm => updateOptionState_ruled hs.table hs.mode
      ⟨m, hlist ▸ hm, rfl⟩ hresolution hs.threshold hs.tlX (hy hs.tlY) hs.brX (hy hs.brY)) v
  · refine ⟨?_, hroom⟩
    have hd : s.h.opt o = _ := congrFun hs.table o
    rw [hd] at hset htype
    change Handle.Ruled
      { s.h with
        val := s.h.val.setWord o (if (s.h.opt o).type = .bool then (if v.word ≠ 0 then 1 else 0, false)
          else constrainWord (s.h.opt o) v.word).1 }
    rw [hd]
    set table := optionTable s.h.hasAdf s.h.val.sourceIsAdf (s.h.val.modeIs .lineart)
    have hlist : (constrainWord (table .resolution) v.word).1 ∈ resolutionListOf s.h.val.sourceIsAdf :=
      constrainWord_mem rfl (by cases s.h.val.sourceIsAdf <;> decide) v.word
    have hpercent : thresholdRange.Allows (constrainWord (table .threshold) v.word).1 :=
      constrainWord_allows rfl thresholdRange_proper v.word
    have hx : xRange.Allows (constrainWord (table .tlX) v.word).1 :=
      constrainWord_allows rfl xRange_proper v.word
    have hy : (yRangeOf s.h.val.sourceIsAdf).Allows (constrainWord (table .tlY) v.word).1 :=
      constrainWord_allows rfl (yRangeOf_proper _) v.word
    -- Only the field of the option changes, and to a word that was just found to be allowed.
    cases o
    case numOpts | modeGroup | geometryGroup => cases hset
    case mode | source => exact absurd rfl htype
    case resolution =>
      exact ⟨hs.table, hs.mode, hs.source, hlist, hs.threshold, hs.tlX, hs.tlY, hs.brX, hs.brY⟩
    case preview =>
      exact ⟨hs.table, hs.mode, hs.source, hs.resolution, hs.threshold, hs.tlX, hs.tlY, hs.brX, hs.brY⟩
    case threshold =>
      exact ⟨hs.table, hs.mode, hs.source, hs.resolution, hpercent, hs.tlX, hs.tlY, hs.brX, hs.brY⟩
    case tlX => exact ⟨hs.table, hs.mode, hs.source, hs.resolution, hs.threshold, hx, hs.tlY, hs.brX, hs.brY⟩
    case tlY => exact ⟨hs.table, hs.mode, hs.source, hs.resolution, hs.threshold, hs.tlX, hy, hs.brX, hs.brY⟩
    case brX => exact ⟨hs.table, hs.mode, hs.source, hs.resolution, hs.threshold, hs.tlX, hs.tlY, hx, hs.brY⟩
    case brY => exact ⟨hs.table, hs.mode, hs.source, hs.resolution, hs.threshold, hs.tlX, hs.tlY, hs.brX, hy⟩

def controlCalls (cs : List (Int × Action × Option Value)) (s : Host) : Host :=
  cs.foldl (fun s c => (saneControlOption c.1 c.2.1 c.2.2 s).2) s

theorem controlCalls_ruled (cs : List (Int × Action × Option Value)) {s : Host}
    (hroom : false ∉ s.allocs) (hs : s.h.Ruled) : (controlCalls cs s).h.Ruled := by
  induction cs generalizing s with
  | nil => exact hs
  | cons c cs ih =>
    obtain ⟨hr, ha⟩ := saneControlOption_ruled c.1 c.2.1 c.2.2 hroom hs
    exact ih ha hr

structure Handle.LimitsOf (h : Handle) (adf : Bool) : Prop where
  tlY : (h.opt .tlY).constraint = .range (yRangeOf adf)
  brY : (h.opt .brY).constraint = .range (yRangeOf adf)
  resolution : (h.opt .resolution).constraint = .wordList (resolutionListOf adf)

theorem Handle.Ruled.limitsOf_iff {h : Handle} (hr : h.Ruled) (adf : Bool) :
    h.LimitsOf adf ↔ h.val.sourceIsAdf = adf := by
  constructor
  · intro hl
    have hy := hl.tlY
    rw [hr.table] at hy
    have hy : yRangeOf h.val.sourceIsAdf = yRangeOf adf := Constraint.range.inj hy
    revert hy
    cases h.val.sourceIsAdf <;> cases adf <;> decide
  · rintro rfl
    constructor <;> rw [hr.table] <;> rfl

/-- From the initial options on, whatever is set in whatever order: every option that can be set
satisfies the constraint of its descriptor, the threshold is active in Lineart mode only, and the
limits in force are those of the source. -/
theorem controlCalls_allowed (s : Host) (hroom : false ∉ s.allocs)
    (cs : List (Int × Action × Option Value)) :
    let h := (controlCalls cs (initOptions s).2).h
    (∀ o, (h.opt o).cap.softSelect = true → h.Allowed o) ∧
      ((h.opt .threshold).cap.inactive = false ↔ h.val.mode = some .lineart) ∧
      (h.LimitsOf true ↔ h.val.sourceIsAdf = true) ∧ (h.LimitsOf false ↔ h.val.sourceIsAdf = false) := by
  obtain ⟨hinit, ha⟩ := initOptions_ruled hroom
  have hr := controlCalls_ruled cs ha hinit
  refine ⟨fun o _ => hr.allowed o, ?_, hr.limitsOf_iff true, hr.limitsOf_iff false⟩
  rw [hr.table]
  change (!_) = false ↔ _
  rw [Bool.not_eq_false', OptionValues.modeIs, beq_iff_eq]

theorem controlCalls_allowed_feeder :
    let s : Host := ⟨{ Handle.zero with hasAdf := true }, true, [], true⟩
    let cs := [(4, .setValue, some ⟨0, "ADF Duplex".toList⟩), (11, .setValue, some ⟨2 ^ 31 - 1, []⟩),
      (4, .setValue, some ⟨0, "flatbed".toList⟩)]
    let h := (controlCalls cs (initOptions s).2).h
    h.val.brY = yRange.max ∧ h.Allowed .brY :=
  ⟨by decide +kernel, (controlCalls_allowed _ (by decide) _).1 .brY (by decide +kernel)⟩

def OptionValues.maxY (v : OptionValues) : Int := if v.sourceIsAdf then pantumMaxYAdf else pantumMaxY

/-- The limits the firmware puts on a window. -/
structure Window.Legal (w : Window) (maxY : Int) : Prop where
  left : 0 ≤ w.left
  top : 0 ≤ w.top
  right : w.right ≤ pantumMaxX
  bottom : w.bottom ≤ maxY
  width : pantumMinWindow ≤ w.right - w.left
  height : pantumMinWindow ≤ w.bottom - w.top

structure OptionValues.CornersAllowed (v : OptionValues) : Prop where
  tlX : xRange.Allows v.tlX
  tlY : (yRangeOf v.sourceIsAdf).Allows v.tlY
  brX : xRange.Allows v.brX
  brY : (yRangeOf v.sourceIsAdf).Allows v.brY

theorem mmToUnits_nonneg (fixedMm : Int) : 0 ≤ mmToUnits fixedMm := by
  unfold mmToUnits
  split <;> omega

theorem windowAxis_bounds {lo hi limit : Int} (hlo : 0 ≤ lo) (hhi : 0 ≤ hi) (hlimit : 0 ≤ limit) :
    0 ≤ (windowAxis lo hi limit).1 ∧ (windowAxis lo hi limit).1 ≤ (windowAxis lo hi limit).2 ∧
      (windowAxis lo hi limit).2 ≤ limit := by
  unfold windowAxis pantumMinWindow
  dsimp only
  split_ifs <;> omega

structure Window.Inside (w : Window) (maxY : Int) : Prop where
  left : 0 ≤ w.left
  top : 0 ≤ w.top
  width : w.left ≤ w.right
  height : w.top ≤ w.bottom
  right : w.right ≤ pantumMaxX
  bottom : w.bottom ≤ maxY

theorem maxY_bounds (v : OptionValues) : 0 ≤ v.maxY ∧ v.maxY ≤ pantumMaxYAdf := by
  unfold OptionValues.maxY
  split <;> decide

theorem computeWindow_inside (v : OptionValues) : v.computeWindow.Inside v.maxY := by
  obtain ⟨hl, hlr, hr⟩ := windowAxis_bounds (mmToUnits_nonneg v.tlX) (mmToUnits_nonneg v.brX)
    (show 0 ≤ pantumMaxX by decide)
  obtain ⟨ht, htb, hb⟩ := windowAxis_bounds (mmToUnits_nonneg v.tlY) (mmToUnits_nonneg v.brY)
    (maxY_bounds v).1
  exact ⟨hl, ht, hlr, htb, hr, hb⟩

theorem effectiveResolution_bounds {v : OptionValues} (hv : v.resolution ∈ resolutionList) :
    75 ≤ v.effectiveResolution ∧ v.effectiveResolution ≤ 1200 := by
  have hlist : ∀ r ∈ resolutionList, 75 ≤ r ∧ r ≤ 1200 := by decide
  have hres := hlist _ hv
  unfold OptionValues.effectiveResolution
  split_ifs <;> omega

/-- Widening takes from the near corner, so a far corner too close to the origin leaves the axis
narrower than the minimum once the near one is clamped. -/
theorem windowAxis_legal_iff {lo hi limit : Int} (hlimit : pantumMinWindow ≤ limit) :
    0 ≤ (windowAxis lo hi limit).1 ∧ (windowAxis lo hi limit).2 ≤ limit ∧
      pantumMinWindow ≤ (windowAxis lo hi limit).2 - (windowAxis lo hi limit).1 ↔
    pantumMinWindow ≤ max lo hi := by
  unfold windowAxis pantumMinWindow at *
  dsimp only
  rcases le_total lo hi with h | h
  · rw [max_eq_right h]
    split_ifs <;> omega
  · rw [max_eq_left h]
    split_ifs <;> omega

/-- The window is one the firmware takes exactly when the far corner of each axis is at least the
smallest window away from the origin. -/
theorem computeWindow_legal_iff (v : OptionValues) :
    v.computeWindow.Legal v.maxY ↔
      pantumMinWindow ≤ max (mmToUnits v.tlX) (mmToUnits v.brX) ∧
      pantumMinWindow ≤ max (mmToUnits v.tlY) (mmToUnits v.brY) := by
  have hmaxY : pantumMinWindow ≤ v.maxY := by
    unfold OptionValues.maxY
    split <;> decide
  rw [← windowAxis_legal_iff (show pantumMinWindow ≤ pantumMaxX by decide), ← windowAxis_legal_iff hmaxY]
  exact ⟨fun h => ⟨⟨h.left, h.right, h.width⟩, h.top, h.bottom, h.height⟩,
    fun ⟨⟨hl, hr, hw⟩, ht, hb, hh⟩ => ⟨hl, ht, hr, hb, hw, hh⟩⟩

def emptyCorners : OptionValues := ⟨some .gray, 300, some .flatbed, 0, 0, 0, 0, 0, 0⟩

theorem emptyCorners_illegal :
    ¬ ∀ v : OptionValues, v.CornersAllowed → v.computeWindow.Legal v.maxY := by
  intro h
  have hx : xRange.Allows 0 := ⟨by decide, by decide, fun h => absurd rfl h⟩
  have hy : yRange.Allows 0 := ⟨by decide, by decide, fun h => absurd rfl h⟩
  exact absurd (h emptyCorners ⟨hx, hy, hx, hy⟩).width (by decide)

end PantumOpen.Scan
