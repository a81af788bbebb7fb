import PantumOpen.Lib.BitRow
import PantumOpen.Scan.RowContent
import PantumOpen.Scan.SideBySide

/-! A bilevel job beside the same job in gray: every row of the one is a row of the other screened to
one bit. -/

namespace PantumOpen.Scan
open Prog Bytes Buffer

structure OptionValues.Bilevel (v v' : OptionValues) : Prop where
  gray : v.mode = some .gray
  bilevel : v'.mode = some .lineart ∨ v'.mode = some .halftone
  rest : v' = { v with mode := v'.mode }

/-- The level under which a sample in column `x` of row `r` becomes black. -/
def OptionValues.screenLevel (env : Env) (v : OptionValues) (r x : Nat) : Nat :=
  if v.modeIs .halftone then (env.ditherMask (r % ditherSize * ditherSize + x % ditherSize)).toNat
  else v.lineartThreshold

structure ScreenedRow (level : Nat → Nat) (pixels : Nat) (g b : List UInt8) : Prop where
  length : g.length = pixels
  length' : b.length = (pixels + 7) / 8
  bits : ∀ x < pixels, (ofList b).bit x = decide ((ofList g x).toNat < level x)
  padding : ∀ x, pixels ≤ x → x < 8 * ((pixels + 7) / 8) → (ofList b).bit x = false

variable {env env' : Env} {v v' : OptionValues} {h h' : Handle}

theorem OptionValues.screenLevel_le (env : Env) (v : OptionValues) (r x : Nat) :
    v.screenLevel env r x ≤ 255 := by
  unfold screenLevel
  split
  · exact Nat.le_of_lt_succ (UInt8.toNat_lt _)
  · unfold lineartThreshold
    omega

namespace OptionValues.Bilevel

theorem params (hv : v.Bilevel v') : v.computeParameters.format = .gray ∧
    v.computeParameters.depth = 8 ∧
    v.computeParameters.bytesPerLine = v.computeParameters.pixelsPerLine ∧
    v'.computeParameters = { v.computeParameters with
      depth := 1, bytesPerLine := (v.computeParameters.pixelsPerLine + 7) / 8 } := by
  have hmode : v.modeIs .color = false ∧ v.modeIs .lineart = false ∧ v.modeIs .halftone = false := by
    unfold modeIs
    rw [hv.gray]
    decide
  have hmode' : v'.modeIs .color = false ∧ (v'.modeIs .lineart || v'.modeIs .halftone) = true := by
    unfold modeIs
    rcases hv.bilevel with h | h <;> rw [h] <;> decide
  have hwindow : v'.computeWindow = v.computeWindow := by rw [hv.rest]; rfl
  have hdpi : v'.effectiveResolution = v.effectiveResolution := by rw [hv.rest]; rfl
  unfold computeParameters
  simp only [hmode, hmode', hwindow, hdpi, Bool.or_self, Bool.false_eq_true, if_false, if_true]
  exact ⟨trivial, trivial, trivial, trivial⟩

theorem sourceIsAdf (hv : v.Bilevel v') : v'.sourceIsAdf = v.sourceIsAdf := by
  rw [hv.rest]
  rfl

theorem editSettings (hv : v.Bilevel v') : v'.editSettings = v.editSettings := by
  have hcolor : v.modeIs .color = false := by
    unfold modeIs
    rw [hv.gray]
    decide
  have hcolor' : v'.modeIs .color = false := by
    unfold modeIs
    rcases hv.bilevel with h | h <;> rw [h] <;> decide
  have hwindow : v'.computeWindow = v.computeWindow := by rw [hv.rest]; rfl
  have hdpi : v'.effectiveResolution = v.effectiveResolution := by rw [hv.rest]; rfl
  have hsource : v'.sourceCode = v.sourceCode := by rw [hv.rest]; rfl
  have hwords : v'.jobWords = v.jobWords := by
    unfold jobWords
    rw [hwindow, hdpi, hsource, hcolor, hcolor']
  funext settings
  unfold OptionValues.editSettings
  rw [hwords]

end OptionValues.Bilevel

theorem screenedRow_white {level : Nat → Nat} (hlevel : ∀ x, level x ≤ 255) (pixels : Nat) :
    ScreenedRow level pixels (List.replicate pixels 0xff)
      (List.replicate ((pixels + 7) / 8) 0x00) := by
  have hzero (x n : Nat) : (ofList (List.replicate n (0x00 : UInt8))).bit x = false := by
    apply bit_of_zero
    simp only [ofList, List.getD_eq_getElem?_getD, List.getElem?_replicate]
    split <;> rfl
  refine ⟨List.length_replicate, List.length_replicate, fun x hx => ?_, fun x _ _ => hzero x _⟩
  have hff : ofList (List.replicate pixels (0xff : UInt8)) x = 0xff := by simp [ofList, hx]
  rw [hzero, hff]
  exact (decide_eq_false (not_lt.mpr (hlevel x))).symm

/-- Where a gray row of `avail` samples shows no sample: in a white margin, or past the end. -/
def Handle.Blank (h : Handle) (avail row x : Nat) : Prop :=
  h.whiteRow row = true ∨ x < min h.whiteLeft h.params.pixelsPerLine ∨
    h.params.pixelsPerLine - min h.whiteRight h.params.pixelsPerLine ≤ x ∨
    min avail h.params.pixelsPerLine ≤ x

instance (h : Handle) (avail row x : Nat) : Decidable (h.Blank avail row x) :=
  inferInstanceAs (Decidable (_ ∨ _ ∨ _ ∨ _))

theorem convertRow_gray (hf : h.params.format = .gray) (hd : h.params.depth = 8)
    (hl : h.params.bytesPerLine = h.params.pixelsPerLine) (src : Buffer) (avail row : Nat)
    (dst : Buffer) {x : Nat} (hx : x < h.params.pixelsPerLine) :
    convertRow env h src avail row dst x = if h.Blank avail row x then 0xff else h.gamma (src x) := by
  unfold convertRow
  dsimp only
  by_cases hwhite : h.whiteRow row = true
  · rw [if_pos hwhite, if_pos (show h.Blank avail row x from .inl hwhite)]
    unfold Parameters.white
    rw [hd, hl]
    simp [memset, hx]
  rw [if_neg hwhite, if_neg (by rw [hf]; decide), if_neg (by rw [hd]; decide)]
  simp only [memset, forRange_store_apply]
  by_cases hblank : h.Blank avail row x
  · rw [if_pos hblank]
    have hmargin := hblank.resolve_left hwhite
    split_ifs <;> first | rfl | omega
  · rw [if_neg hblank]
    unfold Handle.Blank at hblank
    split_ifs <;> first | rfl | omega

theorem convertRow_bilevel (hf : h.params.format = .gray) (hd : h.params.depth = 1) (src : Buffer)
    (avail row : Nat) (dst : Buffer) {x : Nat} (hx : x < 8 * h.params.bytesPerLine)
    {level : Nat} (hlevel : level = if h.halftone then
      (env.ditherMask (row % ditherSize * ditherSize + x % ditherSize)).toNat else h.threshold) :
    (convertRow env h src avail row dst).bit x =
      (decide (¬ h.Blank avail row x) && decide ((h.gamma (src x)).toNat < level)) := by
  unfold convertRow
  dsimp only
  have hbyte : x / 8 < h.params.bytesPerLine := by omega
  by_cases hwhite : h.whiteRow row = true
  · rw [if_pos hwhite, decide_eq_false (not_not.mpr (show h.Blank avail row x from .inl hwhite)),
      Bool.false_and]
    apply bit_of_zero
    unfold Parameters.white
    rw [hd]
    simp [memset, hbyte]
  rw [if_neg hwhite, if_neg (by rw [hf]; decide), if_pos hd]
  have hclear : (dst.memset 0 0 h.params.bytesPerLine).bit x = false :=
    bit_of_zero (by simp [memset, hbyte])
  have hblack : (if h.halftone = true then decide (h.gamma (src x) <
      env.ditherMask (row % ditherSize * ditherSize + x % ditherSize))
      else decide ((h.gamma (src x)).toNat < h.threshold)) =
      decide ((h.gamma (src x)).toNat < level) := by
    rw [hlevel]
    split <;> rfl
  have hloop := bit_forRange_setBit (dst.memset 0 0 h.params.bytesPerLine)
    (fun i => if h.halftone = true then decide (h.gamma (src i) <
      env.ditherMask (row % ditherSize * ditherSize + i % ditherSize))
      else decide ((h.gamma (src i)).toNat < h.threshold))
    (min h.whiteLeft h.params.pixelsPerLine)
    (min (min avail h.params.pixelsPerLine)
      (h.params.pixelsPerLine - min h.whiteRight h.params.pixelsPerLine) -
        min h.whiteLeft h.params.pixelsPerLine) x
  apply hloop.trans
  rw [hclear, Bool.false_or, hblack]
  congr 1
  apply decide_eq_decide.mpr
  unfold Handle.Blank
  rw [not_or, not_or, not_or]
  -- A dot can only be set inside the margins and before the samples end.
  constructor
  · rintro ⟨hlo, hhi⟩
    exact ⟨hwhite, by omega, by omega, by omega⟩
  · rintro ⟨-, hlead, htail, hn⟩
    exact ⟨by omega, by omega⟩

/-- A gray handle and a bilevel one from which the same page would be scanned. -/
structure Handle.Matched (v v' : OptionValues) (h h' : Handle) : Prop where
  flags : h'.flags = h.flags
  val : h.val = v ∧ h'.val = v'
  params : h.params = v.computeParameters ∧ h'.params = v'.computeParameters
  screen : h'.threshold = v'.lineartThreshold ∧ h'.halftone = v'.modeIs .halftone
  gamma : h'.gamma = h.gamma
  white : h'.whiteTop = h.whiteTop ∧ h'.whiteBottom = h.whiteBottom ∧ h'.whiteLeft = h.whiteLeft ∧
    h'.whiteRight = h.whiteRight

/-- A gray handle and a bilevel one at the same point of the same page, of which `ds` and `ds'` have
been delivered; `z` tells whether the page is still being started. -/
structure Handle.Screened (env' : Env) (v v' : OptionValues) (z : Prop) (ds ds' : List UInt8)
    (h h' : Handle) : Prop extends Handle.Matched v v' h h' where
  nextRow : h'.nextRow = h.nextRow
  queue : h.Queue ∧ h'.Queue
  start : z → h.outPos = 0 ∧ h'.outPos = 0 ∧ ds = [] ∧ ds' = []
  rows : ∃ g b, ds ++ h.pending = concatRange g 0 h.nextRow ∧
    ds' ++ h'.pending = concatRange b 0 h.nextRow ∧ ∀ r < h.nextRow,
      ScreenedRow (v'.screenLevel env' r) v.computeParameters.pixelsPerLine (g r) (b r)

namespace Handle.Screened
variable {z : Prop} {ds ds' : List UInt8} (a : h.Screened env' v v' z ds ds' h') (hv : v.Bilevel v')
include a hv

theorem blank (avail row x : Nat) : h'.Blank avail row x ↔ h.Blank avail row x := by
  have hpixels : h'.params.pixelsPerLine = h.params.pixelsPerLine := by
    rw [a.params.1, a.params.2, hv.params.2.2.2]
  have hlines : h'.params.lines = h.params.lines := by
    rw [a.params.1, a.params.2, hv.params.2.2.2]
  unfold Blank whiteRow
  rw [hpixels, hlines, a.white.1, a.white.2.1, a.white.2.2.1, a.white.2.2.2]

theorem convertRow (src : Buffer) (avail r : Nat) (dst dst' : Buffer) :
    ScreenedRow (v'.screenLevel env' r) v.computeParameters.pixelsPerLine
      ((Scan.convertRow env h src avail r dst).bytes h.params.bytesPerLine)
      ((Scan.convertRow env' h' src avail r dst').bytes h'.params.bytesPerLine) := by
  obtain ⟨hf, hd, hl, hp'⟩ := hv.params
  have hline : h.params.bytesPerLine = v.computeParameters.pixelsPerLine := by rw [a.params.1, hl]
  have hline' : h'.params.bytesPerLine = (v.computeParameters.pixelsPerLine + 7) / 8 := by
    rw [a.params.2, hp']
  have hgray (x : Nat) (hx : x < v.computeParameters.pixelsPerLine) :
      Scan.convertRow env h src avail r dst x = if h.Blank avail r x then 0xff else h.gamma (src x) :=
    convertRow_gray (by rw [a.params.1, hf]) (by rw [a.params.1, hd]) (by rw [a.params.1, hl]) src
      avail r dst (by rw [a.params.1]; exact hx)
  have hbit (x : Nat) (hx : x < 8 * h'.params.bytesPerLine) :
      (Scan.convertRow env' h' src avail r dst').bit x = (decide (¬ h'.Blank avail r x) &&
        decide ((h'.gamma (src x)).toNat < v'.screenLevel env' r x)) :=
    convertRow_bilevel (by rw [a.params.2, hp']; exact hf) (by rw [a.params.2, hp']) src avail r dst'
      hx (by
        rw [a.screen.1, a.screen.2]
        rfl)
  refine ⟨by rw [bytes_length, hline], by rw [bytes_length, hline'], fun x hx => ?_, fun x hlo hhi => ?_⟩
  · have hx' : x < 8 * h'.params.bytesPerLine := by rw [hline']; omega
    rw [bit_ofList_bytes _ hx', hbit x hx', ofList_bytes _ (by rw [hline]; exact hx), hgray x hx, a.gamma,
      decide_eq_decide.mpr (not_congr (a.blank hv avail r x))]
    by_cases hb : h.Blank avail r x
    · rw [if_pos hb, decide_eq_false (not_not.mpr hb), Bool.false_and]
      exact (decide_eq_false (not_lt.mpr (v'.screenLevel_le env' r x))).symm
    · rw [if_neg hb, decide_eq_true hb, Bool.true_and]
  · have hx' : x < 8 * h'.params.bytesPerLine := by rw [hline']; exact hhi
    have hb : h'.Blank avail r x := by
      refine .inr (.inr (.inr ?_))
      rw [a.params.2, hp']
      exact (Nat.min_le_right _ _).trans hlo
    rw [bit_ofList_bytes _ hx', hbit x hx', decide_eq_false (not_not.mpr hb), Bool.false_and]

theorem whiteLine (r : Nat) :
    ScreenedRow (v'.screenLevel env' r) v.computeParameters.pixelsPerLine h.params.whiteLine
      h'.params.whiteLine := by
  obtain ⟨-, hd, hl, hp'⟩ := hv.params
  have hwhite := screenedRow_white (v'.screenLevel_le env' r) v.computeParameters.pixelsPerLine
  unfold Parameters.whiteLine Parameters.white
  rwa [a.params.1, a.params.2, hp', if_neg (by rw [hd]; decide), if_pos rfl, hl]

theorem blockRow (k : Block) (r : Nat) :
    ScreenedRow (v'.screenLevel env' r) v.computeParameters.pixelsPerLine (Scan.blockRow env h k r)
      (Scan.blockRow env' h' k r) := by
  unfold Scan.blockRow
  split
  · exact a.convertRow hv _ _ _ _ _
  · exact a.whiteLine hv r

end Handle.Screened

section
variable {z : Prop} {ds ds' : List UInt8}

theorem Handle.Screened.emits {s s' t t' : Host} {f f' : Nat → List UInt8}
    (a : s.h.Screened env' v v' z ds ds' s'.h) (he : Emits f s t) (he' : Emits f' s' t')
    (hn : t'.h.nextRow = t.h.nextRow) (hf : ∀ r, s.h.nextRow ≤ r → r < t.h.nextRow →
      ScreenedRow (v'.screenLevel env' r) v.computeParameters.pixelsPerLine (f r) (f' r)) :
    t.h.Screened env' v v' z ds ds' t'.h := by
  obtain ⟨g, b, hg, hb, hrows⟩ := a.rows
  refine ⟨⟨?_, ⟨he.control.val.trans a.val.1, he'.control.val.trans a.val.2⟩,
    ⟨he.control.params.trans a.params.1, he'.control.params.trans a.params.2⟩,
    ⟨(he'.control.get Handle.threshold).trans a.screen.1,
      (he'.control.get Handle.halftone).trans a.screen.2⟩, ?_, ?_⟩, hn,
    ⟨(he.queue a.queue.1).1, (he'.queue a.queue.2).1⟩, fun hz => ?_, ?_⟩
  · rw [he.control.get Handle.flags, he'.control.get Handle.flags, a.flags]
  · rw [he.control.get Handle.gamma, he'.control.get Handle.gamma, a.gamma]
  · rw [he.control.get Handle.whiteTop, he'.control.get Handle.whiteTop,
      he.control.get Handle.whiteBottom, he'.control.get Handle.whiteBottom,
      he.control.get Handle.whiteLeft, he'.control.get Handle.whiteLeft,
      he.control.get Handle.whiteRight, he'.control.get Handle.whiteRight]
    exact a.white
  · obtain ⟨h0, h0', hds⟩ := a.start hz
    exact ⟨he.rewound h0, he'.rewound h0', hds⟩
  · -- Row `r` is an old row or one of the new ones.
    refine ⟨fun r => if r < s.h.nextRow then g r else f r,
      fun r => if r < s.h.nextRow then b r else f' r, ?_, ?_, fun r hr => ?_⟩
    · rw [(he.queue a.queue.1).2, ← List.append_assoc, hg, ← concatRange_append (Nat.zero_le _) he.mono]
      congr 1
      · exact concatRange_congr fun r _ hr => (if_pos hr).symm
      · exact concatRange_congr fun r hr _ => (if_neg (not_lt.mpr hr)).symm
    · rw [(he'.queue a.queue.2).2, ← List.append_assoc, hb, a.nextRow, hn,
        ← concatRange_append (Nat.zero_le _) he.mono]
      congr 1
      · exact concatRange_congr fun r _ hr => (if_pos hr).symm
      · exact concatRange_congr fun r hr _ => (if_neg (not_lt.mpr hr)).symm
    · dsimp only
      by_cases hlo : r < s.h.nextRow
      · rw [if_pos hlo, if_pos hlo]
        exact hrows r hlo
      · rw [if_neg hlo, if_neg hlo]
        exact hf r (not_lt.mp hlo) hr

variable (hv : v.Bilevel v')
include hv

theorem screened_companions (hdbg : env'.dbgLevel = env.dbgLevel) :
    Companions env env' (Host.Along (Handle.Screened env' v v' z ds ds')) where
  dbgLevel := hdbg
  flags hs := hs.handle.flags
  source hs := by rw [hs.handle.val.1, hs.handle.val.2, hv.sourceIsAdf]
  settings hs := by rw [hs.handle.val.1, hs.handle.val.2, hv.editSettings]
  format hs := by rw [hs.handle.params.1, hs.handle.params.2, hv.params.2.2.2]
  lines hs := by rw [hs.handle.params.1, hs.handle.params.2, hv.params.2.2.2]
  update fl hs := ⟨⟨⟨rfl, hs.handle.val, hs.handle.params, hs.handle.screen, hs.handle.gamma,
    hs.handle.white⟩, hs.handle.nextRow, hs.handle.queue, hs.handle.start, hs.handle.rows⟩, hs.valid,
    hs.allocs⟩
  reserve := sim_rawReserve fun s s' t t' hh he he' hn hn' =>
    hh.emits he he' (hn'.trans (hh.nextRow.trans hn.symm)) fun r hlo hhi => by omega
  fill upto := by
    refine sim_of_emits fun s s' hs => ⟨_, _, _,
      emitWhiteRows_spec (f := fun _ => s.h.params.whiteLine) env upto fun _ _ _ => rfl, ?_,
      fun t t' he he' hn hn' => hs.handle.emits he he' (hn'.trans hn.symm) fun r _ _ =>
        hs.handle.whiteLine hv r⟩
    have hlines : s'.h.params.lines = s.h.params.lines := by
      rw [hs.handle.params.1, hs.handle.params.2, hv.params.2.2.2]
    have hspec := emitWhiteRows_spec (f := fun _ => s'.h.params.whiteLine) env' upto
      (s := s') fun _ _ _ => rfl
    rwa [hlines, hs.handle.nextRow] at hspec
  place k hfirst hrows := by
    refine sim_of_emits fun s s' hs => ⟨_, _, _, placeBlock_spec env k hfirst hrows s, ?_,
      fun t t' he he' hn hn' => hs.handle.emits he he' (hn'.trans hn.symm) fun r _ _ =>
        hs.handle.blockRow hv k r⟩
    have hlines : s'.h.params.lines = s.h.params.lines := by
      rw [hs.handle.params.1, hs.handle.params.2, hv.params.2.2.2]
    have hspec := placeBlock_spec env' k hfirst hrows s'
    rwa [hlines, hs.handle.nextRow] at hspec

end

end PantumOpen.Scan
