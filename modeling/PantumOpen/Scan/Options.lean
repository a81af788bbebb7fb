import PantumOpen.Scan.Protocol

/-! The option table, the values behind it and what is computed from them: resolution, window
and frame parameters. -/

namespace PantumOpen.Scan

abbrev CString := List Char

/-- `strcasecmp (a, b) == 0`. -/
def strcasecmp (a b : CString) : Bool := a.map Char.toLower == b.map Char.toLower

inductive Mode
  | lineart | halftone | gray | color
  deriving DecidableEq, Repr

def Mode.name : Mode → CString
  | .lineart => "Lineart".toList
  | .halftone => "Halftone".toList
  | .gray => "Gray".toList
  | .color => "Color".toList

inductive Source
  | flatbed | adf | adfDuplex
  deriving DecidableEq, Repr

def Source.name : Source → CString
  | .flatbed => "Flatbed".toList
  | .adf => "ADF".toList
  | .adfDuplex => "ADF Duplex".toList

inductive Opt
  | numOpts | modeGroup | mode | resolution | source | preview | threshold | geometryGroup
  | tlX | tlY | brX | brY
  deriving DecidableEq, Repr

def numOptions : Int := 12

def Opt.all : List Opt :=
  [.numOpts, .modeGroup, .mode, .resolution, .source, .preview, .threshold, .geometryGroup,
    .tlX, .tlY, .brX, .brY]

def Opt.ofNumber (option : Int) : Option Opt :=
  if option < 0 ∨ numOptions ≤ option then none else Opt.all[option.toNat]?

structure Range where
  min : Int
  max : Int
  quant : Int
  deriving DecidableEq, Repr

inductive OptType
  | bool | int | fixed | string | group
  deriving DecidableEq, Repr

structure Cap where
  softSelect : Bool
  softDetect : Bool
  inactive : Bool
  deriving DecidableEq, Repr

inductive Constraint
  | none
  | range (r : Range)
  | wordList (list : List Int)
  | modeList (list : List Mode)
  | sourceList (list : List Source)
  deriving DecidableEq, Repr

/-- `SANE_Option_Descriptor`, as far as the backend reads it back. -/
structure Descriptor where
  type : OptType
  cap : Cap
  constraint : Constraint
  deriving DecidableEq, Repr

/-- The `val` array. A string option whose copy could not be allocated holds `none`. -/
structure OptionValues where
  mode : Option Mode
  resolution : Int
  source : Option Source
  preview : Int
  threshold : Int
  tlX : Int
  tlY : Int
  brX : Int
  brY : Int
  deriving DecidableEq, Repr

def modeList : List Mode := [.lineart, .halftone, .gray, .color]
def sourceListFlatbed : List Source := [.flatbed]
def sourceListAdf : List Source := [.flatbed, .adf, .adfDuplex]
def resolutionList : List Int := [75, 150, 300, 600, 1200]
def resolutionListAdf : List Int := [75, 150, 300, 600]

def saneFix (v : Int) : Int := v * 65536

/-- `SANE_FIX (units * MM_PER_UNIT)`, truncated as the cast to `SANE_Word` does. -/
def saneFixUnits (units : Int) : Int := units * 254 * 65536 / 1000

def thresholdRange : Range := ⟨saneFix 0, saneFix 100, saneFix 1⟩
def xRange : Range := ⟨saneFix 0, saneFixUnits pantumMaxX, saneFix 0⟩
def yRange : Range := ⟨saneFix 0, saneFixUnits pantumMaxY, saneFix 0⟩
def yRangeAdf : Range := ⟨saneFix 0, saneFixUnits pantumMaxYAdf, saneFix 0⟩

def OptionValues.modeIs (v : OptionValues) (name : Mode) : Bool := v.mode == some name

def OptionValues.sourceCode (v : OptionValues) : Nat :=
  match v.source with
  | some .adf => sourceAdf
  | some .adfDuplex => sourceAdfDuplex
  | _ => sourceFlatbed

def OptionValues.sourceIsAdf (v : OptionValues) : Bool := v.sourceCode != sourceFlatbed

def OptionValues.effectiveResolution (v : OptionValues) : Int :=
  if v.preview ≠ 0 then 75
  else if 600 < v.resolution ∧ v.sourceIsAdf then 600
  else v.resolution

/-- `mm_to_units`. The source divides doubles; a fixed-point word times 125 / 2080768 stays at
least 1 / 4161536 away from any half unless it hits one exactly, and those are exact in double
precision too, so whole-number division rounds the same way. -/
def mmToUnits (fixedMm : Int) : Int :=
  if fixedMm < 0 then 0 else (250 * fixedMm + 2080768) / 4161536

/-- The scan window in hundredths of an inch. -/
structure Window where
  left : Int
  top : Int
  right : Int
  bottom : Int
  deriving DecidableEq, Repr

/-- One axis of `compute_window`: order the corners, clamp the far one, widen to the minimum. -/
def windowAxis (lo hi limit : Int) : Int × Int :=
  let l := if hi < lo then hi else lo
  let r := if hi < lo then lo else hi
  let r := if limit < r then limit else r
  let l := if r - l < pantumMinWindow then r - pantumMinWindow else l
  (if l < 0 then 0 else l, r)

def OptionValues.computeWindow (v : OptionValues) : Window :=
  let maxY := if v.sourceIsAdf then pantumMaxYAdf else pantumMaxY
  let x := windowAxis (mmToUnits v.tlX) (mmToUnits v.brX) pantumMaxX
  let y := windowAxis (mmToUnits v.tlY) (mmToUnits v.brY) maxY
  ⟨x.1, y.1, x.2, y.2⟩

inductive Format
  | gray | rgb
  deriving DecidableEq, Repr

structure Parameters where
  format : Format
  lastFrame : Bool
  depth : Nat
  pixelsPerLine : Nat
  lines : Nat
  bytesPerLine : Nat
  deriving DecidableEq, Repr

/-- What both axes of the frame share: hundredths of an inch to dots, at least one. -/
def windowDots (extent dpi : Int) : Nat :=
  let dots := (extent * dpi).tdiv 100
  (if dots < 1 then 1 else dots).toNat

def OptionValues.computeParameters (v : OptionValues) : Parameters :=
  let dpi := v.effectiveResolution
  let w := v.computeWindow
  let pixels := windowDots (w.right - w.left) dpi
  let lines := windowDots (w.bottom - w.top) dpi
  if v.modeIs .color then ⟨.rgb, true, 8, pixels, lines, pixels * 3⟩
  else if v.modeIs .lineart || v.modeIs .halftone then
    ⟨.gray, true, 1, pixels, lines, (pixels + 7) / 8⟩
  else ⟨.gray, true, 8, pixels, lines, pixels⟩

theorem windowDots_pos (extent dpi : Int) : 0 < windowDots extent dpi := by
  unfold windowDots
  dsimp only
  split <;> omega

theorem OptionValues.lines_pos (v : OptionValues) : 0 < v.computeParameters.lines := by
  unfold computeParameters
  dsimp only
  split_ifs <;> exact windowDots_pos _ _

theorem OptionValues.bytesPerLine_pos (v : OptionValues) :
    0 < v.computeParameters.bytesPerLine := by
  have h := windowDots_pos (v.computeWindow.right - v.computeWindow.left) v.effectiveResolution
  unfold computeParameters
  dsimp only
  split_ifs <;> dsimp only <;> omega

end PantumOpen.Scan
