import PantumOpen.Scan.Handle

/-! The option table of a handle and `sane_pantum_control_option`. -/

namespace PantumOpen.Scan
open Prog

def plainCap : Cap := ⟨true, true, false⟩

def initDescriptor (hasAdf : Bool) : Opt → Descriptor
  | .numOpts => ⟨.int, ⟨false, true, false⟩, .none⟩
  | .modeGroup => ⟨.group, ⟨false, false, false⟩, .none⟩
  | .mode => ⟨.string, plainCap, .modeList modeList⟩
  | .resolution => ⟨.int, plainCap, .wordList resolutionList⟩
  | .source => ⟨.string, plainCap, .sourceList (if hasAdf then sourceListAdf else sourceListFlatbed)⟩
  | .preview => ⟨.bool, plainCap, .none⟩
  | .threshold => ⟨.fixed, ⟨true, true, true⟩, .range thresholdRange⟩
  | .geometryGroup => ⟨.group, ⟨false, false, false⟩, .none⟩
  | .tlX => ⟨.fixed, plainCap, .range xRange⟩
  | .tlY => ⟨.fixed, plainCap, .range yRange⟩
  | .brX => ⟨.fixed, plainCap, .range xRange⟩
  | .brY => ⟨.fixed, plainCap, .range yRange⟩

/-- The copies of the two default strings may fail; nothing checks them. -/
def initOptions : Prog Status Host Unit := do
  let mode ← alloc
  let source ← alloc
  modify <| Host.onHandle fun h =>
    { h with
      opt := initDescriptor h.hasAdf
      val :=
        { mode := if mode then some .gray else none
          resolution := 300
          source := if source then some .flatbed else none
          preview := 0
          threshold := saneFix 50
          tlX := saneFix 0
          tlY := saneFix 0
          brX := xRange.max
          brY := yRange.max } }

def Handle.setOpt (h : Handle) (o : Opt) (f : Descriptor → Descriptor) : Handle :=
  { h with opt := Function.update h.opt o (f (h.opt o)) }

def updateOptionState (h : Handle) : Handle :=
  let adf := h.val.sourceIsAdf
  let yr := if adf then yRangeAdf else yRange
  let h := h.setOpt .threshold fun d =>
    { d with cap := { d.cap with inactive := !h.val.modeIs .lineart } }
  let h := h.setOpt .tlY fun d => { d with constraint := .range yr }
  let h := h.setOpt .brY fun d => { d with constraint := .range yr }
  let h := { h with val := { h.val with
    tlY := if yr.max < h.val.tlY then yr.max else h.val.tlY
    brY := if yr.max < h.val.brY then yr.max else h.val.brY } }
  let h := h.setOpt .resolution fun d =>
    { d with constraint := .wordList (if adf then resolutionListAdf else resolutionList) }
  if adf ∧ 600 < h.val.resolution then { h with val := { h.val with resolution := 600 } } else h

/-- A `SANE_Word` result, as two's complement hardware leaves it. -/
def wrap32 (v : Int) : Int := (v + 2 ^ 31) % 2 ^ 32 - 2 ^ 31

/-- The nearest word of a list, the first of them on a tie. -/
def nearestWord (v : Int) : List Int → Int → Int
  | [], best => best
  | w :: ws, best =>
    let d1 := if v < w then wrap32 (w - v) else wrap32 (v - w)
    let d2 := if v < best then wrap32 (best - v) else wrap32 (v - best)
    nearestWord v ws (if d1 < d2 then w else best)

def constrainWord (o : Descriptor) (v : Int) : Int × Bool :=
  let out := match o.constraint with
    | .range r =>
      let out := if v < r.min then r.min else v
      let out := if r.max < out then r.max else out
      if r.quant ≠ 0 then
        let steps := (wrap32 (wrap32 (out - r.min) + r.quant / 2)).tdiv r.quant
        let out := wrap32 (r.min + wrap32 (steps * r.quant))
        if r.max < out then r.max else out
      else out
    | .wordList list => nearestWord v list (list.headD 0)
    | _ => v
  (out, out != v)

def OptionValues.word (v : OptionValues) : Opt → Int
  | .numOpts => numOptions
  | .resolution => v.resolution
  | .preview => v.preview
  | .threshold => v.threshold
  | .tlX => v.tlX
  | .tlY => v.tlY
  | .brX => v.brX
  | .brY => v.brY
  | _ => 0

def OptionValues.setWord (v : OptionValues) (o : Opt) (w : Int) : OptionValues :=
  match o with
  | .resolution => { v with resolution := w }
  | .preview => { v with preview := w }
  | .threshold => { v with threshold := w }
  | .tlX => { v with tlX := w }
  | .tlY => { v with tlY := w }
  | .brX => { v with brX := w }
  | .brY => { v with brY := w }
  | _ => v

def OptionValues.string (v : OptionValues) : Opt → CString
  | .mode => (v.mode.map Mode.name).getD []
  | .source => (v.source.map Source.name).getD []
  | _ => []

/-- `SANE_Action`; the last constructor is any other number. -/
inductive Action
  | getValue | setValue | setAuto | other
  deriving DecidableEq, Repr

/-- The buffer of a call, read as a word and as a string. -/
structure Value where
  word : Int
  str : CString
  deriving DecidableEq, Repr

structure Info where
  inexact : Bool
  reloadOptions : Bool
  reloadParams : Bool
  deriving DecidableEq, Repr

structure Reply where
  value : Value
  info : Info
  deriving DecidableEq, Repr

def noInfo : Info := ⟨false, false, false⟩

/-- Setting a string option whose allowed values are `list`; `put` stores the copy, if there is
one. The old value is freed first. -/
def setString {α : Type} (name : α → CString) (list : List α) (put : Option α → Handle → Handle)
    (value : Value) : Prog Status Host Reply :=
  match list.find? fun a => strcasecmp (name a) value.str with
  | none => fail .inval
  | some a => do
    if ← alloc then do
      modify <| Host.onHandle fun h => updateOptionState (put (some a) h)
      pure ⟨value, ⟨false, true, true⟩⟩
    else do
      modify <| Host.onHandle (put none)
      fail .noMem

def setWord (o : Opt) (d : Descriptor) (value : Value) : Prog Status Host Reply := do
  let v := if d.type = .bool then (if value.word ≠ 0 then 1 else 0, false)
    else constrainWord d value.word
  modify <| Host.onHandle fun h => { h with val := h.val.setWord o v.1 }
  pure
    { value := if v.2 then { value with word := v.1 } else value
      info :=
        { inexact := v.2
          reloadOptions := false
          reloadParams := o ∈ [Opt.resolution, .preview, .tlX, .tlY, .brX, .brY] } }

def saneControlOption (option : Int) (action : Action) (value : Option Value) :
    Prog Status Host Reply := do
  let s ← read
  match Opt.ofNumber option with
  | none => fail .inval
  | some o =>
    if !s.valid then fail .inval
    else if s.h.scanning then fail .deviceBusy
    else
      let d := s.h.opt o
      if d.cap.inactive then fail .inval
      else match action with
      | .getValue =>
        match value with
        | none => fail .inval
        | some value =>
          if d.type = .group then fail .inval
          else if d.type = .string then pure ⟨{ value with str := s.h.val.string o }, noInfo⟩
          else pure ⟨{ value with word := s.h.val.word o }, noInfo⟩
      | .setValue =>
        match value with
        | none => fail .inval
        | some value =>
          if !d.cap.softSelect then fail .inval
          else if d.type = .string then
            match d.constraint with
            | .modeList list =>
              setString Mode.name list (fun m h => { h with val := { h.val with mode := m } }) value
            | .sourceList list =>
              setString Source.name list (fun m h => { h with val := { h.val with source := m } })
                value
            | _ => fail .inval
          else setWord o d value
      | .setAuto => fail .unsupported
      | .other => fail .inval

theorem saneControlOption_cases {Q : Host → Prop} {s : Host} (option : Int) (action : Action)
    (value : Option Value) (hsame : Q s)
    (hmode : ∀ o list v, s.h.scanning = false → (s.h.opt o).constraint = .modeList list →
      wp (setString Mode.name list (fun m h => { h with val := { h.val with mode := m } }) v)
        (fun _ s' => Q s') s)
    (hsource : ∀ o list v, s.h.scanning = false → (s.h.opt o).constraint = .sourceList list →
      wp (setString Source.name list (fun m h => { h with val := { h.val with source := m } }) v)
        (fun _ s' => Q s') s)
    (hword : ∀ o v, s.h.scanning = false → (s.h.opt o).cap.softSelect = true →
      (s.h.opt o).type ≠ .string → wp (setWord o (s.h.opt o) v) (fun _ s' => Q s') s) :
    wp (saneControlOption option action value) (fun _ s' => Q s') s := by
  unfold saneControlOption
  rw [wp_bind, wp_read, after_ok]
  split
  · exact hsame
  rename_i o _
  rw [wp_ite]
  refine ⟨fun _ => hsame, fun _ => ?_⟩
  rw [wp_ite]
  refine ⟨fun _ => hsame, fun hscan => ?_⟩
  have hscan : s.h.scanning = false := Bool.eq_false_of_not_eq_true hscan
  dsimp only
  rw [wp_ite]
  refine ⟨fun _ => hsame, fun _ => ?_⟩
  match action with
  | .setAuto => exact hsame
  | .other => exact hsame
  | .getValue =>
    match value with
    | none => exact hsame
    | some value =>
      dsimp only
      rw [wp_ite]
      refine ⟨fun _ => hsame, fun _ => ?_⟩
      rw [wp_ite]
      exact ⟨fun _ => hsame, fun _ => hsame⟩
  | .setValue =>
    match value with
    | none => exact hsame
    | some value =>
      dsimp only
      rw [wp_ite]
      refine ⟨fun _ => hsame, fun hset => ?_⟩
      rw [wp_ite]
      refine ⟨fun _ => ?_, fun htype => hword o value hscan (by simpa using hset) htype⟩
      split
      · rename_i list hc
        exact hmode o list value hscan hc
      · rename_i list hc
        exact hsource o list value hscan hc
      · exact hsame

end PantumOpen.Scan
