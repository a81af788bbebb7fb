import PantumOpen.Scan.ParameterFreeze

/-! Everything one `sane_control_option` can do, what a refused call leaves behind, and what a
granted one reports. -/

namespace PantumOpen.Scan
open Prog

variable {env : Env} {option : Int} {action : Action} {value : Option Value}

def Descriptor.Offers (d : Descriptor) (want : CString) : Prop :=
  match d.constraint with
  | .modeList list => ∃ m ∈ list, strcasecmp m.name want = true
  | .sourceList list => ∃ m ∈ list, strcasecmp m.name want = true
  | _ => False

/-- The string option has a value, not the `NULL` a failed copy left. -/
def Descriptor.Holds (d : Descriptor) (v : OptionValues) : Prop :=
  match d.constraint with
  | .modeList _ => v.mode ≠ none
  | .sourceList _ => v.source ≠ none
  | _ => False

/-- The call sets option `o`, and nothing but its value can stand against it. -/
structure Host.Sets (s : Host) (option : Int) (action : Action) (value : Option Value) (o : Opt)
    (v : Value) : Prop where
  number : Opt.ofNumber option = some o
  valid : s.valid = true
  idle : s.h.scanning = false
  active : (s.h.opt o).cap.inactive = false
  action : action = .setValue
  value : value = some v
  settable : (s.h.opt o).cap.softSelect = true

/-- The call exchanges the value of a string option for a copy there is no memory for. -/
def Host.LosesString (s : Host) (option : Int) (action : Action) (value : Option Value) : Prop :=
  ∃ o v, s.Sets option action value o v ∧ (s.h.opt o).type = .string ∧
    (s.h.opt o).Offers v.str ∧ (s.h.opt o).Holds s.h.val ∧ s.allocs.head? = some false

def Descriptor.fit (d : Descriptor) (w : Int) : Int × Bool :=
  if d.type = .bool then (if w ≠ 0 then 1 else 0, false) else constrainWord d w

def Handle.withWord (h : Handle) (o : Opt) (w : Int) : Handle := { h with val := h.val.setWord o w }

inductive Controlled (s : Host) (option : Int) (action : Action) (value : Option Value) :
    Except Status Reply → Host → Prop
  | refused {e : Status} {t : Host} (hh : t.h = s.h) (h : ¬ s.LosesString option action value) :
      Controlled s option action value (.error e) t
  | told {v : Value} (ha : action = .getValue) :
      Controlled s option action value (.ok ⟨v, noInfo⟩) s
  | word {o : Opt} {v : Value} {r : Reply} (hs : s.Sets option action value o v)
      (ht : (s.h.opt o).type ≠ .string)
      (hvalue : r.value.word = ((s.h.opt o).fit v.word).1 ∨ ((s.h.opt o).fit v.word).2 = false)
      (hinexact : r.info.inexact = ((s.h.opt o).fit v.word).2)
      (hparams : r.info.reloadParams = (o ∈ [Opt.resolution, .preview, .tlX, .tlY, .brX, .brY] : Bool)) :
      Controlled s option action value (.ok r)
        (s.onHandle (Handle.withWord · o ((s.h.opt o).fit v.word).1))
  | string {o : Opt} {v : Value} {val : OptionValues} {t : Host}
      (hs : s.Sets option action value o v) (ht : (s.h.opt o).type = .string)
      (hroom : s.allocs.head? ≠ some false) (hword : ∀ p, val.word p = s.h.val.word p)
      (hh : t.h = updateOptionState { s.h with val := val }) :
      Controlled s option action value (.ok ⟨v, ⟨false, true, true⟩⟩) t
  | lost {t : Host} (h : s.LosesString option action value) (hopt : t.h.opt = s.h.opt)
      (hval : t.h.val ≠ s.h.val) (hword : ∀ p, t.h.val.word p = s.h.val.word p) :
      Controlled s option action value (.error .noMem) t

theorem alloc_head (s : Host) :
    wp alloc (fun r t => t.h = s.h ∧ ((s.allocs.head? = some false ∧ r = .ok false) ∨
      (s.allocs.head? ≠ some false ∧ r = .ok true))) s := by
  rcases s with ⟨h, v, _ | ⟨_ | _, bs⟩, d⟩
  · exact ⟨rfl, .inr ⟨by simp, rfl⟩⟩
  · exact ⟨rfl, .inl ⟨rfl, rfl⟩⟩
  · exact ⟨rfl, .inr ⟨by simp, rfl⟩⟩

section
variable {s : Host} {o : Opt} {v : Value}

theorem setString_controlled {α : Type} {name : α → CString} {list : List α}
    (store : Option α → OptionValues → OptionValues) (hs : s.Sets option action value o v)
    (ht : (s.h.opt o).type = .string)
    (hoffers : (s.h.opt o).Offers v.str ↔ ∃ a ∈ list, strcasecmp (name a) v.str = true)
    (hholds : (s.h.opt o).Holds s.h.val ↔ store none s.h.val ≠ s.h.val)
    (hword : ∀ a val p, (store a val).word p = val.word p) :
    wp (setString name list (fun a h => { h with val := store a h.val }) v)
      (Controlled s option action value) s := by
  -- The call is determined by the option and the value, so another reading of it is this one.
  have hloses : s.LosesString option action value ↔
      (s.h.opt o).Offers v.str ∧ (s.h.opt o).Holds s.h.val ∧ s.allocs.head? = some false := by
    refine ⟨?_, fun h => ⟨o, v, hs, ht, h⟩⟩
    rintro ⟨o', v', hs', -, h⟩
    obtain rfl := Option.some.inj (hs.number.symm.trans hs'.number)
    obtain rfl := Option.some.inj (hs.value.symm.trans hs'.value)
    exact h
  unfold setString
  split
  · rename_i hfind
    refine .refused rfl fun h => ?_
    obtain ⟨a, ha, hc⟩ := hoffers.mp (hloses.mp h).1
    exact (List.find?_eq_none.mp hfind) a ha hc
  · rename_i a hfind
    have hoffered : (s.h.opt o).Offers v.str :=
      hoffers.mpr ⟨a, List.mem_of_find?_eq_some hfind, by simpa using List.find?_some hfind⟩
    rw [wp_bind]
    refine wp_mono (alloc_head s) ?_
    rintro _ t ⟨hh, ⟨hhead, rfl⟩ | ⟨hhead, rfl⟩⟩
    · change Controlled s option action value (.error .noMem)
        (t.onHandle fun h => { h with val := store none h.val })
      by_cases hheld : (s.h.opt o).Holds s.h.val
      · refine .lost (hloses.mpr ⟨hoffered, hheld, hhead⟩) ?_ ?_ fun p => ?_
        · rw [← hh]
          rfl
        · change store none t.h.val ≠ s.h.val
          rw [hh]
          exact hholds.mp hheld
        · change (store none t.h.val).word p = s.h.val.word p
          rw [hh]
          exact hword _ _ p
      · refine .refused ?_ fun h => hheld (hloses.mp h).2.1
        have hsame : store none s.h.val = s.h.val := not_not.mp (mt hholds.mpr hheld)
        change ({ t.h with val := store none t.h.val } : Handle) = s.h
        rw [hh, hsame]
    · refine .string hs ht hhead (hword (some a) s.h.val) ?_
      change updateOptionState { t.h with val := store (some a) t.h.val } =
        updateOptionState { s.h with val := store (some a) s.h.val }
      rw [hh]

theorem setWord_controlled (hs : s.Sets option action value o v) (ht : (s.h.opt o).type ≠ .string) :
    wp (setWord o (s.h.opt o) v) (Controlled s option action value) s := by
  refine .word hs ht ?_ rfl rfl
  change (if ((s.h.opt o).fit v.word).2 = true then _ else v : Value).word = _ ∨ _
  by_cases h : ((s.h.opt o).fit v.word).2 = true
  · rw [if_pos h]
    exact .inl rfl
  · exact .inr (Bool.eq_false_of_not_eq_true h)

end

theorem saneControlOption_controlled (option : Int) (action : Action) (value : Option Value)
    (s : Host) : wp (saneControlOption option action value) (Controlled s option action value) s := by
  unfold saneControlOption
  rw [wp_bind, wp_read, after_ok]
  split
  · rename_i hnum
    exact .refused rfl fun ⟨o, v, hs, _⟩ => by cases hnum.symm.trans hs.number
  rename_i o hnum
  have hsame {o' : Opt} {v : Value} (hs : s.Sets option action value o' v) : o' = o :=
    Option.some.inj (hs.number.symm.trans hnum)
  rw [wp_ite]
  refine ⟨fun hv => ?_, fun hv => ?_⟩
  · exact .refused rfl fun ⟨_, _, hs, _⟩ => by simp [hs.valid] at hv
  rw [wp_ite]
  refine ⟨fun hscan => ?_, fun hscan => ?_⟩
  · exact .refused rfl fun ⟨_, _, hs, _⟩ => by cases hscan.symm.trans hs.idle
  dsimp only
  rw [wp_ite]
  refine ⟨fun hcap => ?_, fun hcap => ?_⟩
  · refine .refused rfl fun ⟨_, _, hs, _⟩ => ?_
    obtain rfl := hsame hs
    cases hcap.symm.trans hs.active
  -- From here on the option is active and no job runs.
  match action with
  | .setAuto => exact .refused rfl fun ⟨_, _, hs, _⟩ => by cases hs.action
  | .other => exact .refused rfl fun ⟨_, _, hs, _⟩ => by cases hs.action
  | .getValue =>
    have hrefused (e : Status) : Controlled s option .getValue value (.error e) s :=
      .refused rfl fun ⟨_, _, hs, _⟩ => by cases hs.action
    match value with
    | none => exact hrefused _
    | some v =>
      dsimp only
      rw [wp_ite]
      refine ⟨fun _ => hrefused _, fun _ => ?_⟩
      rw [wp_ite]
      exact ⟨fun _ => .told rfl, fun _ => .told rfl⟩
  | .setValue =>
    match value with
    | none => exact .refused rfl fun ⟨_, _, hs, _⟩ => by cases hs.value
    | some v =>
      dsimp only
      rw [wp_ite]
      refine ⟨fun hset => ?_, fun hset => ?_⟩
      · refine .refused rfl fun ⟨_, _, hs, _⟩ => ?_
        obtain rfl := hsame hs
        simp [hs.settable] at hset
      have hs : s.Sets option .setValue (some v) o v :=
        ⟨hnum, by simpa using hv, Bool.eq_false_of_not_eq_true hscan, Bool.eq_false_of_not_eq_true hcap,
          rfl, rfl, by simpa using hset⟩
      rw [wp_ite]
      refine ⟨fun htype => ?_, fun htype => setWord_controlled hs htype⟩
      -- Of the strings only the mode and the source can be set.
      split
      · rename_i list hc
        refine setString_controlled (fun m val => { val with mode := m }) hs htype ?_ ?_
          fun _ _ p => by cases p <;> rfl
        · rw [Descriptor.Offers, hc]
        · rw [Descriptor.Holds, hc]
          exact ⟨fun h he => h (congrArg OptionValues.mode he).symm, fun h hm => h (by rw [← hm])⟩
      · rename_i list hc
        refine setString_controlled (fun m val => { val with source := m }) hs htype ?_ ?_
          fun _ _ p => by cases p <;> rfl
        · rw [Descriptor.Offers, hc]
        · rw [Descriptor.Holds, hc]
          exact ⟨fun h he => h (congrArg OptionValues.source he).symm, fun h hm => h (by rw [← hm])⟩
      · rename_i hmode hsource
        refine .refused rfl fun ⟨_, _, hs, _, hoffers, _⟩ => ?_
        obtain rfl := hsame hs
        unfold Descriptor.Offers at hoffers
        split at hoffers
        · rename_i hc
          exact hmode _ hc
        · rename_i hc
          exact hsource _ hc
        · exact hoffers

/-- A refused call leaves the values, the descriptors and the parameters they give as they were,
unless it gave up the value of a string option for a copy that could not be made. -/
theorem refusal_untouched_iff (s : Host) (option : Int) (action : Action) (value : Option Value) :
    (∀ e t, saneControlOption option action value s = (.error e, t) →
      t.h.val = s.h.val ∧ t.h.opt = s.h.opt ∧
        t.h.val.computeParameters = s.h.val.computeParameters) ↔
    ¬ s.LosesString option action value := by
  have hcontrolled : Controlled s option action value (saneControlOption option action value s).1
    (saneControlOption option action value s).2 := saneControlOption_controlled option action value s
  constructor
  · rintro h ⟨o, v, hs, ht, hoffers, hholds, hhead⟩
    generalize saneControlOption option action value s = out at h hcontrolled
    obtain ⟨r, t⟩ := out
    cases hcontrolled with
    | refused _ hkeeps => exact hkeeps ⟨o, v, hs, ht, hoffers, hholds, hhead⟩
    | told ha => cases ha.symm.trans hs.action
    | word hs' ht' _ _ _ =>
      obtain rfl := Option.some.inj (hs.number.symm.trans hs'.number)
      exact ht' ht
    | string _ _ hroom _ _ => exact hroom hhead
    | lost _ _ hval _ => exact hval (h _ _ rfl).1
  · intro hkeeps e t hout
    rw [hout] at hcontrolled
    cases hcontrolled with
    | refused hh _ =>
      rw [hh]
      exact ⟨rfl, rfl, rfl⟩
    | lost h _ _ _ => exact absurd h hkeeps

def scarce : Session :=
  .fresh ⟨openFrames.flatMap HostFrame.encode, ⟨.timeout, 0⟩ :: List.replicate 12 ⟨.success, 132⟩⟩
    (List.replicate 8 ⟨.success, 200⟩) [true, true, true, true, false] true

/-- A handle opened and set to colour, with memory for no further copy. -/
def outOfMemory : Session :=
  (runCalls plainEnv [.controlOption 2 .setValue (some ⟨0, Mode.name .color⟩)] (saneOpen scarce).2).2

theorem reachable_outOfMemory : Reachable plainEnv outOfMemory :=
  .runCalls (.opened (s := scarce) rfl ⟨_, _, _, _, rfl⟩) _

/-- The refused change to gray turns the next scan from colour to gray. -/
theorem outOfMemory_touched : ¬ ∀ env s, Reachable env s → ∀ option action value e t,
    saneControlOption option action value s.host = (.error e, t) →
      t.h.val = s.host.h.val ∧ t.h.opt = s.host.h.opt ∧
        t.h.val.computeParameters = s.host.h.val.computeParameters := by
  intro h
  have hout : saneControlOption 2 .setValue (some ⟨0, Mode.name .gray⟩) outOfMemory.host =
      (.error .noMem,
        (saneControlOption 2 .setValue (some ⟨0, Mode.name .gray⟩) outOfMemory.host).2) :=
    Prod.ext (by decide +kernel) rfl
  exact absurd (h plainEnv _ reachable_outOfMemory _ _ _ _ _ hout).2.2 (by decide +kernel)

def Opt.isWord : Opt → Bool
  | .resolution | .preview | .threshold | .tlX | .tlY | .brX | .brY => true
  | _ => false

/-- What the `val` array holds for an option: its word, or its string if there is one. -/
def OptionValues.stored (v : OptionValues) : Opt → Int × Option CString
  | .mode => (0, v.mode.map Mode.name)
  | .source => (0, v.source.map Source.name)
  | o => (v.word o, none)

def Handle.Typed (h : Handle) : Prop :=
  ∀ o, (h.opt o).cap.softSelect = true → (h.opt o).type ≠ .string → o.isWord = true

theorem Handle.Typed.of_opt {h h' : Handle} (ht : h.Typed) (hopt : h'.opt = h.opt) : h'.Typed := by
  unfold Typed
  rw [hopt]
  exact ht

theorem Handle.zero_typed : Handle.zero.Typed := fun _ hset => by cases hset

theorem initDescriptor_typed {h : Handle} {hasAdf : Bool} (hopt : h.opt = initDescriptor hasAdf) :
    h.Typed := by
  intro o hset htype
  rw [hopt] at hset htype
  cases o
  case numOpts | modeGroup | geometryGroup => cases hset
  case mode | source => exact absurd rfl htype
  all_goals rfl

/-- `update_option_state` changes no type and no capability but `SANE_CAP_INACTIVE`. -/
theorem updateOptionState_kind (h : Handle) (o : Opt) :
    ((updateOptionState h).opt o).type = (h.opt o).type ∧
      ((updateOptionState h).opt o).cap.softSelect = (h.opt o).cap.softSelect := by
  unfold updateOptionState
  rw [apply_ite Handle.opt, ite_self]
  simp only [Handle.setOpt_opt]
  cases o <;> exact ⟨rfl, rfl⟩

theorem Handle.Typed.updateOptionState {h : Handle} (ht : h.Typed) : (updateOptionState h).Typed := by
  intro o hset htype
  rw [(updateOptionState_kind h o).2] at hset
  rw [(updateOptionState_kind h o).1] at htype
  exact ht o hset htype

theorem Controlled.typed {s t : Host} {r : Except Status Reply}
    (h : Controlled s option action value r t) (ht : s.h.Typed) : t.h.Typed := by
  cases h with
  | refused hh _ =>
    rw [hh]
    exact ht
  | told _ => exact ht
  | word _ _ _ _ _ => exact ht.of_opt rfl
  | @string _ _ val _ _ _ _ _ hh =>
    rw [hh]
    have hval : Handle.Typed { s.h with val := val } := ht.of_opt rfl
    exact hval.updateOptionState
  | lost _ hopt _ _ => exact ht.of_opt hopt

theorem initOptions_descriptors (s : Host) :
    wp initOptions (fun r t => r = .ok () ∧ t.h.opt = initDescriptor t.h.hasAdf ∧
      t.h.val.resolution = 300) s := by
  unfold initOptions
  rw [wp_bind]
  apply wp_mono (alloc_spec s)
  rintro _ t ⟨b, rfl, -⟩
  rw [after_ok, wp_bind]
  refine wp_mono (alloc_spec t) ?_
  rintro _ u ⟨c, rfl, -⟩
  rw [after_ok, wp_modify]
  exact ⟨rfl, rfl, rfl⟩

/-- The resolution is one of the list, and can only be set to another of it. -/
structure Handle.Dpi (h : Handle) : Prop where
  value : h.val.resolution ∈ resolutionList
  type : (h.opt .resolution).type = .int
  list : ∃ adf, (h.opt .resolution).constraint = .wordList (resolutionListOf adf)

theorem resolutionListOf_subset (adf : Bool) : ∀ w ∈ resolutionListOf adf, w ∈ resolutionList := by
  cases adf <;> decide

theorem updateOptionState_resolution (h : Handle) :
    ((updateOptionState h).opt .resolution).constraint =
      .wordList (resolutionListOf h.val.sourceIsAdf) := by
  unfold updateOptionState
  rw [apply_ite Handle.opt, ite_self]
  rfl

theorem Controlled.dpi {s t : Host} {r : Except Status Reply}
    (h : Controlled s option action value r t) (hd : s.h.Dpi) : t.h.Dpi := by
  cases h with
  | refused hh _ =>
    rw [hh]
    exact hd
  | told _ => exact hd
  | @word o v _ _ _ _ _ _ =>
    refine ⟨?_, hd.type, hd.list⟩
    change (s.h.val.setWord o ((s.h.opt o).fit v.word).1).resolution ∈ resolutionList
    cases o
    case resolution =>
      obtain ⟨adf, hlist⟩ := hd.list
      have hint : (s.h.opt .resolution).type ≠ .bool := by
        rw [hd.type]
        decide
      change ((s.h.opt .resolution).fit v.word).1 ∈ resolutionList
      unfold Descriptor.fit
      rw [if_neg hint]
      exact resolutionListOf_subset adf _ (constrainWord_mem hlist (by cases adf <;> decide) _)
    all_goals exact hd.value
  | @string _ _ val _ _ _ _ hword hh =>
    -- Another source has another list; the resolution is clamped to one both have.
    have hvalue : val.resolution ∈ resolutionList := by
      have hsame : val.resolution = s.h.val.resolution := hword .resolution
      rw [hsame]
      exact hd.value
    rw [hh]
    refine ⟨?_, ?_, _, updateOptionState_resolution _⟩
    · rw [updateOptionState_val]
      exact resolutionListOf_subset _ _ (resolutionListOf_clamp _ hvalue)
    · rw [(updateOptionState_kind _ _).1]
      exact hd.type
  | lost _ hopt _ hword =>
    have hsame := hword .resolution
    refine ⟨?_, ?_, ?_⟩
    · change _ = s.h.val.resolution at hsame
      change t.h.val.word .resolution ∈ resolutionList
      rw [hsame]
      exact hd.value
    · rw [hopt]
      exact hd.type
    · rw [hopt]
      exact hd.list

structure Session.Governed (s : Session) : Prop where
  typed : s.host.h.Typed
  dpi : s.host.valid = true → s.host.h.Dpi

structure OptionsKept (s t : Session) : Prop where
  opt : t.host.h.opt = s.host.h.opt
  val : t.host.h.val = s.host.h.val
  opened : t.host.valid = true → s.host.valid = true

theorem JobStep.optionsKept {s t : Session} (a : JobStep s t) : OptionsKept s t :=
  ⟨a.handle.get Handle.opt, a.handle.get Handle.val, a.opened⟩

theorem OptionsKept.trans {s t u : Session} (a : OptionsKept s t) (b : OptionsKept t u) :
    OptionsKept s u :=
  ⟨b.opt.trans a.opt, b.val.trans a.val, a.opened ∘ b.opened⟩

theorem Session.Governed.kept {s t : Session} (hs : s.Governed) (a : OptionsKept s t) : t.Governed := by
  refine ⟨hs.typed.of_opt a.opt, fun hv => ?_⟩
  obtain ⟨hvalue, htype, hlist⟩ := hs.dpi (a.opened hv)
  refine ⟨?_, ?_, ?_⟩
  · rwa [a.val]
  · rwa [a.opt]
  · rwa [a.opt]

theorem saneOpen_governed (inp : Inp) (outSched : List Xfer) (allocs : List Bool) (ready : Bool) :
    wp saneOpen (fun _ s => s.Governed) (.fresh inp outSched allocs ready) := by
  have hclosed {s : Session} (hopt : s.host.h.opt = Handle.zero.opt) (hv : s.host.valid = false) :
      s.Governed := ⟨Handle.zero_typed.of_opt hopt, fun h => absurd (hv.symm.trans h) Bool.false_ne_true⟩
  unfold saneOpen
  rw [wp_bind, onHost, wp_zoom]
  apply wp_mono (alloc_spec _)
  rintro _ t ⟨b, rfl, hh, hv, -⟩
  rw [after_ok, wp_ite]
  refine ⟨fun _ => ?_, fun _ => ?_⟩
  · rw [wp_bind, wp_modify, after_ok, wp_bind]
    apply wp_onInp
    intro r i
    cases r with
    | error _ => exact hclosed rfl hv
    | ok _ =>
      rw [after_ok, wp_bind]
      apply wp_mono (probeAdf_spec _)
      rintro r v ⟨_, b, hu⟩
      cases r with
      | error _ =>
        refine hclosed ?_ ?_ <;> rw [hu]
        · rfl
        · exact hv
      | ok _ =>
        rw [after_ok, wp_bind, onHost, wp_zoom]
        apply wp_mono (initOptions_descriptors v.host)
        rintro r w ⟨hr, hw, hres⟩
        rw [hr, after_ok, wp_bind, wp_setHandle, after_ok, wp_modify]
        refine ⟨initDescriptor_typed hw, fun _ => ⟨?_, ?_, false, ?_⟩⟩
        · change w.h.val.resolution ∈ resolutionList
          rw [hres]
          decide
        · change (w.h.opt .resolution).type = _
          rw [hw]
          rfl
        · change (w.h.opt .resolution).constraint = _
          rw [hw]
          rfl
  · rw [wp_fail]
    exact hclosed (congrArg Handle.opt hh) hv

theorem settled_jobStep (s : Session) : JobStep s s.settled := by
  unfold Session.settled
  split
  · exact endScan_jobStep s
  · exact .refl s

theorem saneStart_optionsKept (env : Env) (s : Session) :
    wp (saneStart env) (fun _ t => OptionsKept s t) s := by
  by_cases hv : s.host.valid = true
  swap
  · unfold wp
    rw [saneStart_invalid env hv]
    exact ⟨rfl, rfl, id⟩
  unfold wp
  rw [saneStart_settled env hv]
  suffices hsettled : wp (startSettled env) (fun _ t => OptionsKept s.settled t) s.settled from
    (settled_jobStep s).optionsKept.trans hsettled
  generalize s.settled = s
  unfold startSettled
  rw [wp_bind, wp_getHandle, after_ok, wp_ite]
  refine ⟨fun _ => ?_, fun _ => ?_⟩
  -- Picking up a job touches neither the values nor the descriptors.
  · unfold resumeJob
    rw [wp_bind, wp_setHandle, after_ok, wp_bind]
    apply wp_mono (awaitFirstRows_jobStep env _)
    intro r t ht
    have hkept : OptionsKept s t :=
      (JobStep.of_host (f := Handle.resumed) rfl fun _ => rfl).optionsKept.trans ht.optionsKept
    match r with
    | .error _ => exact hkept
    | .ok (some _) =>
      rw [after_ok]
      exact wp_ofStatus _ (fun _ => hkept) fun _ => hkept
    | .ok none =>
      rw [after_ok]
      dsimp only
      rw [wp_bind, wp_getHandle, after_ok, wp_ite]
      exact ⟨fun _ => hkept, fun _ => hkept⟩
  rw [wp_ite]
  refine ⟨fun _ => ⟨rfl, rfl, id⟩, fun _ => ?_⟩
  rw [wp_bind, onHost, wp_zoom]
  apply wp_mono (prepareJob_spec env s.host)
  rintro _ u ⟨hv, hu⟩
  have hkept : OptionsKept s (hostLens.set u s) := by
    refine ⟨?_, ?_, fun hvu => hv ▸ hvu⟩
    · change u.h.opt = s.host.h.opt
      rcases hu with ⟨-, hh⟩ | ⟨-, hh⟩ <;> rw [hh]
      · unfold Handle.prepared setMargins
        dsimp only
        split <;> rfl
      · rfl
    · change u.h.val = s.host.h.val
      rcases hu with ⟨-, hh⟩ | ⟨-, hh⟩ <;> rw [hh]
      · exact (s.host.h.prepared_fresh env).1
      · rfl
  rcases hu with ⟨rfl, -⟩ | ⟨rfl, -⟩
  · rw [after_ok]
    exact wp_mono (startJob_jobStep env _) fun _ t ht => hkept.trans ht.optionsKept
  · exact hkept

theorem Call.run_governed (env : Env) (c : Call) {s : Session} (hs : s.Governed) :
    wp (c.run env) (fun _ t => t.Governed) s := by
  have hkeeps {β : Type} {k : β → Prog Status Session Answer} {m : Prog Status Session β}
      (hm : wp m (fun _ t => t.Governed) s) (hk : ∀ b, ∃ a, k b = pure a) :
      wp (m >>= k) (fun _ t => t.Governed) s := by
    rw [wp_bind]
    apply wp_mono hm
    intro r t ht
    match r with
    | .error _ => exact ht
    | .ok b =>
      obtain ⟨a, ha⟩ := hk b
      rw [after_ok, ha]
      exact ht
  -- Only the option calls change a value; the others keep them and the descriptors.
  match c with
  | .start =>
    exact hkeeps (wp_mono (saneStart_optionsKept env s) fun _ _ h => hs.kept h) fun _ => ⟨_, rfl⟩
  | .read n =>
    exact hkeeps (wp_mono (saneRead_jobStep env n s) fun _ _ h => hs.kept h.optionsKept)
      fun _ => ⟨_, rfl⟩
  | .cancel =>
    refine hkeeps ?_ fun _ => ⟨_, rfl⟩
    unfold saneCancel
    rw [wp_bind, wp_read, after_ok, wp_ite]
    exact ⟨fun _ => hs.kept ⟨rfl, rfl, id⟩, fun _ => hs⟩
  | .controlOption o a v =>
    refine hkeeps ?_ fun _ => ⟨_, rfl⟩
    rw [onHost, wp_zoom]
    refine wp_mono (wp_and (saneControlOption_controlled o a v s.host)
      (saneControlOption_spec o a v s.host)) fun _ t h => ⟨h.1.typed hs.typed, fun hv => ?_⟩
    exact h.1.dpi (hs.dpi (h.2.valid ▸ hv))
  | .getParameters =>
    refine hkeeps ?_ fun _ => ⟨_, rfl⟩
    unfold saneGetParameters
    rw [wp_bind, wp_read, after_ok, wp_ite]
    refine ⟨fun _ => hs, fun _ => ?_⟩
    rw [wp_bind, wp_setHandle, after_ok, wp_bind, wp_getHandle, after_ok, wp_pure]
    refine hs.kept ⟨?_, ?_, id⟩ <;> rw [Session.onHandle_h] <;> split <;> rfl
  | .setIoMode b =>
    refine hkeeps ?_ fun _ => ⟨_, rfl⟩
    unfold saneSetIoMode
    rw [wp_bind, wp_read, after_ok, wp_ite]
    exact ⟨fun _ => hs.kept ⟨rfl, rfl, id⟩, fun _ => hs⟩
  | .close =>
    exact hkeeps (wp_mono (saneClose_jobStep s) fun _ _ h => hs.kept h.optionsKept) fun _ => ⟨_, rfl⟩
  | .exit =>
    exact hkeeps (wp_mono (saneClose_jobStep s) fun _ _ h => hs.kept h.optionsKept) fun _ => ⟨_, rfl⟩

theorem Reachable.governed {s : Session} (h : Reachable env s) : s.Governed := by
  induction h with
  | opened hopen hs =>
    obtain ⟨inp, outSched, allocs, ready, rfl⟩ := hs
    have h : (saneOpen (.fresh inp outSched allocs ready)).2.Governed :=
      saneOpen_governed inp outSched allocs ready
    rwa [hopen] at h
  | call _ c ih => exact c.run_governed env ih

/-- What a granted change of option `o` must tell the frontend. -/
structure Reported (o : Opt) (v : Value) (h h' : Handle) (r : Reply) : Prop where
  params : h'.val.computeParameters ≠ h.val.computeParameters → r.info.reloadParams = true
  options : ∀ p, p ≠ o →
    (h'.val.stored p ≠ h.val.stored p ∨ (h'.opt p).cap ≠ (h.opt p).cap ∨
      (h'.opt p).constraint ≠ (h.opt p).constraint) → r.info.reloadOptions = true
  inexact : (h.opt o).type = .int ∨ (h.opt o).type = .fixed → h'.val.word o ≠ v.word →
    r.info.inexact = true ∧ r.value.word = h'.val.word o

theorem setWord_stored {o p : Opt} (hp : p ≠ o) (v : OptionValues) (w : Int) :
    (v.setWord o w).stored p = v.stored p := by
  cases o <;> cases p <;> first | rfl | exact absurd rfl hp

theorem setWord_word {o : Opt} (ho : o.isWord = true) (v : OptionValues) (w : Int) :
    (v.setWord o w).word o = w := by
  cases o <;> first | rfl | cases ho

theorem setWord_parameters {o : Opt}
    (ho : o ∉ [Opt.resolution, .preview, .tlX, .tlY, .brX, .brY]) (v : OptionValues) (w : Int) :
    (v.setWord o w).computeParameters = v.computeParameters := by
  cases o <;> first | rfl | exact absurd (by decide) ho

theorem constrainWord_exact {d : Descriptor} {w : Int} (h : (constrainWord d w).2 = false) :
    (constrainWord d w).1 = w := by
  have hne : ((constrainWord d w).1 != w) = false := h
  simpa using hne

/-- A value that is set and any other option or parameter that changes with it is reported. -/
theorem setOption_reported (env : Env) {s : Session} (hs : Reachable env s) {option : Int}
    {value : Option Value} {r : Reply} {t : Host}
    (h : saneControlOption option .setValue value s.host = (.ok r, t)) :
    ∃ o v, Opt.ofNumber option = some o ∧ value = some v ∧ Reported o v s.host.h t.h r := by
  have hcontrolled : Controlled s.host option .setValue value
      (saneControlOption option .setValue value s.host).1
      (saneControlOption option .setValue value s.host).2 :=
    saneControlOption_controlled option .setValue value s.host
  rw [h] at hcontrolled
  cases hcontrolled with
  | told ha => cases ha
  | @word o v _ hset htype hvalue hinexact hparams =>
    refine ⟨o, v, hset.number, hset.value, ⟨fun hne => ?_, fun p hp hne => ?_, fun hnum hne => ?_⟩⟩
    · rw [hparams]
      by_contra ho
      exact hne (setWord_parameters (by simpa using ho) _ _)
    -- A word option leaves every other value, and all descriptors, as they are.
    · rcases hne with hne | hne | hne
      · exact absurd (setWord_stored hp _ _) hne
      · exact absurd rfl hne
      · exact absurd rfl hne
    · have hbool : (s.host.h.opt o).type ≠ .bool := by
        rcases hnum with hnum | hnum <;> rw [hnum] <;> decide
      have hword := setWord_word (hs.governed.typed o hset.settable htype) s.host.h.val
        ((s.host.h.opt o).fit v.word).1
      change (s.host.h.val.setWord o ((s.host.h.opt o).fit v.word).1).word o ≠ v.word at hne
      change r.info.inexact = true ∧
        r.value.word = (s.host.h.val.setWord o ((s.host.h.opt o).fit v.word).1).word o
      rw [hword] at hne ⊢
      have hfit : ((s.host.h.opt o).fit v.word).2 ≠ false := by
        intro hexact
        unfold Descriptor.fit at hne hexact
        rw [if_neg hbool] at hne hexact
        exact hne (constrainWord_exact hexact)
      exact ⟨hinexact.trans (Bool.eq_true_of_not_eq_false hfit), hvalue.resolve_right hfit⟩
  | @string o v _ _ hset htype _ _ _ =>
    refine ⟨o, v, hset.number, hset.value, ⟨fun _ => rfl, fun _ _ _ => rfl, fun hnum => ?_⟩⟩
    rw [htype] at hnum
    rcases hnum with hnum | hnum <;> cases hnum

/-- A handle at a resolution that the feeder does not have. -/
def fineHandle : Session :=
  opened plainEnv (openFrames ++ rowFrames) 12 8 [.controlOption 3 .setValue (some ⟨1200, []⟩)]

/-- The source takes the resolution down with it. -/
theorem setOption_reported_source :
    (saneControlOption 4 .setValue (some ⟨0, Source.name .adf⟩) fineHandle.host).2.h.val.resolution ≠
        fineHandle.host.h.val.resolution ∧
      ∃ o v, Opt.ofNumber 4 = some o ∧ some ⟨0, Source.name .adf⟩ = some v ∧
        Reported o v fineHandle.host.h
          (saneControlOption 4 .setValue (some ⟨0, Source.name .adf⟩) fineHandle.host).2.h
          ⟨⟨0, Source.name .adf⟩, ⟨false, true, true⟩⟩ := by
  have hout : (saneControlOption 4 .setValue (some ⟨0, Source.name .adf⟩) fineHandle.host).1 =
      .ok ⟨⟨0, Source.name .adf⟩, ⟨false, true, true⟩⟩ := by decide +kernel
  exact ⟨by decide +kernel, setOption_reported plainEnv (reachable_opened _ _ 12 8 _) (eq_ok hout)⟩

end PantumOpen.Scan
