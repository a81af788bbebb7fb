import PantumOpen.Lib.Interval
import PantumOpen.Scan.Image

/-! What the image functions do to the queue: they append rows and touch nothing else of the
handle. -/

namespace PantumOpen.Scan
open Prog Buffer

def Handle.withImage (h h' : Handle) : Handle :=
  { h with
    nextRow := h'.nextRow, out := h'.out, outPos := h'.outPos, outCap := h'.outCap
    outAlloc := h'.outAlloc, rawCap := h'.rawCap }

/-- `h'` differs from `h` in the image fields at most. -/
def SameControl (h h' : Handle) : Prop := h' = h.withImage h'

theorem SameControl.eq {h h' : Handle} (a : SameControl h h') : h' = h.withImage h' := a

theorem SameControl.refl (h : Handle) : SameControl h h := rfl

theorem SameControl.trans {h h' h'' : Handle} (a : SameControl h h') (b : SameControl h' h'') :
    SameControl h h'' :=
  b.eq.trans ((congrArg (fun x : Handle => x.withImage h'') a.eq).trans rfl)

theorem SameControl.get {β : Type} {h h' : Handle} (g : Handle → β) (a : SameControl h h')
    (hg : ∀ h h', g (h.withImage h') = g h := by intros; rfl) : g h' = g h :=
  (congrArg g a.eq).trans (hg h h')

theorem SameControl.params {h h' : Handle} (a : SameControl h h') : h'.params = h.params :=
  a.get Handle.params

theorem SameControl.val {h h' : Handle} (a : SameControl h h') : h'.val = h.val := a.get Handle.val

theorem SameControl.convertRow {h h' : Handle} (a : SameControl h h') (env : Env) :
    convertRow env h' = convertRow env h := a.get (Scan.convertRow env)

def Handle.pending (h : Handle) : List UInt8 := h.out.drop h.outPos

def Handle.Queue (h : Handle) : Prop := h.outPos ≤ h.out.length

/-- Rows `s.h.nextRow` to `s'.h.nextRow` with the contents `f` were queued. -/
structure Emits (f : Nat → List UInt8) (s s' : Host) : Prop where
  control : SameControl s.h s'.h
  valid : s'.valid = s.valid
  dither : s'.ditherReady = s.ditherReady
  allocs : s'.allocs <:+ s.allocs
  mono : s.h.nextRow ≤ s'.h.nextRow
  rewound : s.h.outPos = 0 → s'.h.outPos = 0
  queue : s.h.Queue → s'.h.Queue ∧
    s'.h.pending = s.h.pending ++ concatRange f s.h.nextRow s'.h.nextRow

theorem Emits.refl (f : Nat → List UInt8) (s : Host) : Emits f s s where
  control := .refl _
  valid := rfl
  dither := rfl
  allocs := List.suffix_rfl
  mono := le_rfl
  rewound := id
  queue hq := ⟨hq, by simp⟩

theorem Emits.trans {f : Nat → List UInt8} {s t u : Host} (a : Emits f s t) (b : Emits f t u) :
    Emits f s u where
  control := a.control.trans b.control
  valid := b.valid.trans a.valid
  dither := b.dither.trans a.dither
  allocs := b.allocs.trans a.allocs
  mono := a.mono.trans b.mono
  rewound h := b.rewound (a.rewound h)
  queue hq := by
    obtain ⟨ht, hp⟩ := a.queue hq
    obtain ⟨hu, hp'⟩ := b.queue ht
    exact ⟨hu, by rw [hp', hp, List.append_assoc, concatRange_append a.mono b.mono]⟩

def EmitPost (f : Nat → List UInt8) (target : Nat) (s : Host) : Except Status Unit → Host → Prop
  | .ok _, s' => Emits f s s' ∧ s'.h.nextRow = target
  | .error e, s' => e = .noMem ∧ false ∈ s.allocs ∧ Emits f s s' ∧ s'.h.nextRow ≤ target

theorem EmitPost.trans {f : Nat → List UInt8} {target : Nat} {s t : Host} (a : Emits f s t)
    {r : Except Status Unit} {u : Host} (b : EmitPost f target t r u) : EmitPost f target s r u := by
  match r, b with
  | .ok _, ⟨b, hb⟩ => exact ⟨a.trans b, hb⟩
  | .error _, ⟨he, hf, b, hb⟩ => exact ⟨he, a.allocs.mem hf, a.trans b, hb⟩

theorem EmitPost.emits {f : Nat → List UInt8} {target : Nat} {s s' : Host}
    {r : Except Status Unit} (h : EmitPost f target s r s') : Emits f s s' := by
  match r, h with
  | .ok _, h => exact h.1
  | .error _, h => exact h.2.2.1

theorem alloc_spec (s : Host) :
    wp alloc (fun r s' => ∃ b, r = .ok b ∧ s'.h = s.h ∧ s'.valid = s.valid ∧
      s'.ditherReady = s.ditherReady ∧ s'.allocs <:+ s.allocs ∧ (b = false → false ∈ s.allocs)) s := by
  rcases s with ⟨h, v, _ | ⟨b, bs⟩, d⟩
  · exact ⟨true, rfl, rfl, rfl, rfl, List.suffix_rfl, fun hb => by cases hb⟩
  · refine ⟨b, rfl, rfl, rfl, rfl, List.suffix_cons b bs, fun hb => ?_⟩
    rw [hb]
    exact List.mem_cons_self

theorem alloc_room {s : Host} (hs : false ∉ s.allocs) :
    wp alloc (fun r s' => r = .ok true ∧ s'.h = s.h ∧ false ∉ s'.allocs) s := by
  apply wp_mono (alloc_spec s)
  rintro _ t ⟨r, rfl, hh, -, -, hsuf, hr⟩
  rw [eq_true_of_ne_false fun h => hs (hr h)]
  exact ⟨rfl, hh, fun h => hs (hsuf.mem h)⟩

theorem Emits.of_handle {f : Nat → List UInt8} {s s' : Host} (hc : SameControl s.h s'.h)
    (hv : s'.valid = s.valid) (hd : s'.ditherReady = s.ditherReady) (ha : s'.allocs <:+ s.allocs)
    (hn : s'.h.nextRow = s.h.nextRow) (hr : s.h.outPos = 0 → s'.h.outPos = 0)
    (hq : s.h.Queue → s'.h.Queue ∧ s'.h.pending = s.h.pending) : Emits f s s' where
  control := hc
  valid := hv
  dither := hd
  allocs := ha
  mono := hn.ge
  rewound := hr
  queue h := ⟨(hq h).1, by rw [(hq h).2, hn, concatRange_self, List.append_nil]⟩

theorem rewind_emits (f : Nat → List UInt8) (s : Host) :
    Emits f s (s.onHandle fun h =>
      if h.outPos ≠ 0 ∧ h.outPos = h.out.length then { h with out := [], outPos := 0 } else h) := by
  by_cases hd : s.h.outPos ≠ 0 ∧ s.h.outPos = s.h.out.length
  · simp only [Host.onHandle, if_pos hd]
    exact .of_handle rfl rfl rfl List.suffix_rfl rfl (fun _ => rfl) fun _ =>
      ⟨Nat.le_refl 0, by simp [Handle.pending, hd.2]⟩
  · simp only [Host.onHandle, if_neg hd]
    exact .refl f s

theorem compact_emits (f : Nat → List UInt8) (s : Host) :
    Emits f s (s.onHandle fun h => { h with out := h.out.drop h.outPos, outPos := 0 }) :=
  .of_handle rfl rfl rfl List.suffix_rfl rfl (fun _ => rfl) fun _ => ⟨Nat.zero_le _, rfl⟩

theorem outReserve_spec (f : Nat → List UInt8) (extra : Nat) (s : Host) :
    wp (outReserve extra) (EmitPost f s.h.nextRow s) s := by
  unfold outReserve
  rw [wp_bind, wp_modify, after_ok]
  set s₁ := s.onHandle fun h =>
    if h.outPos ≠ 0 ∧ h.outPos = h.out.length then { h with out := [], outPos := 0 } else h
  have h₁ : Emits f s s₁ := rewind_emits f s
  have hn₁ : s₁.h.nextRow = s.h.nextRow := by
    simp only [s₁, Host.onHandle]
    split <;> rfl
  rw [wp_bind, wp_gets, after_ok, wp_ite]
  refine ⟨fun _ => ⟨h₁, hn₁⟩, fun _ => ?_⟩
  rw [wp_bind, wp_modify, after_ok]
  set s₂ := s₁.onHandle fun h => { h with out := h.out.drop h.outPos, outPos := 0 }
  have h₂ : Emits f s s₂ := h₁.trans (compact_emits f s₁)
  rw [wp_bind, wp_gets, after_ok]
  dsimp only
  rw [wp_ite]
  refine ⟨fun _ => ⟨h₂, hn₁⟩, fun _ => ?_⟩
  rw [wp_bind, wp_modify, after_ok, wp_bind]
  set need := (s₂.h.out.length + extra) % 2 ^ 64
  set s₃ := s₂.onHandle fun h => { h with outCap := growCap need 65 h.outCap }
  have h₃ : Emits f s s₃ :=
    h₂.trans (.of_handle rfl rfl rfl List.suffix_rfl rfl id fun hq => ⟨hq, rfl⟩)
  apply wp_mono (alloc_spec s₃)
  rintro _ ⟨h, v, as, d⟩ ⟨b, rfl, rfl, hv, hd, hs, hb⟩
  have h₄ : Emits f s ⟨s₃.h, v, as, d⟩ :=
    h₃.trans (.of_handle rfl hv hd hs rfl id fun hq => ⟨hq, rfl⟩)
  rw [after_ok, wp_ite]
  refine ⟨fun _ => ⟨h₄.trans ?_, hn₁⟩, fun hbf => ?_⟩
  · exact .of_handle rfl rfl rfl List.suffix_rfl rfl id fun hq => ⟨hq, rfl⟩
  · exact ⟨rfl, h₃.allocs.mem (hb (Bool.eq_false_of_not_eq_true hbf)), h₄, hn₁.le⟩

/-- The contents of an appended row may only depend on what the image functions leave alone. -/
theorem appendRow_spec (env : Env) {f : Nat → List UInt8} {row : Handle → Buffer → Buffer}
    {next : Nat} {s : Host} (hnext : next = s.h.nextRow + 1)
    (hrow : ∀ h', SameControl s.h h' →
      (row h' env.uninit).bytes s.h.params.bytesPerLine = f s.h.nextRow) :
    wp (appendRow env row next) (EmitPost f (s.h.nextRow + 1) s) s := by
  unfold appendRow
  rw [wp_bind, wp_gets, after_ok, wp_bind]
  apply wp_mono (outReserve_spec f _ s)
  intro r s₁ hr
  match r, hr with
  | .error _, ⟨he, hf, h₁, hn⟩ => exact ⟨he, hf, h₁, by omega⟩
  | .ok _, ⟨h₁, hn⟩ =>
    rw [after_ok, wp_modify]
    have hbytes : (row s₁.h env.uninit).bytes s₁.h.params.bytesPerLine = f s₁.h.nextRow := by
      rw [h₁.control.params, hrow _ h₁.control, hn]
    refine ⟨h₁.trans ⟨rfl, rfl, rfl, List.suffix_rfl, ?_, id, fun hq => ⟨?_, ?_⟩⟩, hnext⟩
    · change s₁.h.nextRow ≤ next
      omega
    · change s₁.h.outPos ≤ (s₁.h.out ++ _).length
      rw [List.length_append]
      exact Nat.le_add_right_of_le hq
    · change (s₁.h.out ++ (row s₁.h env.uninit).bytes s₁.h.params.bytesPerLine).drop s₁.h.outPos =
        s₁.h.pending ++ concatRange f s₁.h.nextRow next
      rw [List.drop_append_of_le_length hq, hbytes, hnext, ← hn, concatRange_succ]
      rfl

def Parameters.whiteLine (p : Parameters) : List UInt8 := List.replicate p.bytesPerLine p.white

@[simp] theorem Parameters.whiteLine_length (p : Parameters) : p.whiteLine.length = p.bytesPerLine :=
  List.length_replicate

theorem emitWhiteRowsN_spec (env : Env) {f : Nat → List UInt8} (n : Nat) {s : Host}
    (hf : ∀ r, s.h.nextRow ≤ r → r < s.h.nextRow + n → f r = s.h.params.whiteLine) :
    wp (emitWhiteRowsN env n) (EmitPost f (s.h.nextRow + n) s) s := by
  induction n generalizing s with
  | zero => exact ⟨.refl f s, rfl⟩
  | succ n ih =>
    rw [emitWhiteRowsN, wp_bind, wp_gets, after_ok, wp_bind]
    refine wp_mono (appendRow_spec (f := f) env rfl fun h' hh => ?_) fun r s₁ hr => ?_
    · rw [hh.params, bytes_memset, hf _ le_rfl (by omega)]
      rfl
    · match r, hr with
      | .error _, ⟨he, hf, h₁, hn⟩ => exact ⟨he, hf, h₁, by omega⟩
      | .ok _, ⟨h₁, hn⟩ =>
        rw [after_ok]
        refine wp_mono (ih (s := s₁) fun r hr hr' => ?_) fun _ _ h => .trans h₁ ?_
        · rw [h₁.control.params]
          exact hf r (by omega) (by omega)
        · rwa [hn, Nat.add_assoc, Nat.add_comm 1 n] at h

theorem emitWhiteRows_spec (env : Env) {f : Nat → List UInt8} (upto : Nat) {s : Host}
    (hf : ∀ r, s.h.nextRow ≤ r → r < min upto s.h.params.lines → f r = s.h.params.whiteLine) :
    wp (emitWhiteRows env upto)
      (EmitPost f (max s.h.nextRow (min upto s.h.params.lines)) s) s := by
  unfold emitWhiteRows
  rw [wp_bind, wp_gets, after_ok]
  have ht : s.h.nextRow + (min upto s.h.params.lines - s.h.nextRow) =
      max s.h.nextRow (min upto s.h.params.lines) := by omega
  rw [← ht]
  exact emitWhiteRowsN_spec env _ fun r hr hr' => hf r hr (by omega)

/-- Row `r` of a page as a block determines it: converted from the block's payload where the block
has the row, white elsewhere. -/
def blockRow (env : Env) (h : Handle) (b : Block) (r : Nat) : List UInt8 :=
  if b.first ≤ r ∧ r < b.first + b.rows then
    (convertRow env h ((ofList b.raw).shift ((r - b.first) * b.stride)) b.avail r env.uninit).bytes
      h.params.bytesPerLine
  else h.params.whiteLine

theorem SameControl.blockRow {h h' : Handle} (a : SameControl h h') (env : Env) (b : Block) :
    blockRow env h' b = blockRow env h b :=
  (congrArg (fun x => Scan.blockRow env x b) a.eq).trans rfl

/-- The row after the last one a block can reach, in a page that had `next` rows. -/
def Block.target (b : Block) (lines next : Nat) : Nat :=
  max next (min lines (min (b.first + b.rows) (2 ^ 32)))

theorem placeRows_spec (env : Env) (b : Block) (hfirst : b.first < 2 ^ 32) (hrows : b.rows < 2 ^ 32)
    (n i : Nat) {s : Host} (hi : i + n = b.rows)
    (hlo : min s.h.params.lines (min (b.first + i) (2 ^ 32)) ≤ s.h.nextRow) :
    wp (placeRows env b n i)
      (EmitPost (blockRow env s.h b) (b.target s.h.params.lines s.h.nextRow) s) s := by
  induction n generalizing i s with
  | zero =>
    refine ⟨.refl _ s, ?_⟩
    change s.h.nextRow = max _ _
    have hrows' : b.rows = i := by omega
    rw [hrows']
    omega
  | succ n ih =>
    rw [placeRows, wp_bind, wp_gets, after_ok]
    dsimp only
    rw [wp_ite]
    constructor
    · -- A row that is skipped leaves the page at or past it.
      intro hskip
      refine wp_mono (ih (i + 1) (by omega) ?_) fun _ _ h => h
      omega
    · intro hplace
      obtain ⟨hwrap, hlow, hline⟩ : ¬ (b.first + i) % 2 ^ 32 < b.first ∧
          ¬ (b.first + i) % 2 ^ 32 < s.h.nextRow ∧
          ¬ s.h.params.lines ≤ (b.first + i) % 2 ^ 32 := by
        simpa only [not_or] using hplace
      have hmod : (b.first + i) % 2 ^ 32 = b.first + i := by omega
      rw [hmod] at hlow hline ⊢
      have hrow : b.first + i = s.h.nextRow := by omega
      rw [hrow, wp_bind]
      refine wp_mono (appendRow_spec (f := blockRow env s.h b) env rfl fun h' hh => ?_)
        fun r s₁ hr => ?_
      · rw [hh.convertRow, blockRow, if_pos (by omega), ← hrow, Nat.add_sub_cancel_left]
      · match r, hr with
        | .error _, ⟨he, hf, h₁, hn⟩ =>
          refine ⟨he, hf, h₁, ?_⟩
          unfold Block.target
          omega
        | .ok _, ⟨h₁, hn⟩ =>
          rw [after_ok]
          refine wp_mono (ih (i + 1) (s := s₁) (by omega) ?_) fun _ _ h => .trans h₁ ?_
          · have hnext : s₁.h.nextRow = b.first + (i + 1) := by rw [hn, ← hrow, Nat.add_assoc]
            rw [hnext]
            exact (Nat.min_le_right _ _).trans (Nat.min_le_left _ _)
          · rw [h₁.control.blockRow, h₁.control.params] at h
            have ht : b.target s.h.params.lines s₁.h.nextRow =
                b.target s.h.params.lines s.h.nextRow := by
              unfold Block.target
              omega
            rwa [ht] at h

theorem placeBlock_spec (env : Env) (b : Block) (hfirst : b.first < 2 ^ 32)
    (hrows : b.rows < 2 ^ 32) (s : Host) :
    wp (placeBlock env b)
      (EmitPost (blockRow env s.h b) (b.target s.h.params.lines s.h.nextRow) s) s := by
  unfold placeBlock
  rw [wp_bind, wp_gets, after_ok, wp_bind]
  refine wp_mono (emitWhiteRows_spec (f := blockRow env s.h b) env _ fun r _ hr => ?_)
    fun r s₁ hr => ?_
  · rw [blockRow, if_neg]
    split at hr <;> omega
  · match r, hr with
    | .error _, ⟨he, hf, h₁, hn⟩ =>
      refine ⟨he, hf, h₁, ?_⟩
      unfold Block.target
      split at hn <;> omega
    | .ok _, ⟨h₁, hn⟩ =>
      rw [after_ok]
      refine wp_mono (placeRows_spec env b hfirst hrows b.rows 0 (s := s₁) (by omega) ?_)
        fun _ _ h => .trans h₁ ?_
      · rw [h₁.control.params]
        split at hn <;> omega
      · rw [h₁.control.blockRow, h₁.control.params] at h
        have ht : b.target s.h.params.lines s₁.h.nextRow =
            b.target s.h.params.lines s.h.nextRow := by
          unfold Block.target
          split at hn <;> omega
        rwa [ht] at h

end PantumOpen.Scan
