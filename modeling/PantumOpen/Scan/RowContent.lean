import PantumOpen.Scan.Rows

/-! A converted row is a function of the samples that count: neither what the memory held before
nor the bytes behind the useful pixels can be seen in it. -/

namespace PantumOpen.Scan
open Buffer

variable {v : Nat → UInt8} {b b' : Buffer}

theorem forRange_store3_apply (n j : Nat) :
    forRange 0 (fun i (d : Buffer) => ((d.store (3 * i) (v (3 * i))).store (3 * i + 1)
      (v (3 * i + 1))).store (3 * i + 2) (v (3 * i + 2))) n b j =
    if j < 3 * n then v j else b j := by
  induction n with
  | zero => rfl
  | succ n ih =>
    rw [forRange, store_apply, store_apply, store_apply, ih, Nat.zero_add]
    split_ifs <;> first | rfl | omega | (congr 1; omega)

structure Parameters.Layout (p : Parameters) : Prop where
  rgb : p.format = .rgb → p.bytesPerLine = p.pixelsPerLine * 3
  gray : p.format ≠ .rgb → p.depth ≠ 1 → p.bytesPerLine = p.pixelsPerLine

theorem OptionValues.computeParameters_layout (v : OptionValues) : v.computeParameters.Layout := by
  unfold computeParameters
  dsimp only
  split_ifs
  · exact ⟨fun _ => rfl, fun h => absurd rfl h⟩
  · exact ⟨fun h => (by cases h), fun _ h => absurd rfl h⟩
  · exact ⟨fun h => (by cases h), fun _ _ => rfl⟩

/-- What a run of the program shares with another one of the same program. -/
structure Env.Agrees (env env' : Env) : Prop where
  toneCurve : env'.toneCurve = env.toneCurve
  ditherMask : env'.ditherMask = env.ditherMask

def Parameters.samples (p : Parameters) (avail : Nat) : Nat :=
  (if p.format = .rgb then 3 else 1) * min avail p.pixelsPerLine

theorem packBits_congr {black black' : Nat → Bool} {lo n len : Nat}
    (hblack : ∀ i, lo ≤ i → i < lo + n → black i = black' i)
    (hb : ∀ j < len, b j = b' j) {j : Nat} (hj : j < len) :
    forRange lo (fun i (d : Buffer) =>
      if black i then d.store (i / 8) (d (i / 8) ||| 0x80 >>> UInt8.ofNat (i % 8)) else d) n b j =
    forRange lo (fun i (d : Buffer) =>
      if black' i then d.store (i / 8) (d (i / 8) ||| 0x80 >>> UInt8.ofNat (i % 8)) else d) n b' j := by
  refine forRange_congr (R := fun d d' : Buffer => ∀ j < len, d j = d' j) n
    (fun i d d' hlo hhi hd j hj => ?_) hb j hj
  rw [hblack i hlo hhi]
  split
  · rw [store_apply, store_apply]
    split_ifs with hij
    · rw [hd _ (by omega)]
    · exact hd j hj
  · exact hd j hj

theorem convertRow_bytes_congr {env env' : Env} (henv : env.Agrees env') {h : Handle}
    (hp : h.params.Layout) {src src' : Buffer} {avail : Nat}
    (hsrc : ∀ i < h.params.samples avail, src i = src' i) (row : Nat) (dst dst' : Buffer) :
    (convertRow env h src avail row dst).bytes h.params.bytesPerLine =
      (convertRow env' h src' avail row dst').bytes h.params.bytesPerLine := by
  apply bytes_congr
  intro j hj
  unfold Parameters.samples at hsrc
  unfold convertRow
  dsimp only
  by_cases hwhite : h.whiteRow row = true
  · rw [if_pos hwhite, if_pos hwhite]
    simp only [memset, hj, Nat.zero_add, Nat.zero_le, true_and, if_true]
  rw [if_neg hwhite, if_neg hwhite]
  by_cases hrgb : h.params.format = .rgb
  · rw [if_pos hrgb, if_pos hrgb]
    rw [if_pos hrgb] at hsrc
    have hline := hp.rgb hrgb
    -- Byte `j` is sample `2 - j % 3` of pixel `j / 3`.
    have hloop (s : Buffer) (d : Buffer) := forRange_store3_apply
      (v := fun j => h.gamma (s (3 * (j / 3) + 2 - j % 3))) (b := d) (min avail h.params.pixelsPerLine) j
    have hbody (s : Buffer) : (fun i (d : Buffer) =>
        ((d.store (3 * i) (h.gamma (s (3 * i + 2)))).store (3 * i + 1) (h.gamma (s (3 * i + 1)))).store
          (3 * i + 2) (h.gamma (s (3 * i)))) = fun i (d : Buffer) =>
        ((d.store (3 * i) (h.gamma (s (3 * (3 * i / 3) + 2 - 3 * i % 3)))).store (3 * i + 1)
          (h.gamma (s (3 * ((3 * i + 1) / 3) + 2 - (3 * i + 1) % 3)))).store (3 * i + 2)
          (h.gamma (s (3 * ((3 * i + 2) / 3) + 2 - (3 * i + 2) % 3))) := by
      funext i d
      congr 5 <;> omega
    rw [hbody src, hbody src']
    simp only [memset, hloop]
    split_ifs <;> first | rfl | omega | (rw [hsrc]; omega)
  rw [if_neg hrgb, if_neg hrgb]
  rw [if_neg hrgb] at hsrc
  by_cases hdepth : h.params.depth = 1
  · rw [if_pos hdepth, if_pos hdepth]
    refine packBits_congr (fun i hlo hhi => ?_) (fun j hj => ?_) hj
    · rw [hsrc i (by omega), henv.ditherMask]
    · simp only [memset, hj, Nat.zero_add, Nat.zero_le, true_and, if_true]
  · rw [if_neg hdepth, if_neg hdepth]
    have hline := hp.gray hrgb hdepth
    simp only [memset, forRange_store_apply]
    split_ifs <;> first | rfl | omega | (rw [hsrc]; omega)

variable {h h₀ : Handle}

/-- `h` and `h₀` agree in what `convert_row` reads. -/
structure Handle.SameRows (h h₀ : Handle) : Prop where
  params : h.params = h₀.params
  gamma : h.gamma = h₀.gamma
  threshold : h.threshold = h₀.threshold
  halftone : h.halftone = h₀.halftone
  white : h.whiteTop = h₀.whiteTop ∧ h.whiteBottom = h₀.whiteBottom ∧
    h.whiteLeft = h₀.whiteLeft ∧ h.whiteRight = h₀.whiteRight

theorem Handle.SameRows.refl (h : Handle) : h.SameRows h := ⟨rfl, rfl, rfl, rfl, rfl, rfl, rfl, rfl⟩

theorem Handle.SameRows.convertRow (a : h.SameRows h₀) (env : Env) :
    convertRow env h = Scan.convertRow env h₀ := by
  unfold Scan.convertRow Handle.whiteRow
  rw [a.params, a.gamma, a.threshold, a.halftone, a.white.1, a.white.2.1, a.white.2.2.1,
    a.white.2.2.2]

theorem Handle.SameRows.trans {h' : Handle} (a : h.SameRows h') (b : h'.SameRows h₀) :
    h.SameRows h₀ :=
  ⟨a.params.trans b.params, a.gamma.trans b.gamma, a.threshold.trans b.threshold,
    a.halftone.trans b.halftone, a.white.1.trans b.white.1, a.white.2.1.trans b.white.2.1,
    a.white.2.2.1.trans b.white.2.2.1, a.white.2.2.2.trans b.white.2.2.2⟩

end PantumOpen.Scan
