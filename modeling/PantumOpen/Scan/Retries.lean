import PantumOpen.Scan.Endpoint

/-! Bulk transfers whose failed tries move bytes: when `usb_read` and `usb_write` lose or repeat
some of them. -/

namespace PantumOpen.Scan
open Prog

/-- The bytes that tries which fail and are repeated move on the way to `left` more bytes, when the
piece under way has `tries` left; `none` when the request is given up. -/
def lostBytes : List Xfer → Nat → Nat → Option Nat
  | [], _, left => if left = 0 then some 0 else none
  | x :: xs, tries, left =>
    if left = 0 then some 0
    else if tries = 0 then none
    else match x.rc with
      | .success => if min x.n left = 0 then none else lostBytes xs 3 (left - min x.n left)
      | .timeout => none
      | .other => (lostBytes xs (tries - 1) left).map (min x.n left + ·)

theorem lostBytes_zero (xs : List Xfer) (tries : Nat) : lostBytes xs tries 0 = some 0 := by
  cases xs <;> rfl

theorem retry_succ {σ α : Type} {xfer : Prog Status σ (Rc × α)} {a : α} {rc : Rc} {s t : σ}
    (none : α) (h : xfer s = (.ok (rc, a), t)) (n : Nat) :
    retry xfer none (n + 1) s = if rc = .other then retry xfer a n t else (.ok (rc, a), t) := by
  unfold retry
  rw [loop, Prog.bind_assoc, bind_ok h]
  cases rc <;> rfl

section
variable {len tries left fuel : Nat} {buf : List UInt8} {i : Inp}

def readRound (len : Nat) (buf : List UInt8) : Prog Status Inp (List UInt8 ⊕ List UInt8) :=
  if buf.length < len then do
    let r ← retry (bulkIn (len - buf.length)) [] 3
    if r.1 ≠ .success ∨ r.2 = [] then fail .ioError else pure (.inl (buf ++ r.2))
  else pure (.inr buf)

theorem usbRead_eq (len : Nat) : usbRead len = loop (readRound len) pure (len + 1) [] := rfl

def readAfter (len fuel : Nat) (buf : List UInt8) (r : Rc × List UInt8) :
    Prog Status Inp (List UInt8) :=
  if r.1 ≠ .success ∨ r.2 = [] then fail .ioError
  else loop (readRound len) pure fuel (buf ++ r.2)

def ReadOutcome (lost : Option Nat) (left : Nat) (i : Inp) (buf : List UInt8) :
    Except Status (List UInt8) × Inp → Prop
  | (.ok bs, j) => ∃ l, lost = some l ∧ left + l ≤ i.inStream.length ∧
      j.inStream = i.inStream.drop (left + l) ∧ (l = 0 → bs = buf ++ i.inStream.take left)
  | (.error _, _) => ∀ l, lost = some l → i.inStream.length < left + l

theorem readLoop_done (h : len ≤ buf.length) :
    loop (readRound len) pure (fuel + 1) buf i = (.ok buf, i) := by
  rw [loop, readRound, if_neg (Nat.not_lt.mpr h)]
  rfl

theorem readLoop_more (h : buf.length < len) :
    loop (readRound len) pure (fuel + 1) buf i =
      (retry (bulkIn (len - buf.length)) [] 3 >>= readAfter len fuel buf) i := by
  rw [loop, readRound, if_pos h, Prog.bind_assoc]
  refine congrFun (congrArg (Bind.bind _) (funext fun r => ?_)) i
  unfold readAfter
  split <;> rfl

theorem readLoop_outcome (xs : List Xfer) (hbuf : buf.length + left = len) (hfuel : left < fuel)
    (hpiece : 0 < left → ∀ fuel, left ≤ fuel → ReadOutcome (lostBytes xs 3 left) left i buf
      ((retry (bulkIn (len - buf.length)) [] 3 >>= readAfter len fuel buf) i)) :
    ReadOutcome (lostBytes xs 3 left) left i buf (loop (readRound len) pure fuel buf i) := by
  obtain ⟨n, rfl⟩ : ∃ n, fuel = n + 1 := ⟨fuel - 1, by omega⟩
  rcases Nat.eq_zero_or_pos left with rfl | hpos
  · rw [readLoop_done (by omega), lostBytes_zero]
    exact ⟨0, rfl, Nat.zero_le _, by simp, fun _ => by simp⟩
  · rw [readLoop_more (by omega)]
    exact hpiece hpos n (by omega)

theorem readPiece_outcome (xs : List Xfer) (stream a : List UInt8)
    (hbuf : buf.length + left = len) (hpos : 0 < left) (hfuel : left ≤ fuel) :
    ReadOutcome (lostBytes xs tries left) left ⟨stream, xs⟩ buf
      ((retry (bulkIn (len - buf.length)) a tries >>= readAfter len fuel buf) ⟨stream, xs⟩) := by
  -- by induction on the transfers: a failed try and a piece that moved each use up one
  induction xs generalizing tries left fuel buf stream a with
  | nil =>
    have hlost : lostBytes [] tries left = none := if_neg hpos.ne'
    rw [hlost]
    cases tries <;> exact nofun
  | cons x xs ih =>
    have hleft : len - buf.length = left := by omega
    rw [lostBytes, if_neg hpos.ne']
    cases tries with
    | zero => exact nofun
    | succ n =>
      have hxfer : bulkIn (len - buf.length) ⟨stream, x :: xs⟩ =
          (.ok (x.rc, stream.take (min x.n left)), ⟨stream.drop (min x.n left), xs⟩) := by
        rw [hleft]
        rfl
      have htry := retry_succ a hxfer n
      rw [if_neg (Nat.succ_ne_zero n), Nat.add_sub_cancel]
      cases hrc : x.rc with
      | timeout =>
        rw [hrc, if_neg (by decide)] at htry
        rw [bind_ok htry]
        exact nofun
      | success =>
        rw [hrc, if_neg (by decide)] at htry
        rw [bind_ok htry]
        dsimp only
        unfold readAfter
        -- Nothing moves when the transfer says so or when the stream is at its end.
        by_cases hmoved : stream.take (min x.n left) = []
        · rw [if_pos (Or.inr hmoved)]
          have hnone : stream.length < left ∨ min x.n left = 0 := by
            rcases List.take_eq_nil_iff.mp hmoved with h | rfl
            · exact .inr h
            · exact .inl hpos
          intro l hl
          split at hl
          · exact absurd hl nofun
          · exact Nat.lt_add_right l (hnone.resolve_right ‹_›)
        · rw [if_neg (not_or.mpr ⟨not_not.mpr rfl, hmoved⟩)]
          have hk : min x.n left ≠ 0 := fun h => hmoved (by rw [h]; exact List.take_zero)
          have hlen : (stream.take (min x.n left)).length = min (min x.n left) stream.length :=
            List.length_take
          have hstream : 0 < stream.length := List.length_pos_iff.mpr fun h => hmoved (by simp [h])
          rw [if_neg hk]
          have hnext := @readLoop_outcome len (left - min (min x.n left) stream.length) fuel
            (buf ++ stream.take (min x.n left)) ⟨stream.drop (min x.n left), xs⟩ xs
            (by rw [List.length_append]; omega) (by omega)
            (fun h fuel hfuel => ih (stream.drop (min x.n left)) [] (by rw [List.length_append]; omega)
              h hfuel)
          rcases hrun : loop (readRound len) pure fuel (buf ++ stream.take (min x.n left))
            ⟨stream.drop (min x.n left), xs⟩ with ⟨e | bs, j⟩ <;> rw [hrun] at hnext
          · intro l hl
            rcases Nat.lt_or_ge stream.length (min x.n left) with hshort | hroom
            · dsimp only
              omega
            · rw [Nat.min_eq_left hroom] at hnext
              have hless := hnext l hl
              simp only [List.length_drop] at hless
              dsimp only
              omega
          · obtain ⟨l, hl, hle, hj, hbs⟩ := hnext
            simp only [List.length_drop] at hle
            have hroom : min x.n left ≤ stream.length := by omega
            rw [Nat.min_eq_left hroom] at hl hj hbs hle
            refine ⟨l, hl, by dsimp only; omega, ?_, fun hzero => ?_⟩
            · rw [hj, List.drop_drop]
              congr 1
              omega
            · have hsplit : left = min x.n left + (left - min x.n left) := by omega
              rw [hbs hzero, List.append_assoc]
              conv_rhs => rw [hsplit, List.take_add]
      | other =>
        -- The next try writes over what this one had moved.
        rw [hrc, if_pos rfl] at htry
        have hnext := @ih n left fuel buf (stream.drop (min x.n left)) (stream.take (min x.n left))
          hbuf hpos hfuel
        rw [bind_congr_left htry]
        rcases hrun : (retry (bulkIn (len - buf.length)) (stream.take (min x.n left)) n >>=
          readAfter len fuel buf) ⟨stream.drop (min x.n left), xs⟩ with ⟨e | bs, j⟩ <;> rw [hrun] at hnext
        · intro l hl
          obtain ⟨l', hl', rfl⟩ := Option.map_eq_some_iff.mp hl
          have hshort := hnext l' hl'
          simp only [List.length_drop] at hshort
          dsimp only
          omega
        · obtain ⟨l, hl, hle, hj, hbs⟩ := hnext
          simp only [List.length_drop] at hle
          refine ⟨min x.n left + l, by rw [hl]; rfl, by dsimp only; omega, ?_, fun hzero => ?_⟩
          · rw [hj, List.drop_drop]
            congr 1
            omega
          · rw [hbs (by omega), show min x.n left = 0 by omega, List.drop_zero]

theorem usbRead_outcome (len : Nat) (i : Inp) :
    ReadOutcome (lostBytes i.inSched 3 len) len i [] (usbRead len i) := by
  rw [usbRead_eq]
  exact readLoop_outcome i.inSched (by simp) (Nat.lt_succ_self len) fun hpos _ hfuel =>
    readPiece_outcome i.inSched i.inStream [] (by simp) hpos hfuel

/-- A read that succeeds is exact when no try that failed on the way to it has moved a byte. -/
theorem usbRead_exact (len : Nat) (i : Inp) :
    (∀ bs j, usbRead len i = (.ok bs, j) → bs.length = len ∧ i.inStream = bs ++ j.inStream) ↔
      ∀ l, lostBytes i.inSched 3 len = some l → len + l ≤ i.inStream.length → l = 0 := by
  have hout := usbRead_outcome len i
  rcases hrun : usbRead len i with ⟨e | bs, j⟩ <;> rw [hrun] at hout
  · exact iff_of_true nofun fun l hl hle => absurd (hout l hl) (Nat.not_lt.mpr hle)
  · obtain ⟨l, hl, hle, hj, hbs⟩ := hout
    constructor
    · intro h l' hl' _
      obtain rfl : l = l' := Option.some.inj (hl.symm.trans hl')
      obtain ⟨hlen, hstream⟩ := h bs j rfl
      have htotal := congrArg List.length hstream
      rw [List.length_append, hj, List.length_drop] at htotal
      omega
    · rintro h _ _ ⟨⟩
      have hzero := h l hl hle
      subst hzero
      constructor
      · rw [hbs rfl, List.nil_append, List.length_take]
        omega
      · rw [hbs rfl, hj, List.nil_append, Nat.add_zero, List.take_append_drop]

end

section
variable {tries left fuel sent : Nat} {buf : List UInt8} {o : Outp}

def writeRound (buf : List UInt8) (sent : Nat) : Prog Status Outp (Nat ⊕ Unit) :=
  if sent < buf.length then do
    let r ← retry (bulkOut (buf.drop sent)) 0 3
    if r.1 ≠ .success ∨ r.2 = 0 then fail .ioError else pure (.inl (sent + r.2))
  else pure (.inr ())

theorem usbWrite_eq (buf : List UInt8) :
    usbWrite buf = loop (writeRound buf) (fun _ => pure ()) (buf.length + 1) 0 := rfl

def writeAfter (buf : List UInt8) (fuel sent : Nat) (r : Rc × Nat) : Prog Status Outp Unit :=
  if r.1 ≠ .success ∨ r.2 = 0 then fail .ioError
  else loop (writeRound buf) (fun _ => pure ()) fuel (sent + r.2)

def WriteOutcome (lost : Option Nat) (o : Outp) (buf : List UInt8) (sent : Nat) :
    Except Status Unit × Outp → Prop
  | (.ok _, p) => ∃ l bs, lost = some l ∧ p.outStream = o.outStream ++ bs ∧
      bs.length = buf.length - sent + l ∧ (l = 0 → bs = buf.drop sent)
  | (.error _, _) => lost = none

theorem writeLoop_outcome (xs : List Xfer) (hbuf : sent + left = buf.length) (hfuel : left < fuel)
    (hpiece : 0 < left → ∀ fuel, left ≤ fuel → WriteOutcome (lostBytes xs 3 left) o buf sent
      ((retry (bulkOut (buf.drop sent)) 0 3 >>= writeAfter buf fuel sent) o)) :
    WriteOutcome (lostBytes xs 3 left) o buf sent
      (loop (writeRound buf) (fun _ => pure ()) fuel sent o) := by
  obtain ⟨n, rfl⟩ : ∃ n, fuel = n + 1 := ⟨fuel - 1, by omega⟩
  rcases Nat.eq_zero_or_pos left with rfl | hpos
  · rw [loop, writeRound, if_neg (by omega), lostBytes_zero]
    refine ⟨0, [], rfl, (List.append_nil _).symm, by simp; omega, fun _ => ?_⟩
    rw [List.drop_eq_nil_of_le (by omega)]
  · have hmore : loop (writeRound buf) (fun _ => pure ()) (n + 1) sent o =
        (retry (bulkOut (buf.drop sent)) 0 3 >>= writeAfter buf n sent) o := by
      rw [loop, writeRound, if_pos (by omega), Prog.bind_assoc]
      refine congrFun (congrArg (Bind.bind _) (funext fun r => ?_)) o
      unfold writeAfter
      split <;> rfl
    rw [hmore]
    exact hpiece hpos n (by omega)

theorem writePiece_outcome (xs : List Xfer) (a : Nat) (hsched : o.outSched = xs)
    (hbuf : sent + left = buf.length) (hpos : 0 < left) (hfuel : left ≤ fuel) :
    WriteOutcome (lostBytes xs tries left) o buf sent
      ((retry (bulkOut (buf.drop sent)) a tries >>= writeAfter buf fuel sent) o) := by
  induction xs generalizing tries left fuel sent o a with
  | nil =>
    have hlost : lostBytes [] tries left = none := if_neg hpos.ne'
    rw [hlost]
    cases tries with
    | zero => rfl
    | succ n =>
      have hxfer : bulkOut (buf.drop sent) o = (.ok (.timeout, 0), o) := by
        unfold bulkOut
        rw [hsched]
      rw [bind_ok (retry_succ a hxfer n)]
      rfl
  | cons x xs ih =>
    rw [lostBytes, if_neg hpos.ne']
    cases tries with
    | zero => rfl
    | succ n =>
      set o' : Outp := { o with
        outSched := xs
        outStream := o.outStream ++ (buf.drop sent).take (min x.n left) } with ho'
      have hxfer : bulkOut (buf.drop sent) o = (.ok (x.rc, min x.n left), o') := by
        unfold bulkOut
        rw [hsched, List.length_drop, show buf.length - sent = left by omega]
      have htry := retry_succ a hxfer n
      have hpiece : ((buf.drop sent).take (min x.n left)).length = min x.n left := by
        rw [List.length_take, List.length_drop]
        omega
      rw [if_neg (Nat.succ_ne_zero n), Nat.add_sub_cancel]
      cases hrc : x.rc with
      | timeout =>
        rw [hrc, if_neg (by decide)] at htry
        rw [bind_ok htry]
        rfl
      | success =>
        rw [hrc, if_neg (by decide)] at htry
        rw [bind_ok htry]
        dsimp only
        unfold writeAfter
        by_cases hk : min x.n left = 0
        · rw [if_pos hk, if_pos (Or.inr hk)]
          rfl
        · rw [if_neg hk, if_neg (not_or.mpr ⟨not_not.mpr rfl, hk⟩)]
          have hnext := @writeLoop_outcome (left - min x.n left) fuel (sent + min x.n left) buf o' xs
            (by omega) (by omega) (fun h fuel hfuel => ih 0 rfl (by omega) h hfuel)
          rcases hrun : loop (writeRound buf) (fun _ => pure ()) fuel (sent + min x.n left) o'
            with ⟨e | u, p⟩ <;> rw [hrun] at hnext
          · exact hnext
          · obtain ⟨l, bs, hl, hp, hlen, hbs⟩ := hnext
            refine ⟨l, (buf.drop sent).take (min x.n left) ++ bs, hl, ?_, ?_, fun hzero => ?_⟩
            · rw [hp, ho', List.append_assoc]
            · rw [List.length_append, hpiece, hlen]
              omega
            · rw [hbs hzero, ← List.drop_drop, List.take_append_drop]
      | other =>
        -- What this try had moved is sent once more by the next one.
        rw [hrc, if_pos rfl] at htry
        have hnext := @ih n left fuel sent o' (min x.n left) rfl hbuf hpos hfuel
        rw [bind_congr_left htry]
        rcases hrun : (retry (bulkOut (buf.drop sent)) (min x.n left) n >>= writeAfter buf fuel sent) o'
          with ⟨e | u, p⟩ <;> rw [hrun] at hnext
        · have hnone : lostBytes xs n left = none := hnext
          rw [hnone]
          rfl
        · obtain ⟨l, bs, hl, hp, hlen, hbs⟩ := hnext
          refine ⟨min x.n left + l, (buf.drop sent).take (min x.n left) ++ bs, by rw [hl]; rfl, ?_, ?_,
            fun hzero => ?_⟩
          · rw [hp, ho', List.append_assoc]
          · rw [List.length_append, hpiece, hlen]
            omega
          · rw [hbs (by omega), show min x.n left = 0 by omega, List.take_zero, List.nil_append]

theorem usbWrite_outcome (buf : List UInt8) (o : Outp) :
    WriteOutcome (lostBytes o.outSched 3 buf.length) o buf 0 (usbWrite buf o) := by
  rw [usbWrite_eq]
  exact writeLoop_outcome o.outSched (Nat.zero_add _) (Nat.lt_succ_self _) fun hpos _ hfuel =>
    writePiece_outcome o.outSched 0 rfl (Nat.zero_add _) hpos hfuel

/-- A write that succeeds is exact when no try that failed on the way to it has moved a byte. -/
theorem usbWrite_exact (buf : List UInt8) (o : Outp) :
    (∀ p, usbWrite buf o = (.ok (), p) → p.outStream = o.outStream ++ buf) ↔
      ∀ l, lostBytes o.outSched 3 buf.length = some l → l = 0 := by
  have hout := usbWrite_outcome buf o
  rcases hrun : usbWrite buf o with ⟨e | u, p⟩ <;> rw [hrun] at hout
  · exact iff_of_true nofun fun l hl => absurd (hl.symm.trans hout) nofun
  · obtain ⟨l, bs, hl, hp, hlen, hbs⟩ := hout
    constructor
    · intro h l' hl'
      obtain rfl : l = l' := Option.some.inj (hl.symm.trans hl')
      have hsame : bs = buf := List.append_cancel_left (hp.symm.trans (h p rfl))
      rw [hsame] at hlen
      omega
    · rintro h _ ⟨⟩
      rw [hp, hbs (h l hl), List.drop_zero]

end

/-- A bulk transfer that succeeds neither loses nor repeats a byte, unless a failed try on the way to
it has moved some. -/
theorem transfers_exact_iff (len : Nat) (i : Inp) (buf : List UInt8) (o : Outp) :
    ((∀ bs j, usbRead len i = (.ok bs, j) → bs.length = len ∧ i.inStream = bs ++ j.inStream) ↔
      ∀ l, lostBytes i.inSched 3 len = some l → len + l ≤ i.inStream.length → l = 0) ∧
    ((∀ p, usbWrite buf o = (.ok (), p) → p.outStream = o.outStream ++ buf) ↔
      ∀ l, lostBytes o.outSched 3 buf.length = some l → l = 0) :=
  ⟨usbRead_exact len i, usbWrite_exact buf o⟩

/-- A first try that stalls after one byte: the read loses that byte, the write sends it twice. -/
theorem stalledTransfers_inexact :
    (∃ bs j, usbRead 1 ⟨[1, 2], [⟨.other, 1⟩, ⟨.success, 1⟩]⟩ = (.ok bs, j) ∧ [1, 2] ≠ bs ++ j.inStream) ∧
      ∃ p, usbWrite [1, 2] ⟨[⟨.other, 1⟩, ⟨.success, 2⟩], [], []⟩ = (.ok (), p) ∧
        p.outStream ≠ [1, 2] :=
  ⟨⟨[2], ⟨[], []⟩, rfl, by decide⟩, ⟨[], [1, 1, 2], []⟩, rfl, by decide⟩

end PantumOpen.Scan
