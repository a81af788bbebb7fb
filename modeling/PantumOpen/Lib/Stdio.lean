import PantumOpen.Lib.Prog

/-! Byte files as the stdio calls of C see them, with writes that a signal may cut short. -/

namespace Stdio
open Prog

/-- What a file holds and where the next call works. A signal is on its way when `cut` is set: that
many bytes still pass, and the write that asks for more is cut short. -/
structure File where
  bytes : List UInt8 := []
  pos : Nat := 0
  cut : Option Nat := none
  interrupted : Bool := false
deriving DecidableEq, Repr

def File.put (f : File) (bs : List UInt8) : File :=
  { f with bytes := f.bytes.take f.pos ++ bs ++ f.bytes.drop (f.pos + bs.length)
           pos := f.pos + bs.length }

section
variable {ε : Type}

def fwrite (bs : List UInt8) : Prog ε File Nat := fun f =>
  match f.cut with
  | none => (.ok bs.length, f.put bs)
  | some k =>
    if k < bs.length then (.ok k, { f.put (bs.take k) with cut := none, interrupted := true })
    else (.ok bs.length, { f.put bs with cut := some (k - bs.length) })

def fread (n : Nat) : Prog ε File (List UInt8) := fun f =>
  let bs := (f.bytes.drop f.pos).take n
  (.ok bs, { f with pos := f.pos + bs.length })

def ftell : Prog ε File Nat := gets File.pos

def fseek (off : Nat) : Prog ε File Unit := modify fun f => { f with pos := off }

end

def writeAll (bs : List UInt8) : Prog Unit File Unit := do
  let n ← fwrite bs
  if n ≠ bs.length then fail ()

theorem writeAll_none {f : File} (h : f.cut = none) (bs : List UInt8) :
    writeAll bs f = (.ok (), f.put bs) := by
  have hw : fwrite (ε := Unit) bs f = (.ok bs.length, f.put bs) := by simp only [fwrite, h]
  unfold writeAll
  rw [bind_ok hw, if_neg (by simp)]
  rfl

theorem writeAll_cut {f : File} {k : Nat} (h : f.cut = some k) {bs : List UInt8}
    (hk : k < bs.length) :
    writeAll bs f = (.error (), { f.put (bs.take k) with cut := none, interrupted := true }) := by
  have hw : fwrite (ε := Unit) bs f =
      (.ok k, { f.put (bs.take k) with cut := none, interrupted := true }) := by
    simp only [fwrite, h, if_pos hk]
  unfold writeAll
  rw [bind_ok hw, if_pos hk.ne]
  rfl

theorem writeAll_pass {f : File} {k : Nat} (h : f.cut = some k) {bs : List UInt8}
    (hk : bs.length ≤ k) :
    writeAll bs f = (.ok (), { f.put bs with cut := some (k - bs.length) }) := by
  have hw : fwrite (ε := Unit) bs f =
      (.ok bs.length, { f.put bs with cut := some (k - bs.length) }) := by
    simp only [fwrite, h, if_neg (Nat.not_lt.mpr hk)]
  unfold writeAll
  rw [bind_ok hw, if_neg (by simp)]
  rfl

theorem File.put_nil (f : File) : f.put [] = f := by
  unfold File.put
  simp

theorem File.put_put (f : File) (a b : List UInt8) : (f.put a).put b = f.put (a ++ b) := by
  have hbytes : ((f.put a).put b).bytes = (f.put (a ++ b)).bytes := by
    simp only [File.put]
    rcases Nat.le_total f.pos f.bytes.length with h | h
    · have hlen : (f.bytes.take f.pos ++ a).length = f.pos + a.length := by simp [h]
      rw [List.take_left' hlen, List.drop_append, hlen, List.drop_drop]
      simp [Nat.add_assoc, hlen]
    · have hnil (n : Nat) : f.bytes.drop (f.pos + n) = [] :=
        List.drop_eq_nil_of_le (h.trans (Nat.le_add_right _ _))
      have htake : (f.bytes ++ a).take (f.pos + a.length) = f.bytes ++ a :=
        List.take_of_length_le (by simpa using h)
      rw [hnil, hnil, List.take_of_length_le h, List.append_nil, htake]
      simp [Nat.add_assoc]
      omega
  have hpos : ((f.put a).put b).pos = (f.put (a ++ b)).pos := by simp [File.put, Nat.add_assoc]
  unfold File.put at hbytes hpos ⊢
  simp only at hbytes hpos ⊢
  rw [hbytes, hpos]

theorem writeAll_append (a b : List UInt8) :
    (writeAll a >>= fun _ => writeAll b) = writeAll (a ++ b) := by
  funext f
  cases hc : f.cut with
  | none =>
    rw [bind_ok (writeAll_none hc a), writeAll_none (by exact hc), writeAll_none hc, File.put_put]
  | some k =>
    rcases Nat.lt_or_ge k a.length with ha | ha
    · have hab : k < (a ++ b).length := by simp; omega
      rw [bind_error (writeAll_cut hc ha), writeAll_cut hc hab, List.take_append_of_le_length ha.le]
    · rw [bind_ok (writeAll_pass hc ha)]
      rcases Nat.lt_or_ge (k - a.length) b.length with hb | hb
      · have hab : k < (a ++ b).length := by simp; omega
        rw [writeAll_cut (by rfl) hb, writeAll_cut hc hab, List.take_append, List.take_of_length_le ha,
          ← File.put_put]
        rfl
      · have hab : (a ++ b).length ≤ k := by simp; omega
        rw [writeAll_pass (by rfl) hb, writeAll_pass hc hab, ← File.put_put, List.length_append,
          Nat.sub_sub]
        rfl

theorem writeAll_append_ok {a : List UInt8} {f g : File} (h : writeAll a f = (.ok (), g))
    (b : List UInt8) : writeAll (a ++ b) f = writeAll b g := by
  rw [← writeAll_append, bind_ok h]

theorem writeAll_append_error {a : List UInt8} {f g : File} (h : writeAll a f = (.error (), g))
    (b : List UInt8) : writeAll (a ++ b) f = (.error (), g) := by
  rw [← writeAll_append, bind_error h]

theorem writeAll_interrupted (bs : List UInt8) (f : File) :
    (writeAll bs f).2.interrupted = true ↔ (writeAll bs f).1 = .error () ∨ f.interrupted = true := by
  cases hc : f.cut with
  | none =>
    rw [writeAll_none hc]
    simp [File.put]
  | some k =>
    rcases Nat.lt_or_ge k bs.length with hk | hk
    · rw [writeAll_cut hc hk]
      simp
    · rw [writeAll_pass hc hk]
      simp [File.put]

theorem writeAll_nil : writeAll [] = pure () := by
  funext f
  cases hc : f.cut with
  | none => rw [writeAll_none hc, File.put_nil]; rfl
  | some k =>
    have hk : ([] : List UInt8).length ≤ k := Nat.zero_le k
    rw [writeAll_pass hc hk, File.put_nil, List.length_nil, Nat.sub_zero, ← hc]
    rfl

def tape (bs : List UInt8) (cut : Option Nat) (interrupted : Bool) : File :=
  ⟨bs, bs.length, cut, interrupted⟩

section
variable {bs a : List UInt8} {q : Nat} {cut : Option Nat} {i : Bool}

theorem tape_put : (tape bs cut i).put a = tape (bs ++ a) cut i := by
  unfold tape File.put
  simp only [List.take_length, List.length_append]
  rw [List.drop_eq_nil_of_le (Nat.le_add_right _ _), List.append_nil]

theorem writeAll_tape : writeAll a (tape bs none i) = (.ok (), tape (bs ++ a) none i) := by
  rw [writeAll_none rfl, tape_put]

theorem writeAll_tape_pass (h : a.length ≤ q) :
    writeAll a (tape bs (some q) i) = (.ok (), tape (bs ++ a) (some (q - a.length)) i) := by
  rw [writeAll_pass rfl h, tape_put]
  rfl

theorem writeAll_tape_cut (h : q < a.length) :
    writeAll a (tape bs (some q) i) = (.error (), tape (bs ++ a.take q) none true) := by
  rw [writeAll_cut rfl h, tape_put]
  rfl

end

end Stdio
