import PantumOpen.Lib.Buffer
import PantumOpen.Lib.Prog

/-! Blocks of memory that know how long they are and which of their cells were written, with
accesses that check both. -/

/-- A block of memory; a cell nothing was written to is `none`. -/
abbrev Cells := List (Option UInt8)

namespace Cells
open Prog Buffer

/-- An access outside of the block, or a read of what was never written. -/
inductive Fault
  | bounds | blank
  deriving DecidableEq, Repr

def fresh (n : Nat) : Cells := List.replicate n none

def peek {σ : Type} (src : List UInt8) (i : Nat) : Prog Fault σ UInt8 :=
  match src[i]? with
  | some v => pure v
  | none => fail .bounds

def load (i : Nat) : Prog Fault Cells UInt8 := do
  let mem ← read
  match mem[i]? with
  | some (some v) => pure v
  | some none => fail .blank
  | none => fail .bounds

def store (i : Nat) (v : UInt8) : Prog Fault Cells Unit := do
  let mem ← read
  if i < mem.length then modify fun mem => mem.set i (some v) else fail .bounds

def splice (mem : Cells) (off : Nat) (l : List UInt8) : Cells :=
  mem.take off ++ l.map some ++ mem.drop (off + l.length)

def paste (off : Nat) (l : List UInt8) : Prog Fault Cells Unit := do
  let mem ← read
  if off + l.length ≤ mem.length then modify fun mem => mem.splice off l else fail .bounds

def fill (off : Nat) (v : UInt8) (n : Nat) : Prog Fault Cells Unit := paste off (List.replicate n v)

def copy (off n : Nat) : Prog Fault Cells (List UInt8) := do
  let mem ← read
  if off + n ≤ mem.length then
    match ((mem.drop off).take n).mapM id with
    | some l => pure l
    | none => fail .blank
  else fail .bounds

/-- A block of `len` cells in which the cells of `w` were written and hold the bytes of `b`. -/
structure Shows (len : Nat) (w : Nat → Prop) (b : Buffer) (mem : Cells) : Prop where
  length : mem.length = len
  cell : ∀ i < len, w i → mem[i]? = some (some (b i))

section
variable {σ : Type} {len : Nat} {w w' : Nat → Prop} {b b' : Buffer} {mem : Cells}

theorem fresh_shows (len : Nat) (b : Buffer) : Shows len (fun _ => False) b (fresh len) :=
  ⟨List.length_replicate, fun _ _ h => h.elim⟩

theorem Shows.congr (h : Shows len w b mem) (hw : ∀ i < len, w' i → w i)
    (hb : ∀ i < len, w' i → b i = b' i) : Shows len w' b' mem :=
  ⟨h.length, fun i hi hi' => by rw [← hb i hi hi', h.cell i hi (hw i hi hi')]⟩

theorem Shows.full (h : Shows len w b mem) (hw : ∀ i < len, w i) : mem = (b.bytes len).map some := by
  apply List.ext_getElem?
  intro i
  by_cases hi : i < len
  · rw [h.cell i hi (hw i hi)]
    simp [bytes, hi]
  · rw [List.getElem?_eq_none (by rw [h.length]; omega), List.getElem?_eq_none (by simp; omega)]

theorem runs_peek {src : List UInt8} {i : Nat} (hi : i < src.length) {Q : UInt8 → σ → Prop} {s : σ}
    (h : Q (ofList src i) s) : Runs (peek src i) Q s := by
  have hget : src[i]? = some (ofList src i) := by simp [ofList, hi]
  unfold peek
  rw [hget]
  exact runs_pure h

theorem runs_load (hc : Shows len w b mem) {i : Nat} (hi : i < len) (hw : w i)
    {Q : UInt8 → Cells → Prop} (h : Q (b i) mem) : Runs (load i) Q mem := by
  refine ⟨b i, mem, ?_, h⟩
  unfold load
  rw [read_bind, hc.cell i hi hw]
  rfl

theorem runs_store (hc : Shows len w b mem) {i : Nat} (hi : i < len) (v : UInt8) :
    Runs (store i v) (fun _ => Shows len (fun j => j = i ∨ w j) (b.store i v)) mem := by
  refine ⟨(), mem.set i (some v), ?_, ?_⟩
  · unfold store
    rw [read_bind, if_pos (by rw [hc.length]; exact hi)]
    rfl
  · refine ⟨by rw [List.length_set, hc.length], fun j hj hw => ?_⟩
    rw [store_apply, List.getElem?_set, hc.length]
    by_cases hji : j = i
    · rw [if_pos hji.symm, if_pos hi, if_pos hji]
    · rw [if_neg (Ne.symm hji), if_neg hji]
      exact hc.cell j hj (hw.resolve_left hji)

theorem splice_length {off : Nat} {l : List UInt8} (h : off + l.length ≤ mem.length) :
    (mem.splice off l).length = mem.length := by
  simp only [splice, List.length_append, List.length_take, List.length_map, List.length_drop]
  omega

theorem splice_getElem? {off : Nat} {l : List UInt8} (h : off + l.length ≤ mem.length) (i : Nat) :
    (mem.splice off l)[i]? =
      if off ≤ i ∧ i < off + l.length then some (some (ofList l (i - off))) else mem[i]? := by
  have htake : (mem.take off).length = off := by
    rw [List.length_take]
    omega
  unfold splice
  rw [List.getElem?_append, List.getElem?_append, List.length_append, htake, List.length_map]
  split_ifs with h1 h2 h3 h3
  · omega
  · rw [List.getElem?_take_of_lt h2]
  · have hi : i - off < l.length := by omega
    simp [ofList, hi]
  · omega
  · omega
  · rw [List.getElem?_drop]
    congr 1
    omega

theorem runs_paste (hc : Shows len w b mem) {off : Nat} {l : List UInt8} (h : off + l.length ≤ len) :
    Runs (paste off l) (fun _ => Shows len (fun j => (off ≤ j ∧ j < off + l.length) ∨ w j)
      (b.memcpy off (ofList l) l.length)) mem := by
  have hfit : off + l.length ≤ mem.length := by
    rw [hc.length]
    exact h
  refine ⟨(), mem.splice off l, ?_, ?_⟩
  · unfold paste
    rw [read_bind, if_pos hfit]
    rfl
  · refine ⟨by rw [splice_length hfit, hc.length], fun j hj hw => ?_⟩
    rw [splice_getElem? hfit]
    unfold memcpy
    split
    · rfl
    · rename_i hj'
      exact hc.cell j hj (hw.resolve_left hj')

theorem runs_fill (hc : Shows len w b mem) {off n : Nat} (h : off + n ≤ len) (v : UInt8) :
    Runs (fill off v n) (fun _ => Shows len (fun j => (off ≤ j ∧ j < off + n) ∨ w j)
      (b.memset off v n)) mem := by
  have hlen : (List.replicate n v).length = n := List.length_replicate
  apply (runs_paste hc (l := List.replicate n v) (by rw [hlen]; exact h)).mono
  intro _ t ht
  rw [hlen] at ht
  apply ht.congr (fun _ _ => id)
  intro i _ _
  unfold memcpy memset
  split
  · rename_i hi
    have hin : i - off < n := by omega
    simp [ofList, hin]
  · rfl

theorem mapM_some (l : List UInt8) : (l.map some).mapM id = some l := by
  induction l with
  | nil => rfl
  | cons v l ih => simp [List.mapM_cons, ih]

theorem runs_copy (hc : Shows len w b mem) {off n : Nat} (h : off + n ≤ len)
    (hw : ∀ i, off ≤ i → i < off + n → w i) {Q : List UInt8 → Cells → Prop}
    (hq : Q ((b.shift off).bytes n) mem) : Runs (copy off n) Q mem := by
  have hcells : (mem.drop off).take n = ((b.shift off).bytes n).map some := by
    apply List.ext_getElem?
    intro i
    by_cases hi : i < n
    · rw [List.getElem?_take_of_lt hi, List.getElem?_drop, hc.cell _ (by omega) (hw _ (by omega) (by omega))]
      simp [bytes, shift, hi]
    · rw [List.getElem?_eq_none (by rw [List.length_take]; omega),
        List.getElem?_eq_none (by simp; omega)]
  refine ⟨_, mem, ?_, hq⟩
  unfold copy
  rw [read_bind, if_pos (by rw [hc.length]; exact h), hcells, mapM_some]
  rfl

end

end Cells
