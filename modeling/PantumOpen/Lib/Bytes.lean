import Mathlib

/-! Big-endian words in byte lists. -/

namespace Bytes

/-- The 32-bit word whose most significant byte is at `off`. -/
def getBe32 (b : List UInt8) (off : Nat) : Nat :=
  (b.getD off 0).toNat * 2 ^ 24 + (b.getD (off + 1) 0).toNat * 2 ^ 16 +
    (b.getD (off + 2) 0).toNat * 2 ^ 8 + (b.getD (off + 3) 0).toNat

def putBe32 (v : Nat) : List UInt8 :=
  [UInt8.ofNat (v / 2 ^ 24), UInt8.ofNat (v / 2 ^ 16), UInt8.ofNat (v / 2 ^ 8), UInt8.ofNat v]

def putBe16 (v : Nat) : List UInt8 := [UInt8.ofNat (v / 2 ^ 8), UInt8.ofNat v]

def getBe16 (b : List UInt8) (off : Nat) : Nat :=
  (b.getD off 0).toNat * 2 ^ 8 + (b.getD (off + 1) 0).toNat

@[simp] theorem putBe32_length (v : Nat) : (putBe32 v).length = 4 := rfl

@[simp] theorem putBe16_length (v : Nat) : (putBe16 v).length = 2 := rfl

theorem getBe32_lt (b : List UInt8) (off : Nat) : getBe32 b off < 2 ^ 32 := by
  have h0 := (b.getD off 0).toNat_lt
  have h1 := (b.getD (off + 1) 0).toNat_lt
  have h2 := (b.getD (off + 2) 0).toNat_lt
  have h3 := (b.getD (off + 3) 0).toNat_lt
  unfold getBe32
  omega

theorem getD_append_left {α : Type} (a b : List α) (d : α) {i : Nat} (h : i < a.length) :
    (a ++ b).getD i d = a.getD i d := by
  simp [List.getD_eq_getElem?_getD, List.getElem?_append_left h]

theorem getD_append_right {α : Type} (a b : List α) (d : α) {i : Nat} (h : a.length ≤ i) :
    (a ++ b).getD i d = b.getD (i - a.length) d := by
  simp [List.getD_eq_getElem?_getD, List.getElem?_append_right h]

theorem getBe32_append_left (a b : List UInt8) {off : Nat} (h : off + 4 ≤ a.length) :
    getBe32 (a ++ b) off = getBe32 a off := by
  unfold getBe32
  rw [getD_append_left a b 0 (by omega), getD_append_left a b 0 (by omega),
    getD_append_left a b 0 (by omega), getD_append_left a b 0 (by omega)]

theorem getBe32_take {b : List UInt8} {off n : Nat} (h : off + 4 ≤ n) (hb : off + 4 ≤ b.length) :
    getBe32 (b.take n) off = getBe32 b off := by
  rw [← getBe32_append_left (b.take n) (b.drop n) (by rw [List.length_take]; omega),
    List.take_append_drop]

theorem getBe16_append_left (a b : List UInt8) {off : Nat} (h : off + 2 ≤ a.length) :
    getBe16 (a ++ b) off = getBe16 a off := by
  unfold getBe16
  rw [getD_append_left a b 0 (by omega), getD_append_left a b 0 (by omega)]

theorem getBe32_append_right (a b : List UInt8) {off : Nat} (h : a.length ≤ off) :
    getBe32 (a ++ b) off = getBe32 b (off - a.length) := by
  unfold getBe32
  rw [getD_append_right a b 0 h, getD_append_right a b 0 (by omega),
    getD_append_right a b 0 (by omega), getD_append_right a b 0 (by omega),
    Nat.sub_add_comm h, Nat.sub_add_comm h, Nat.sub_add_comm h]

theorem getBe32_putBe32 {v : Nat} (h : v < 2 ^ 32) (b : List UInt8) :
    getBe32 (putBe32 v ++ b) 0 = v := by
  rw [getBe32_append_left _ _ (by simp)]
  simp only [getBe32, putBe32, List.getD_cons_zero, List.getD_cons_succ, UInt8.toNat_ofNat']
  omega

theorem getBe32_at {v off : Nat} (h : v < 2 ^ 32) (a b : List UInt8) (hoff : a.length = off) :
    getBe32 (a ++ (putBe32 v ++ b)) off = v := by
  rw [getBe32_append_right _ _ hoff.le, hoff, Nat.sub_self, getBe32_putBe32 h]

theorem getBe32_flatMap {ws : List Nat} (hws : ∀ w ∈ ws, w < 2 ^ 32) {i : Nat} (hi : i < ws.length) :
    getBe32 (ws.flatMap putBe32) (4 * i) = ws.getD i 0 := by
  induction ws generalizing i with
  | nil => cases hi
  | cons w ws ih =>
    have hw : w < 2 ^ 32 := hws w List.mem_cons_self
    rw [List.flatMap_cons]
    cases i with
    | zero => exact getBe32_putBe32 hw _
    | succ i =>
      rw [getBe32_append_right _ _ (by simp), putBe32_length, List.getD_cons_succ,
        show 4 * (i + 1) - 4 = 4 * i by omega]
      exact ih (fun v hv => hws v (List.mem_cons_of_mem _ hv)) (Nat.lt_of_succ_lt_succ hi)

theorem putBe32_flatMap_length (ws : List Nat) : (ws.flatMap putBe32).length = 4 * ws.length := by
  induction ws with
  | nil => rfl
  | cons w ws ih =>
    rw [List.flatMap_cons, List.length_append, ih, putBe32_length, List.length_cons]
    ring

theorem getBe16_at {v off : Nat} (h : v < 2 ^ 16) (a b : List UInt8) (hoff : a.length = off) :
    getBe16 (a ++ (putBe16 v ++ b)) off = v := by
  unfold getBe16
  rw [← hoff, getD_append_right _ _ _ le_rfl, getD_append_right _ _ _ (Nat.le_add_right _ _),
    Nat.sub_self, Nat.add_sub_cancel_left]
  simp only [putBe16, List.cons_append, List.getD_cons_zero, List.getD_cons_succ, UInt8.toNat_ofNat']
  omega

end Bytes
