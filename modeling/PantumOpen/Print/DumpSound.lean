import PantumOpen.Print.Dump

/-! The dumper on any bytes at all: it loses nothing of them, and says where everything stands. -/

namespace PantumOpen.Print
open Bytes

def ItemRecord.bytes (i : ItemRecord) : List UInt8 :=
  putBe32 i.size ++ putBe16 i.type ++ [UInt8.ofNat i.param, UInt8.ofNat i.reserved] ++ putBe32 i.value

namespace Entry

def pos : Entry → Nat
  | .uel pos | .magic pos | .trailing pos _ | .unparsed pos _ | .chunk pos .. => pos

def size : Entry → Nat
  | .uel _ => Print.uel.length
  | .magic _ => 4
  | .trailing _ rest | .unparsed _ rest => rest.length
  | .chunk _ size .. => size

def bytes : Entry → List UInt8
  | .uel _ => Print.uel
  | .magic _ => zjMagic
  | .trailing _ rest | .unparsed _ rest => rest
  | .chunk _ size type nitems ibytes items raw =>
    putBe32 size ++ putBe32 type ++ putBe32 nitems ++ putBe16 ibytes ++ putBe16 zjSignature ++
      items.flatMap ItemRecord.bytes ++ raw

end Entry

/-- Entries that lie in the buffer one behind the other. Only the last can be cut short by its end. -/
inductive Tiling : Nat → List Entry → List UInt8 → Prop
  | nil {pos : Nat} : Tiling pos [] []
  | last {pos : Nat} {e : Entry} (hpos : e.pos = pos) : Tiling pos [e] e.bytes
  | cons {pos : Nat} {e : Entry} {es : List Entry} {rest : List UInt8} (hpos : e.pos = pos)
      (hsize : e.size = e.bytes.length) (h : Tiling (pos + e.size) es rest) :
      Tiling pos (e :: es) (e.bytes ++ rest)

/-- A chunk that announces more items than it has bytes for. -/
structure Overfull (rest : List UInt8) : Prop where
  header : 16 ≤ rest.length
  signature : getBe16 rest 14 = zjSignature
  size : 16 ≤ getBe32 rest 0
  items : min (getBe32 rest 0) rest.length < 16 + getBe32 rest 8 * 12

/-- What the loop comes to: entries that tile the bytes, or a chunk that announces too many items. -/
def Parsed (pos : Nat) (rest : List UInt8) (r : Except StructError (List Entry)) : Prop :=
  (∃ es, r = .ok es ∧ Tiling pos es rest) ∨
    (r = .error .short ∧ ∃ before tail, rest = before ++ tail ∧ Overfull tail)

theorem Parsed.cons {pos : Nat} {e : Entry} {rest next : List UInt8} {r : Except StructError (List Entry)}
    (h : Parsed (pos + e.size) next r) (hrest : rest = e.bytes ++ next) (hpos : e.pos = pos)
    (hsize : e.size = e.bytes.length) : Parsed pos rest (r >>= fun es => pure (e :: es)) := by
  rcases h with ⟨es, rfl, htiles⟩ | ⟨rfl, before, tail, hsplit, hover⟩
  · rw [hrest]
    exact .inl ⟨e :: es, rfl, .cons hpos hsize htiles⟩
  · rw [hrest, hsplit]
    exact .inr ⟨rfl, e.bytes ++ before, tail, (List.append_assoc _ _ _).symm, hover⟩

theorem Tiling.flatten {pos : Nat} {es : List Entry} {rest : List UInt8} (h : Tiling pos es rest) :
    es.flatMap Entry.bytes = rest := by
  induction h with
  | nil => rfl
  | last => exact List.flatMap_singleton _ _
  | cons _ _ _ ih => rw [List.flatMap_cons, ih]

theorem Tiling.place {pos : Nat} {es : List Entry} {rest : List UInt8} (h : Tiling pos es rest)
    {before after : List Entry} {e : Entry} (hes : es = before ++ e :: after) :
    e.pos = pos + (before.flatMap Entry.bytes).length ∧ (after ≠ [] → e.size = e.bytes.length) := by
  induction h generalizing before with
  | nil => simp at hes
  | last hpos =>
    cases before with
    | nil =>
      obtain ⟨rfl, rfl⟩ := List.cons.inj hes
      exact ⟨hpos, fun hne => absurd rfl hne⟩
    | cons f before => simp at hes
  | cons hpos hsize _ ih =>
    cases before with
    | nil =>
      obtain ⟨rfl, -⟩ := List.cons.inj hes
      exact ⟨hpos, fun _ => hsize⟩
    | cons f before =>
      obtain ⟨rfl, htail⟩ := List.cons.inj hes
      obtain ⟨hplace, hlast⟩ := ih htail
      refine ⟨?_, hlast⟩
      rw [hplace, hsize, List.flatMap_cons, List.length_append, Nat.add_assoc]

end PantumOpen.Print
