import PantumOpen.Lib.Bytes
import PantumOpen.Lib.Stdio

/-! The chunks of a ZjStream and the calls that write them. -/

namespace PantumOpen.Print
open Bytes Prog Stdio

def uel : List UInt8 := [0x1b, 0x25, 0x2d, 0x31, 0x32, 0x33, 0x34, 0x35, 0x58]

def zjMagic : List UInt8 := [0x4a, 0x5a, 0x4a, 0x5a]

def zjSignature : Nat := 0x5a5a

def zjtStartDoc : Nat := 0x00
def zjtEndDoc : Nat := 0x01
def zjtStartPage : Nat := 0x02
def zjtEndPage : Nat := 0x03
def zjtJbigBih : Nat := 0x04
def zjtJbigBid : Nat := 0x05
def zjtEndJbig : Nat := 0x06
def zjt2600nPause : Nat := 0x0b
def zjtPantumParam : Nat := 0x11

def zjiPagecount : UInt16 := 0x0000
def zjiDmcollate : UInt16 := 0x0001
def zjiDmduplex : UInt16 := 0x0002
def zjiDmpaper : UInt16 := 0x0003
def zjiDmcopies : UInt16 := 0x0004
def zjiDmdefaultsource : UInt16 := 0x0005
def zjiDmmediatype : UInt16 := 0x0006
def zjiNbie : UInt16 := 0x0007
def zjiResolutionX : UInt16 := 0x0008
def zjiResolutionY : UInt16 := 0x0009
def zjiRasterX : UInt16 := 0x000c
def zjiRasterY : UInt16 := 0x000d
def zjiVideoBpp : UInt16 := 0x0010
def zjiVideoX : UInt16 := 0x0011
def zjiVideoY : UInt16 := 0x0012
def zjiRet : UInt16 := 0x0016
def zjiCustomWidth : UInt16 := 0x0018
def zjiCustomHeight : UInt16 := 0x0019
def zjiCustomUnit : UInt16 := 0x001a
def zjiPantumDensity : UInt16 := 0xff00

def zjDmduplexSimplex : UInt32 := 1

structure ZjItem where
  type : UInt16
  value : UInt32
deriving DecidableEq, Repr

structure Chunk where
  type : Nat
  items : List ZjItem := []
  raw : List UInt8 := []
deriving DecidableEq, Repr

def Chunk.size (c : Chunk) : Nat := 16 + c.items.length * 12 + c.raw.length

def Chunk.header (c : Chunk) : List UInt8 :=
  putBe32 c.size ++ putBe32 c.type ++ putBe32 c.items.length ++ putBe16 (c.items.length * 12) ++
    putBe16 zjSignature

def ZjItem.record (item : ZjItem) : List UInt8 :=
  putBe32 12 ++ putBe16 item.type.toNat ++ [1, 0] ++ putBe32 item.value.toNat

def writeItems : List ZjItem → Prog Unit File Unit
  | [] => pure ()
  | item :: items => do
    writeAll item.record
    writeItems items

def writeChunk (c : Chunk) : Prog Unit File Unit := do
  writeAll c.header
  writeItems c.items
  if c.raw ≠ [] then writeAll c.raw

def Chunk.bytes (c : Chunk) : List UInt8 := c.header ++ c.items.flatMap ZjItem.record ++ c.raw

@[simp] theorem Chunk.header_length (c : Chunk) : c.header.length = 16 := rfl

@[simp] theorem ZjItem.record_length (item : ZjItem) : item.record.length = 12 := rfl

theorem records_length (items : List ZjItem) :
    (items.flatMap ZjItem.record).length = items.length * 12 := by
  simp

@[simp] theorem Chunk.bytes_length (c : Chunk) : c.bytes.length = c.size := by
  simp [bytes, size, Nat.add_assoc]

theorem writeItems_eq (items : List ZjItem) :
    writeItems items = writeAll (items.flatMap ZjItem.record) := by
  induction items with
  | nil => exact writeAll_nil.symm
  | cons item items ih => rw [writeItems, ih, writeAll_append, List.flatMap_cons]

theorem writeChunk_eq (c : Chunk) : writeChunk c = writeAll c.bytes := by
  have hraw : (if c.raw ≠ [] then writeAll c.raw else pure ()) = writeAll c.raw := by
    by_cases h : c.raw = []
    · rw [if_neg (not_not.mpr h), h, writeAll_nil]
    · rw [if_pos h]
  unfold writeChunk
  rw [writeItems_eq, hraw, writeAll_append, writeAll_append, Chunk.bytes, List.append_assoc]

end PantumOpen.Print
