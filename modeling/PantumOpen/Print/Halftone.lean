import PantumOpen.Lib.Buffer

/-! Dithering one gray row into the packed bitmap of the page. -/

namespace PantumOpen.Print
open Buffer

def htTable600 : List UInt8 := [
  0x06, 0x52, 0xe9, 0xfe, 0xfb, 0xe2, 0x46, 0x05, 0x07, 0x55, 0xeb, 0xff, 0xfc, 0xe4, 0x49, 0x05,
  0x37, 0x79, 0xa5, 0xda, 0xd3, 0x98, 0x72, 0x31, 0x39, 0x7a, 0xa7, 0xdc, 0xd5, 0x9c, 0x73, 0x2f,
  0xc7, 0x86, 0x69, 0x29, 0x1b, 0x5f, 0x7e, 0xc0, 0xca, 0x88, 0x6b, 0x2d, 0x1f, 0x61, 0x7b, 0xbe,
  0xf3, 0xb4, 0x12, 0x03, 0x01, 0x0d, 0xac, 0xee, 0xf4, 0xb6, 0x13, 0x03, 0x01, 0x0c, 0xaa, 0xed,
  0xf8, 0xde, 0x41, 0x04, 0x0a, 0x4f, 0xe8, 0xfd, 0xfa, 0xe0, 0x43, 0x04, 0x09, 0x4c, 0xe6, 0xfc,
  0xd0, 0x91, 0x6d, 0x35, 0x3e, 0x77, 0xa2, 0xd8, 0xd2, 0x95, 0x70, 0x33, 0x3b, 0x75, 0x9f, 0xd7,
  0x16, 0x58, 0x83, 0xc5, 0xce, 0x8e, 0x66, 0x26, 0x18, 0x5b, 0x80, 0xc3, 0xcc, 0x8b, 0x64, 0x22,
  0x02, 0x10, 0xb1, 0xf1, 0xf7, 0xbb, 0x15, 0x02, 0x01, 0x0f, 0xaf, 0xf0, 0xf5, 0xb9, 0x14, 0x02,
  0x07, 0x55, 0xeb, 0xff, 0xfc, 0xe4, 0x49, 0x05, 0x06, 0x52, 0xe9, 0xfe, 0xfb, 0xe2, 0x46, 0x05,
  0x39, 0x7a, 0xa7, 0xdc, 0xd5, 0x9c, 0x73, 0x2f, 0x37, 0x79, 0xa5, 0xda, 0xd3, 0x98, 0x72, 0x31,
  0xca, 0x88, 0x6b, 0x2d, 0x1f, 0x61, 0x7b, 0xbe, 0xc7, 0x86, 0x69, 0x29, 0x1b, 0x5f, 0x7e, 0xc0,
  0xf4, 0xb6, 0x13, 0x03, 0x01, 0x0c, 0xaa, 0xed, 0xf3, 0xb4, 0x12, 0x03, 0x01, 0x0d, 0xac, 0xee,
  0xfa, 0xe0, 0x43, 0x04, 0x09, 0x4c, 0xe6, 0xfc, 0xf8, 0xde, 0x41, 0x04, 0x0a, 0x4f, 0xe8, 0xfd,
  0xd2, 0x95, 0x70, 0x33, 0x3b, 0x75, 0x9f, 0xd7, 0xd0, 0x91, 0x6d, 0x35, 0x3e, 0x77, 0xa2, 0xd8,
  0x18, 0x5b, 0x80, 0xc3, 0xcc, 0x8b, 0x64, 0x22, 0x16, 0x58, 0x83, 0xc5, 0xce, 0x8e, 0x66, 0x26,
  0x01, 0x0f, 0xaf, 0xf0, 0xf5, 0xb9, 0x14, 0x02, 0x02, 0x10, 0xb1, 0xf1, 0xf7, 0xbb, 0x15, 0x02]

def htLevelToCode (level : Int) : Nat :=
  if level ≤ 0 then 0 else if level < 24 then 1 else if level < 64 then 2 else 3

/-- The code of one pixel against its threshold: toner or not at one bit, a dot size at two. -/
def dotCode (depth : Nat) (negative : Bool) (gray thr : UInt8) : Nat :=
  if depth = 1 then
    if negative then (if gray ≥ thr then 1 else 0) else if gray < thr then 1 else 0
  else
    let level : Int := if gray = 0 then 0xff else 0xff - (gray.toNat : Int) - thr.toNat
    let code := htLevelToCode level
    if negative then 3 - code else code

def threshold (y x : Nat) : UInt8 := htTable600.getD (y % 16 * 16 + x % 16) 0

structure Packer where
  out : Buffer
  pos : Nat
  acc : Nat
  shift : Nat

def Packer.push (depth code : Nat) (p : Packer) : Packer :=
  let shift := p.shift - depth
  let acc := p.acc ||| code <<< shift
  if shift = 0 then ⟨p.out.store p.pos (UInt8.ofNat acc), p.pos + 1, 0, 8⟩
  else ⟨p.out, p.pos, acc, shift⟩

def halftoneRow (out : Buffer) (off : Nat) (gray : Buffer) (width y depth : Nat) (negative : Bool) :
    Buffer :=
  (forRange 0 (fun x p => p.push depth (dotCode depth negative (gray x) (threshold y x))) width
    (Packer.mk out off 0 8)).out

end PantumOpen.Print
