set_option autoImplicit false

namespace Matchday.Compression.Checksum

def shift (r : UInt32) : UInt32 := if r &&& 1 = 1 then (r >>> 1) ^^^ 0xedb88320 else r >>> 1

def shiftTimes : Nat → UInt32 → UInt32
  | 0, r => r
  | n + 1, r => shiftTimes n (shift r)

/-- The remainder modulo the polynomial 0x04c11db7, bits of a byte in rising order, with all bits
turned before and after. -/
def cyclic (bytes : List UInt8) : Nat :=
  (~~~ bytes.foldl (fun r b => shiftTimes 8 (r ^^^ b.toUInt32)) 0xffffffff).toNat

def prime : Nat := 65521

def adler (bytes : List UInt8) : Nat :=
  let (a, b) := bytes.foldl
    (fun (a, b) byte =>
      let a := (a + byte.toNat) % prime
      (a, (b + a) % prime))
    (1, 0)
  b * 65536 + a

example : cyclic "123456789".toUTF8.toList = 0xcbf43926 := by decide +kernel

example : adler "Wikipedia".toUTF8.toList = 0x11e60398 := by decide +kernel

end Matchday.Compression.Checksum
