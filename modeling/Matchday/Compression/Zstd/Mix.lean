import Matchday.Compression.Container

set_option autoImplicit false

namespace Matchday.Compression.Zstd

def prime1 : UInt64 := 0x9e3779b185ebca87

def prime2 : UInt64 := 0xc2b2ae3d27d4eb4f

def prime3 : UInt64 := 0x165667b19e3779f9

def prime4 : UInt64 := 0x85ebca77c2b2ae63

def prime5 : UInt64 := 0x27d4eb2f165667c5

def turn (x : UInt64) (n : UInt64) : UInt64 := x <<< n ||| x >>> (64 - n)

def word (bytes : List UInt8) : UInt64 := UInt64.ofNat (littleEndian bytes)

def mixIn (lane x : UInt64) : UInt64 := turn (lane + x * prime2) 31 * prime1

def mixLane (sum lane : UInt64) : UInt64 := (sum ^^^ mixIn 0 lane) * prime1 + prime4

def mixGroups : Nat → List UInt64 → List UInt8 → List UInt64 × List UInt8
  | 0, lanes, bytes => (lanes, bytes)
  | n + 1, lanes, bytes =>
    let words := (List.range 4).map fun i => word ((bytes.drop (8 * i)).take 8)
    mixGroups n (lanes.zipWith mixIn words) (bytes.drop 32)

def mixWords : Nat → UInt64 → List UInt8 → UInt64 × List UInt8
  | 0, sum, bytes => (sum, bytes)
  | n + 1, sum, bytes =>
    mixWords n (turn (sum ^^^ mixIn 0 (word (bytes.take 8))) 27 * prime1 + prime4) (bytes.drop 8)

def mixByte (sum : UInt64) (b : UInt8) : UInt64 := turn (sum ^^^ b.toUInt64 * prime5) 11 * prime1

def mixRest (sum : UInt64) (bytes : List UInt8) : UInt64 :=
  let (sum, bytes) := mixWords (bytes.length / 8) sum bytes
  if bytes.length < 4 then bytes.foldl mixByte sum
  else
    let sum := turn (sum ^^^ word (bytes.take 4) * prime1) 23 * prime2 + prime3
    (bytes.drop 4).foldl mixByte sum

def mix (content : List UInt8) : UInt64 :=
  let (lanes, rest) :=
    mixGroups (content.length / 32) [prime1 + prime2, prime2, 0, 0 - prime1] content
  let joined := (lanes.zipWith turn [1, 7, 12, 18]).foldl (· + ·) 0
  let sum := if content.length < 32 then prime5 else lanes.foldl mixLane joined
  let sum := mixRest (sum + UInt64.ofNat content.length) rest
  let sum := (sum ^^^ sum >>> 33) * prime2
  let sum := (sum ^^^ sum >>> 29) * prime3
  sum ^^^ sum >>> 32

example : mix [] = 0xef46db3751d8e999 := by decide +kernel

example : mix "123456789".toUTF8.toList = 0x8cb841db40e6ae83 := by decide +kernel

end Matchday.Compression.Zstd
