import Matchday.Compression.Checksum
import Matchday.Compression.Inflate

set_option autoImplicit false

namespace Matchday.Compression

inductive ContainerFault
  | badHeader
  | badChecksum
  | badContent
  | badStream
  | frame (fault : FrameFault)
  | trailing
  deriving DecidableEq, Repr

/-- What was given out, and what was wrong at the end. -/
structure Unpacked where
  content : List UInt8
  fault : Option ContainerFault := none
  deriving DecidableEq, Repr

def littleEndian (bytes : List UInt8) : Nat := bytes.foldr (fun b n => b.toNat + 256 * n) 0

def bigEndian (bytes : List UInt8) : Nat := bytes.foldl (fun n b => n * 256 + b.toNat) 0

namespace Gzip

structure Flags where
  headerCheck : Bool
  extra : Bool
  name : Bool
  comment : Bool
  deriving DecidableEq, Repr

def Flags.ofByte? (b : UInt8) : Option Flags :=
  if b.toNat / 32 ≠ 0 then none
  else
    some
      { headerCheck := b.toNat / 2 % 2 == 1
        extra := b.toNat / 4 % 2 == 1
        name := b.toNat / 8 % 2 == 1
        comment := b.toNat / 16 % 2 == 1 }

/-- What bytes have before what is deflated. -/
inductive Head
  | incomplete
  | bad (fault : ContainerFault)
  | before (rest : List UInt8)
  deriving DecidableEq, Repr

def after? (n : Nat) (bytes : List UInt8) : Option (List UInt8) :=
  if bytes.length < n then none else some (bytes.drop n)

def afterZero? (bytes : List UInt8) : Option (List UInt8) := (bytes.dropWhile (· != 0)).tail?

def afterParts? (flags : Flags) (bytes : List UInt8) : Option (List UInt8) := do
  let bytes ←
    if flags.extra then (after? 2 bytes).bind (after? (littleEndian (bytes.take 2))) else bytes
  let bytes ← if flags.name then afterZero? bytes else bytes
  if flags.comment then afterZero? bytes else bytes

def head (bytes : List UInt8) : Head :=
  match bytes with
  | a :: b :: method :: flags :: _ :: _ :: _ :: _ :: _ :: _ :: rest =>
    if a ≠ 0x1f ∨ b ≠ 0x8b ∨ method ≠ 8 then .bad .badHeader
    else
      match Flags.ofByte? flags with
      | none => .bad .badHeader
      | some flags =>
        match afterParts? flags rest with
        | none => .incomplete
        | some rest =>
          if !flags.headerCheck then .before rest
          else if rest.length < 2 then .incomplete
          else if littleEndian (rest.take 2)
              = Checksum.cyclic (bytes.take (bytes.length - rest.length)) % 65536 then
            .before (rest.drop 2)
          else .bad .badChecksum
  | _ => .incomplete

def isTrailer (content trailer : List UInt8) : Bool :=
  littleEndian (trailer.take 4) == Checksum.cyclic content
    && littleEndian (trailer.drop 4) == content.length % Nat.pow 2 32

def unpack (bytes : List UInt8) : Except ContainerFault Unpacked :=
  match head bytes with
  | .incomplete => .ok ⟨[], some .badChecksum⟩
  | .bad fault => .error fault
  | .before rest =>
    let (result, p) := Inflate.all.runOn rest
    let content := p.written.toList
    match result with
    | .error .starved => .ok ⟨content, some .badChecksum⟩
    | .error _ => .error .badContent
    | .ok () =>
      let trailer := rest.drop ((p.place + 7) / 8)
      if 8 < trailer.length then .error .trailing
      else if trailer.length = 8 ∧ isTrailer content trailer then .ok ⟨content, none⟩
      else .ok ⟨content, some .badChecksum⟩

end Gzip

namespace Zlib

/-- Whether two bytes are a header: the method, a window of at most 32 KiB, no dictionary, and a
remainder of zero modulo 31. -/
def isHeader (a b : UInt8) : Bool :=
  a.toNat % 16 == 8 && a.toNat / 16 ≤ 7 && b.toNat / 32 % 2 == 0
    && (a.toNat * 256 + b.toNat) % 31 == 0

def unpack (bytes : List UInt8) : Except ContainerFault Unpacked :=
  match bytes with
  | a :: b :: rest =>
    if !isHeader a b then .error .badContent
    else
      let (result, p) := Inflate.all.runOn rest
      let content := p.written.toList
      match result with
      | .error .starved => .ok ⟨content, none⟩
      | .error _ => .error .badContent
      | .ok () =>
        let trailer := rest.drop ((p.place + 7) / 8)
        if trailer.length < 4 then .ok ⟨content, none⟩
        else if bigEndian (trailer.take 4) ≠ Checksum.adler content then .error .badContent
        else if 4 < trailer.length then .error .trailing
        else .ok ⟨content, none⟩
  | _ => .ok ⟨[], none⟩

end Zlib

end Matchday.Compression
