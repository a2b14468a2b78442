import Matchday.Text.Utf8

set_option autoImplicit false

/-!
# Frames of a socket

A client's frame is masked: its payload is combined with four bytes of mask, which repeat. Control
frames are short and in one piece; other messages may come in pieces. A frame that has not arrived in
full waits for the rest. Bytes that can be no frame are an error of the whole batch they come in.
-/
namespace Matchday.Live

open Matchday.Text

inductive Opcode
  | continuation
  | text
  | binary
  | close
  | ping
  | pong
  deriving DecidableEq, Repr

namespace Opcode

def all : List Opcode := [continuation, text, binary, close, ping, pong]

def code : Opcode → Nat
  | continuation => 0
  | text => 1
  | binary => 2
  | close => 8
  | ping => 9
  | pong => 10

def ofCode? (n : Nat) : Option Opcode := all.find? fun o => o.code == n

def isControl (o : Opcode) : Bool := 8 ≤ o.code

end Opcode

structure Frame where
  final : Bool
  opcode : Opcode
  payload : List UInt8
  deriving DecidableEq, Repr

namespace Frame

def controlLimit : Nat := 125

def payloadLimit : Nat := 65536

def bigEndian (bytes : List UInt8) : Nat := bytes.foldl (fun n b => n * 256 + b.toNat) 0

def bytesOf : Nat → Nat → List UInt8
  | 0, _ => []
  | width + 1, n => UInt8.ofNat (n / Nat.pow 256 width) :: bytesOf width n

def masked (mask : List UInt8) (payload : List UInt8) : List UInt8 :=
  payload.zipIdx.map fun (b, i) => b ^^^ mask.getD (i % 4) 0

inductive Scan
  | incomplete
  | invalid
  | frame (f : Frame) (rest : List UInt8)
  deriving DecidableEq, Repr

def scanPayload (final : Bool) (opcode : Opcode) (length : Nat) (bytes : List UInt8) : Scan :=
  let mask := bytes.take 4
  let payload := (bytes.drop 4).take length
  if mask.length < 4 ∨ payload.length < length then .incomplete
  else if payloadLimit < length then .invalid
  else if opcode.isControl ∧ controlLimit < length then .invalid
  else .frame ⟨final, opcode, masked mask payload⟩ ((bytes.drop 4).drop length)

/-- A frame whose length is written in so many bytes; no length is beyond 63 bits. -/
def scanLength (final : Bool) (opcode : Opcode) (width : Nat) (bytes : List UInt8) : Scan :=
  let length := bytes.take width
  if length.length < width then .incomplete
  else if Nat.pow 2 63 ≤ bigEndian length then .invalid
  else scanPayload final opcode (bigEndian length) (bytes.drop width)

def isExtended (first : UInt8) : Bool := 0 < first.toNat / 16 % 8

def scan : List UInt8 → Scan
  | first :: second :: rest =>
    let length := second.toNat % 128
    if second.toNat < 128 ∨ isExtended first then .invalid
    else
      match Opcode.ofCode? (first.toNat % 16) with
      | none => .invalid
      | some opcode =>
        let final := 128 ≤ first.toNat
        if length = 126 then scanLength final opcode 2 rest
        else if length = 127 then scanLength final opcode 8 rest
        else scanPayload final opcode length rest
  | _ => .incomplete

def write (f : Frame) : List UInt8 :=
  let first := UInt8.ofNat ((if f.final then 128 else 0) + f.opcode.code)
  let n := f.payload.length
  let length :=
    if n < 126 then [UInt8.ofNat (128 + n)]
    else if n < 65536 then UInt8.ofNat (128 + 126) :: bytesOf 2 n
    else UInt8.ofNat (128 + 127) :: bytesOf 8 n
  first :: length ++ [0, 0, 0, 0] ++ f.payload

end Frame

/-- Why a socket is closed: a code and perhaps a description. -/
structure CloseReason where
  code : Nat
  description : Option String
  deriving DecidableEq, Repr

namespace CloseReason

/-- The codes that a frame may carry: those with a meaning of their own on the wire, and those that
are left to libraries and applications. -/
def isCode (n : Nat) : Bool :=
  (1000 ≤ n && n ≤ 1003) || (1007 ≤ n && n ≤ 1014) || (3000 ≤ n && n ≤ 4999)

def read? : List UInt8 → Option (Option CloseReason)
  | [] => some none
  | [_] => none
  | a :: b :: text =>
    let code := Frame.bigEndian [a, b]
    if isCode code ∧ Utf8.valid text then
      some (some ⟨code, if text.isEmpty then none else some (Utf8.lossy text)⟩)
    else none

def write (r : CloseReason) : List UInt8 :=
  Frame.bytesOf 2 r.code ++ (r.description.map Utf8.encode).getD []

end CloseReason

inductive Message
  | ping (payload : List UInt8)
  | close (reason : Option CloseReason)
  | noted
  deriving DecidableEq, Repr

/-- Bytes that wait for more, and whether a message in pieces has begun. -/
structure Inbox where
  buffer : List UInt8
  inPieces : Bool
  deriving DecidableEq, Repr

namespace Inbox

def empty : Inbox := ⟨[], false⟩

/-- What a frame says where a message in pieces may have begun, and whether one has after it. Until
that message is complete no other begins; only a text in one piece must be readable. -/
def interpret (inPieces : Bool) (f : Frame) : Option (Message × Bool) :=
  match f.opcode, f.final with
  | .continuation, final => if inPieces then some (.noted, !final) else none
  | .text, final =>
    if inPieces ∨ (final ∧ !Utf8.valid f.payload) then none else some (.noted, !final)
  | .binary, final => if inPieces then none else some (.noted, !final)
  | .ping, true => some (.ping f.payload, inPieces)
  | .pong, true => some (.noted, inPieces)
  | .close, true => (CloseReason.read? f.payload).map fun reason => (.close reason, inPieces)
  | _, false => none

/-- The messages in a buffer after those found so far, newest first; none if it is no sequence of
frames. -/
def drainFrom : Nat → List Message → Inbox → Option (List Message × Inbox)
  | 0, found, box => some (found.reverse, box)
  | fuel + 1, found, box =>
    match Frame.scan box.buffer with
    | .incomplete => some (found.reverse, box)
    | .invalid => none
    | .frame f rest =>
      match interpret box.inPieces f with
      | none => none
      | some (m, inPieces) => drainFrom fuel (m :: found) ⟨rest, inPieces⟩

def receive (box : Inbox) (bytes : List UInt8) : Option (List Message × Inbox) :=
  let buffer := box.buffer ++ bytes
  drainFrom buffer.length [] ⟨buffer, box.inPieces⟩

end Inbox

end Matchday.Live
