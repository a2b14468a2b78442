import Matchday.Compression.Brotli.Stream
import Matchday.Compression.Zstd.Frame
import Matchday.Http.Request
import Matchday.Text.Blank

set_option autoImplicit false

/-!
# Content codings

The body of a request may be packed; a header says how. A body is taken as it is where the header
names nothing that is known.
-/
namespace Matchday.Http

open Matchday
open Matchday.Compression
open Matchday.Text

inductive ContentCoding
  | identity
  | gzip
  | deflate
  | brotli
  | zstd
  deriving DecidableEq, Repr

namespace ContentCoding

def all : List ContentCoding := [identity, gzip, deflate, brotli, zstd]

def name : ContentCoding → String
  | identity => "identity"
  | gzip => "gzip"
  | deflate => "deflate"
  | brotli => "br"
  | zstd => "zstd"

/-- The coding of a name, in any case and with blanks around it. -/
def ofName (text : String) : ContentCoding :=
  let name := (trim text).toLower
  (all.find? fun c => c.name == name).getD identity

def unpack : ContentCoding → List UInt8 → Except ContainerFault Unpacked
  | identity, bytes => .ok ⟨bytes, none⟩
  | gzip, bytes => Gzip.unpack bytes
  | deflate, bytes => Zlib.unpack bytes
  | brotli, bytes => Brotli.unpack bytes
  | zstd, bytes => Zstd.unpack bytes

end ContentCoding

def frameFailure : FrameFault → String
  | .unknown => "Unknown frame descriptor"
  | .unsupported => "Unsupported frame parameter"
  | .tooLarge => "Frame requires too much memory for decoding"
  | .foreignDictionary => "Dictionary mismatch"
  | .missingTable => "Dictionary is corrupted"
  | .wrongSize => "Src size is incorrect"
  | .badContent => "Data corruption detected"
  | .badChecksum => "Restored data doesn't match checksum"

def unpackingFailure (fault : ContainerFault) : String :=
  let cause := match fault with
    | .badHeader => custom "InvalidInput" "invalid gzip header"
    | .badChecksum =>
      custom "InvalidInput" "corrupt gzip stream does not have a matching checksum"
    | .badContent => custom "InvalidInput" "corrupt deflate stream"
    | .badStream => custom "InvalidData" "Invalid Data"
    | .frame fault => custom "Other" (frameFailure fault)
    | .trailing =>
      "Error \x7b kind: WriteZero, message: \"failed to write whole buffer\" \x7d"
  "payload reached EOF before completing: Some(" ++ cause ++ ")"
where
  custom (kind text : String) : String :=
    "Custom \x7b kind: " ++ kind ++ ", error: \"" ++ text ++ "\" \x7d"

namespace Request

def coding (r : Request) : ContentCoding :=
  ((r.headerText? "content-encoding").map ContentCoding.ofName).getD .identity

inductive Payload
  | broken (fault : ContainerFault)
  | tooLong
  | content (bytes : List UInt8)
  deriving DecidableEq, Repr

/-- The body unpacked, if it is no longer than a limit; a fault at its end matters only then. -/
def payload (r : Request) (limit : Nat) : Payload :=
  match r.coding.unpack r.body with
  | .error fault => .broken fault
  | .ok unpacked =>
    if limit < unpacked.content.length then .tooLong
    else
      match unpacked.fault with
      | some fault => .broken fault
      | none => .content unpacked.content

end Request

end Matchday.Http
