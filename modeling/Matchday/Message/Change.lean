import Matchday.Change
import Matchday.Json.Codec

set_option autoImplicit false

namespace Matchday

open Matchday.Json

namespace WatchedTable

def codec : Codec WatchedTable := .variant all name

end WatchedTable

namespace Operation

def codec : Codec Operation := .variant all name

end Operation

namespace Channel

def codec : Codec Channel := .variant all name

end Channel

namespace ChangeEvent

def record : Record ChangeEvent where
  name := "ChangeEvent"
  fields :=
    .required "table" WatchedTable.codec <|
    .required "operation" Operation.codec <|
    .trailing "new_id" .i32 <|
    .required "old_id" .i32 <|
    .trailing "match_id" .i32 .nil
  toRow e := (e.table, e.operation, e.newId, e.oldId, e.matchId, ())
  ofRow := fun (table, operation, newId, oldId, matchId, _) =>
    ⟨table, operation, newId, oldId, matchId⟩

def payload (e : ChangeEvent) : String := record.codec.text e

end ChangeEvent

namespace ChangeFrame

def record : Record ChangeFrame where
  name := "ChangeFrame"
  fields :=
    .required "channel" Channel.codec <|
    .required "payload" ChangeEvent.record.codec .nil
  toRow f := (f.channel, f.payload, ())
  ofRow := fun (channel, payload, _) => ⟨channel, payload⟩

def text (f : ChangeFrame) : String := record.codec.text f

end ChangeFrame

end Matchday
