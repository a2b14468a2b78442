import Matchday.HostName.Bidirectional
import Matchday.HostName.Label

set_option autoImplicit false

namespace Matchday.HostName

open Matchday.Text

def isStop (c : Char) : Bool := c == '.' || c == '\u3002' || c == '\uff0e' || c == '\uff61'

def labels? (text : List Char) : Option (List (List Char)) := do
  let labels ← (text.splitOnP isStop).mapM label?
  if isUnambiguous labels then some labels else none

end Matchday.HostName
