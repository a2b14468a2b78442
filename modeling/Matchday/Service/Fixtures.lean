import Matchday.Service.Action

set_option autoImplicit false

namespace Matchday.Service

open Matchday

def accessFixture : AccessFault → Cause := Cause.ofAccess .fixture

def getFixture (id : Int) : Action Fixture := do
  let found ← Action.ask accessFixture (.ask (.findFixture id))
  Action.require (.missing .fixture id) found

def createFixture (draft : FixtureDraft) : Action Fixture := do
  let fields ← Action.ofExcept .invalidFixture draft.check
  let created ← Action.ask accessFixture (.ask (.insertFixture fields))
  Action.announce (.inserted .fixture created.id none)
  pure created

def updateFixture (id : Int) (patch : FixturePatch) : Action Fixture := do
  let current ← getFixture id
  let next ← Action.ofExcept .invalidFixture (current.withPatch patch)
  let written ← Action.ask accessFixture (.ask (.updateFixture next))
  let saved ← Action.require (.missing .fixture id) written
  Action.announce (.updated .fixture id none)
  pure saved

def announceAll : List RowChange → Action Unit
  | [] => pure ()
  | c :: cs => do
    Action.announce c
    announceAll cs

def deleteFixture (id : Int) : Action Fixture := do
  let removed ← Action.ask accessFixture (.ask (.deleteFixture id))
  let removal ← Action.require (.missing .fixture id) removed
  announceAll removal.changes
  pure removal.fixture

end Matchday.Service
