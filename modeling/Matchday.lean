import Matchday.Api.Document
import Matchday.Pool
import Matchday.Proofs.ClockHistory
import Matchday.Proofs.EventLog
import Matchday.Settings
import Matchday.Store.Disturbance
import Matchday.Proofs.Delivery
import Matchday.Proofs.Restraint
import Matchday.Proofs.IdleRequests
import Matchday.Proofs.ClockAnswers
import Matchday.Proofs.PublicationOrder
import Matchday.Proofs.VersionConflict
import Matchday.Proofs.ThrottleSpacing
import Matchday.Proofs.Commutation
import Matchday.Proofs.Readback
import Matchday.Proofs.PatchRace
import Matchday.Proofs.RoundTrip
import Matchday.Proofs.StatusPatch
import Matchday.Proofs.Envelope
import Matchday.Proofs.Countdown
import Matchday.Proofs.RunningTime
import Matchday.Proofs.SuggestedWait
import Matchday.Proofs.Blanking
import Matchday.Proofs.OwnTimestamps
import Matchday.Proofs.UpgradeGate
import Matchday.Proofs.Subscriptions
import Matchday.Proofs.MergedPatches
import Matchday.Proofs.QueryTexts
import Matchday.Proofs.TriggersInForce
