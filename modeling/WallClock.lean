import WallClock.Main
import WallClock.Instant.Display
import WallClock.Proofs.Binary64.Literal
import WallClock.Proofs.Calendar.DayNumber
import WallClock.Proofs.Calendar.SecondNumber
import WallClock.Proofs.Calendar.Order
import WallClock.Proofs.Calendar.Succession
import WallClock.Proofs.Instant.Walk
import WallClock.Proofs.Zone.Inverse
import WallClock.Proofs.Zone.Fields
import WallClock.Proofs.Zone.Order
import WallClock.Proofs.Zone.Ends
import WallClock.Proofs.Zone.Shift
import WallClock.Proofs.Stamp.Spelling
import WallClock.Proofs.Stamp.Parse
import WallClock.Proofs.Stamp.Written
import WallClock.Proofs.Stamp.RoundTrip
import WallClock.Proofs.Stamp.Order
import WallClock.Proofs.Stamp.Shape
import WallClock.Proofs.Refusal.Message
import WallClock.Proofs.Timer.Deadline
import WallClock.Proofs.Timer.Schedule
import WallClock.Proofs.Timer.Completion
import WallClock.Proofs.Timer.Rounded
import WallClock.Proofs.Timer.Clock
import WallClock.Proofs.Instant.Canonical
import WallClock.Proofs.Instant.Monotone
import WallClock.Proofs.Instant.Display
import WallClock.Proofs.Command.Format
import WallClock.Proofs.Text.Case
import WallClock.Proofs.Zone.Lookup
import WallClock.Proofs.Refusal.Distinct
