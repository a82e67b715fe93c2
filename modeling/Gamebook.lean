import Gamebook.Main
import Gamebook.Play.Clock
import Gamebook.Play.Move
import Gamebook.Proofs.Decimal.WholeDoubles
import Gamebook.Proofs.Play.Effects
import Gamebook.Proofs.Play.Replay
import Gamebook.Proofs.Play.Resume
import Gamebook.Proofs.Play.SceneIndex
import Gamebook.Proofs.Story.Conditions
import Gamebook.Proofs.Authoring.Row
import Gamebook.Proofs.Play.Offered
import Gamebook.Proofs.Authoring.Gates
import Gamebook.Proofs.Decimal.Digits
import Gamebook.Proofs.Json.Scalars
import Gamebook.Proofs.Json.ReadBack
import Gamebook.Proofs.Json.RecordBack
import Gamebook.Proofs.Time.Calendar
import Gamebook.Proofs.Play.SavedText
import Gamebook.Proofs.Authoring.Order
import Gamebook.Proofs.Play.Accounts
import Gamebook.Proofs.Authoring.WayOut
import Gamebook.Proofs.Play.Retold
import Gamebook.Proofs.Authoring.Wording
import Gamebook.Proofs.Story.Issues
import Gamebook.Proofs.Play.Inside
import Gamebook.Proofs.Authoring.Graph
import Gamebook.Proofs.Play.Completion
import Gamebook.Proofs.Play.Scored
import Gamebook.Play.Request
import Gamebook.Proofs.Play.OpenGates
import Gamebook.Proofs.Play.Silence
import Gamebook.Proofs.Text.Reading
import Gamebook.Proofs.Story.Flags
import Gamebook.Proofs.Json.TaggedBack
import Gamebook.Proofs.Json.Yields
import Gamebook.Proofs.Story.ActivityText
import Gamebook.Proofs.Play.Pausing
import Gamebook.Proofs.Play.SavedGame
import Gamebook.Proofs.CommandLine.PausedPlay
import Gamebook.Proofs.Time.Millis
import Gamebook.Proofs.Play.Conserved
import Gamebook.Authoring.Commission
import Gamebook.Proofs.Authoring.Numbering
import Gamebook.Proofs.Decimal.Rounding
import Gamebook.Proofs.Decimal.Nearest
import Gamebook.Proofs.Decimal.NearestWhole
import Gamebook.Proofs.Story.IntegerConditions
import Gamebook.Proofs.Decimal.FewestDigits
import Gamebook.Proofs.Decimal.Quotients
import Gamebook.Proofs.Decimal.Literals
import Gamebook.Proofs.Decimal.Products
import Gamebook.Proofs.Json.Floats
import Gamebook.Proofs.Play.SavedFloats
import Gamebook.Proofs.Decimal.FloatOrder
import Gamebook.Proofs.Story.Comparisons
import Gamebook.Proofs.Play.Canonical
import Gamebook.Proofs.Play.Coverage
import Gamebook.Proofs.CommandLine.Checked
import Gamebook.Proofs.Play.LastWrites
import Gamebook.Proofs.Play.Looking
import Gamebook.Proofs.Play.Taking
import Gamebook.Proofs.Story.TolerantReading
import Gamebook.Proofs.Play.Starting
import Gamebook.Proofs.Play.TimeBonus
import Gamebook.Proofs.Play.Typing
