import Espressivo.Decimal.Literal
import Espressivo.Score.Meter
import Espressivo.Session
import Espressivo.Timing.NoteLength
import Espressivo.Proofs.Binary64.Exact
import Espressivo.Proofs.Performance.Faults
import Espressivo.Proofs.Performance.Concatenation
import Espressivo.Proofs.Performance.Combination
import Espressivo.Proofs.Performance.Shape
import Espressivo.Proofs.Performance.Ranges
import Espressivo.Proofs.Json.Decode
import Espressivo.Proofs.Performance.Documents
import Espressivo.Proofs.Performance.Notes
import Espressivo.Proofs.Performance.Restriction
import Espressivo.Proofs.Performance.Findings
import Espressivo.Proofs.Performance.Account
import Espressivo.Proofs.Binary64.Whole
import Espressivo.Proofs.Performance.Independence
import Espressivo.Proofs.Timing.Snap
import Espressivo.Proofs.Json.Fields
import Espressivo.Proofs.Timing.Document
import Espressivo.Proofs.Timing.Performance
import Espressivo.Proofs.Binary64.Rounding
import Espressivo.Proofs.Binary64.Nonnegative
import Espressivo.Proofs.Timing.Validity
import Espressivo.Proofs.Timing.Idempotence
import Espressivo.Proofs.Dictionary
import Espressivo.Proofs.Json.Canonical
import Espressivo.Proofs.Score.RoundTrip
import Espressivo.Proofs.Performance.Overflow
import Espressivo.Proofs.Performance.Serialization
import Espressivo.Proofs.Binary64.Monotone
import Espressivo.Proofs.Timing.Order
import Espressivo.Proofs.Timing.UnusableGrid
import Espressivo.Proofs.Performance.Dimensions
import Espressivo.Proofs.Performance.Presence
import Espressivo.Proofs.Binary64.NearestWhole
import Espressivo.Proofs.Articulation.Reading
import Espressivo.Proofs.Text.Casing
import Espressivo.Proofs.Articulation.Shorthand
import Espressivo.Proofs.Score.Meter
import Espressivo.Proofs.Settings.RoundTrip
import Espressivo.Proofs.Performance.Spelling
import Espressivo.Proofs.Performance.Refusals
import Espressivo.Proofs.Json.Path
import Espressivo.Proofs.Timing.Frame
import Espressivo.Proofs.Timing.Events
import Espressivo.Proofs.Timing.Duration
import Espressivo.Proofs.Binary64.Negation
import Espressivo.Proofs.Timing.Reflection
import Espressivo.Proofs.Text.Numeral
import Espressivo.Proofs.Text.Blank
import Espressivo.Proofs.Timing.Grid
import Espressivo.Proofs.Timing.DenominatorName
import Espressivo.Proofs.Timing.GridName
import Espressivo.Proofs.Binary64.Rational
import Espressivo.Proofs.Timing.ContinuedFraction
import Espressivo.Proofs.Timing.Fraction
import Espressivo.Proofs.Timing.NoteLength
import Espressivo.Proofs.Binary64.SumProduct
import Espressivo.Proofs.Performance.Glide
import Espressivo.Proofs.Performance.Rendering
import Espressivo.Proofs.Timing.Recovery
import Espressivo.Proofs.Performance.Alteration
import Espressivo.Proofs.Session
