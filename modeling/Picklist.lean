import Picklist.Json.Config
import Picklist.Main
import Picklist.Session.Picking
import Picklist.Session.Sorting
import Picklist.Theme.Catalog
import Picklist.Proofs.Select.Run
import Picklist.Proofs.Select.Frame
import Picklist.Proofs.Select.Move
import Picklist.Proofs.Select.Passage
import Picklist.Proofs.Select.LastQuery
import Picklist.Proofs.Select.Drain
import Picklist.Proofs.Select.Awaiting
import Picklist.Proofs.Select.Settling
import Picklist.Proofs.Select.Coherence
import Picklist.Proofs.Select.Stroke
import Picklist.Proofs.Select.Highlight
import Picklist.Proofs.Select.Replay
import Picklist.Proofs.Arrange.Swaps
import Picklist.Proofs.Arrange.Run
import Picklist.Proofs.Arrange.Reorder
import Picklist.Proofs.Arrange.Preview
import Picklist.Proofs.Arrange.Throttling
import Picklist.Proofs.Arrange.Slots
import Picklist.Proofs.Arrange.Checked
import Picklist.Proofs.Pattern.Spans
import Picklist.Proofs.Text.Folding
import Picklist.Proofs.Select.Origins
import Picklist.Proofs.Select.Labels
import Picklist.Proofs.Pattern.Literal
import Picklist.Proofs.View.Rows
import Picklist.Proofs.Select.Containment
import Picklist.Proofs.Arrange.Positions
import Picklist.Proofs.Arrange.HeldSamples
import Picklist.Proofs.Select.Calls
import Picklist.Proofs.Arrange.Relocation
import Picklist.Proofs.View.RowBoxes
import Picklist.Proofs.Session.Dragging
import Picklist.Proofs.View.Scrolling
import Picklist.Proofs.Json.Choices
import Picklist.Proofs.Select.Batch
import Picklist.Proofs.Session.Typing
import Picklist.Proofs.Select.Eligible
import Picklist.Proofs.Text.Parts
import Picklist.Proofs.Select.Narrowing
import Picklist.Proofs.Select.NewestAnswer
import Picklist.Proofs.Session.Enter
import Picklist.Proofs.Text.FullDecomposition
import Picklist.Proofs.Text.NormalForm
import Picklist.Proofs.Text.Stretches
import Picklist.Proofs.Select.Sources
import Picklist.Proofs.Select.OriginTable
import Picklist.Proofs.Arrange.Midpoint
import Picklist.Proofs.Select.QuietPeriod
import Picklist.Proofs.Select.Rounds
import Picklist.Proofs.Timing.Pacing
import Picklist.Proofs.Arrange.Carrying
import Picklist.Proofs.Arrange.Roles
import Picklist.Proofs.Arrange.InHand
import Picklist.Proofs.Arrange.Resuming
import Picklist.Proofs.View.ActiveRow
import Picklist.Proofs.Arrange.Reports
import Picklist.Proofs.Terminal.Changes
import Picklist.Proofs.Terminal.Painting
import Picklist.Proofs.Timing.Debouncing
import Picklist.Proofs.View.RowRun
import Picklist.Proofs.Text.ClusterWidths
import Picklist.Proofs.View.RowLines
import Picklist.Proofs.Session.RowsOnScreen
import Picklist.Proofs.Select.SilentTicks
import Picklist.Proofs.Listing
import Picklist.Proofs.Session.Pressing
import Picklist.Proofs.Input.OneLine
import Picklist.Proofs.Arrange.MovingBack
import Picklist.Proofs.Text.MarksAlone
import Picklist.Proofs.View.NothingListed
import Picklist.Proofs.Number.Spelling
import Picklist.Proofs.Theme.ColorGrammar
import Picklist.Proofs.Unicode.RoundTrip
import Picklist.Proofs.Toml.Quoting
import Picklist.Proofs.CommandLine.Attached
import Picklist.Proofs.Settings.LastWord
import Picklist.Proofs.Settings.Guessing
import Picklist.Proofs.Settings.Variables
import Picklist.Proofs.Settings.TextSettings
import Picklist.Proofs.Settings.TextsAgree
import Picklist.Proofs.Select.Shortcut
import Picklist.Proofs.Arrange.Numbering
