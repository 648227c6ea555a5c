import PenPlotter.Axis
import PenPlotter.Calibration
import PenPlotter.Clock
import PenPlotter.CommandLine.Arguments
import PenPlotter.CommandLine.Execution
import PenPlotter.Decimal.Binary
import PenPlotter.Decimal.Shortest
import PenPlotter.Decimal.Text
import PenPlotter.Display.Basic
import PenPlotter.Display.Console
import PenPlotter.Display.Journal
import PenPlotter.Display.Panel
import PenPlotter.Errand
import PenPlotter.Explanation
import PenPlotter.Fault
import PenPlotter.Gcode
import PenPlotter.Homing.Leg
import PenPlotter.Homing.Pass
import PenPlotter.Homing.Phase
import PenPlotter.Main
import PenPlotter.Motor.Basic
import PenPlotter.Motor.Recorded
import PenPlotter.Motor.Scalar
import PenPlotter.Motor.Simulated
import PenPlotter.Motor.State
import PenPlotter.Move
import PenPlotter.Operation
import PenPlotter.Plotter
import PenPlotter.Position
import PenPlotter.Proofs.Calibration
import PenPlotter.Proofs.CommandLine.ExitCodes
import PenPlotter.Proofs.Decimal.Truncation
import PenPlotter.Proofs.Display.Heard
import PenPlotter.Proofs.Display.Muted
import PenPlotter.Proofs.Display.Presses
import PenPlotter.Proofs.Display.Quiet
import PenPlotter.Proofs.Gcode
import PenPlotter.Proofs.Gcode.Coordinates
import PenPlotter.Proofs.History
import PenPlotter.Proofs.Homing.Calls
import PenPlotter.Proofs.Homing.Course
import PenPlotter.Proofs.Homing.Driving
import PenPlotter.Proofs.Homing.Look
import PenPlotter.Proofs.Homing.Pace
import PenPlotter.Proofs.Homing.Step
import PenPlotter.Proofs.Homing.Survey
import PenPlotter.Proofs.Homing.Undisturbed
import PenPlotter.Proofs.Motor.Build
import PenPlotter.Proofs.Motor.Division
import PenPlotter.Proofs.Motor.Exact
import PenPlotter.Proofs.Motor.Lawful
import PenPlotter.Proofs.Motor.Motion
import PenPlotter.Proofs.Motor.Poised
import PenPlotter.Proofs.Motor.Readings
import PenPlotter.Proofs.Motor.Refusals
import PenPlotter.Proofs.Motor.Stalls
import PenPlotter.Proofs.Motor.StateLine
import PenPlotter.Proofs.Motor.StopAction
import PenPlotter.Proofs.Motor.Travel
import PenPlotter.Proofs.Motor.Trial
import PenPlotter.Proofs.Operation
import PenPlotter.Proofs.Plotter.Asking
import PenPlotter.Proofs.Plotter.Connected
import PenPlotter.Proofs.Plotter.Frame
import PenPlotter.Proofs.Plotter.Glance
import PenPlotter.Proofs.Plotter.Likeness
import PenPlotter.Proofs.Plotter.Overlaid
import PenPlotter.Proofs.Plotter.Program
import PenPlotter.Proofs.Plotter.Steering
import PenPlotter.Proofs.Plotter.Targets
import PenPlotter.Proofs.Plotter.Watched
import PenPlotter.Proofs.Schedule.Account
import PenPlotter.Proofs.Schedule.Alike
import PenPlotter.Proofs.Schedule.Conservation
import PenPlotter.Proofs.Schedule.Instants
import PenPlotter.Proofs.Schedule.LeastFirst
import PenPlotter.Proofs.Schedule.Record
import PenPlotter.Proofs.Schedule.Timing
import PenPlotter.Proofs.Schedule.Turn
import PenPlotter.Proofs.Schedule.Workload
import PenPlotter.Proofs.Session.Deeds
import PenPlotter.Proofs.Session.Faults
import PenPlotter.Proofs.Session.FirstHome
import PenPlotter.Proofs.Session.Homecoming
import PenPlotter.Proofs.Session.Life
import PenPlotter.Proofs.Session.Mechanics
import PenPlotter.Proofs.Session.Moving
import PenPlotter.Proofs.Session.Muted
import PenPlotter.Proofs.Session.Office
import PenPlotter.Proofs.Session.Opening
import PenPlotter.Proofs.Session.Order
import PenPlotter.Proofs.Session.Overlay
import PenPlotter.Proofs.Session.Pace
import PenPlotter.Proofs.Session.Progress
import PenPlotter.Proofs.Session.Queue
import PenPlotter.Proofs.Session.Reach
import PenPlotter.Proofs.Session.Trip
import PenPlotter.Proofs.Session.Unplugged
import PenPlotter.Proofs.Session.Unreached
import PenPlotter.Proofs.Session.Voyage
import PenPlotter.Proofs.Settings.Omission
import PenPlotter.Proofs.Settings.Schema
import PenPlotter.Proofs.Shop.Basic
import PenPlotter.Proofs.Shop.Books
import PenPlotter.Proofs.Shop.Calibration
import PenPlotter.Proofs.Shop.Clock
import PenPlotter.Proofs.Shop.Dispatch
import PenPlotter.Proofs.Shop.Followed
import PenPlotter.Proofs.Shop.Frames
import PenPlotter.Proofs.Shop.Instants
import PenPlotter.Proofs.Shop.LifeCycle
import PenPlotter.Proofs.Shop.MotorSafety
import PenPlotter.Proofs.Shop.Moves
import PenPlotter.Proofs.Shop.Screens
import PenPlotter.Proofs.Shop.Sound
import PenPlotter.Proofs.Shop.Spacing
import PenPlotter.Proofs.Shop.Step
import PenPlotter.Rehearsal
import PenPlotter.Schedule.Basic
import PenPlotter.Schedule.Chore
import PenPlotter.Schedule.Run
import PenPlotter.Session
import PenPlotter.Settings.Basic
import PenPlotter.Settings.Reading
import PenPlotter.Text.Blank
import PenPlotter.Text.Hidden
import PenPlotter.Text.Json
import PenPlotter.Text.Quoted
import PenPlotter.Toml.Document
import PenPlotter.Toml.Reader
import PenPlotter.Toml.Scalar
import PenPlotter.Toml.Value
