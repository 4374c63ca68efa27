import ModalKeys.Main
import ModalKeys.Chord
import ModalKeys.Command.Basic
import ModalKeys.Command.Reading
import ModalKeys.Command.Strokes
import ModalKeys.CommandLine.FileTree
import ModalKeys.CommandLine.Options
import ModalKeys.CommandLine.Program
import ModalKeys.Control.Basic
import ModalKeys.Control.Recorder
import ModalKeys.Dispatch
import ModalKeys.Editor
import ModalKeys.Keyboard.KeyPress
import ModalKeys.Keyboard.Keystroke
import ModalKeys.Keyboard.Layout
import ModalKeys.Mode.Basic
import ModalKeys.Mode.Insert
import ModalKeys.Mode.Normal
import ModalKeys.Mode.Set
import ModalKeys.Mode.Visual
import ModalKeys.Plan
import ModalKeys.Proofs.Editor.Commanding
import ModalKeys.Proofs.Editor.Inserting
import ModalKeys.Proofs.Editor.Timers
import ModalKeys.Proofs.Editor.Draining
import ModalKeys.Proofs.Insert.Output
import ModalKeys.Proofs.Session
import ModalKeys.Response
import ModalKeys.Screen.Cell
import ModalKeys.Screen.Frame
import ModalKeys.Screen.Wrap
import ModalKeys.Settings.Basic
import ModalKeys.Settings.Decode
import ModalKeys.Settings.File
import ModalKeys.Terminal.Key
import ModalKeys.Text.Alphanumeric
import ModalKeys.Text.Boundary
import ModalKeys.Text.CharClass
import ModalKeys.Text.Combining
import ModalKeys.Text.Line
import ModalKeys.Text.Quoted
import ModalKeys.Text.Ranges
import ModalKeys.Text.Selection
import ModalKeys.Text.Unprintable
import ModalKeys.Text.Uppercase
import ModalKeys.Text.Width
import ModalKeys.TextField.Basic
import ModalKeys.TextField.Draft
import ModalKeys.TextField.Shortcut
import ModalKeys.Toml.Document
import ModalKeys.Toml.Number
import ModalKeys.Toml.Scan
import ModalKeys.Toml.Text
import ModalKeys.Toml.Value
import ModalKeys.Proofs.Editor.Orderly
import ModalKeys.Proofs.Editor.Timeless
import ModalKeys.Proofs.Timing
import ModalKeys.Proofs.Normal.BlockCursor
import ModalKeys.Proofs.Normal.Counts
import ModalKeys.Proofs.Normal.DeleteLines
import ModalKeys.Proofs.TextField.RestOfLine
import ModalKeys.Proofs.Normal.RestOfLine
import ModalKeys.Proofs.Insert.Chords
import ModalKeys.Proofs.Insert.Release
import ModalKeys.Proofs.Editor.Tidy
import ModalKeys.Proofs.Editor.Injecting
import ModalKeys.Proofs.Visual.Operators
import ModalKeys.Proofs.Dispatch.GivenUp
import ModalKeys.Proofs.Editor.Deferral
import ModalKeys.Proofs.Text.Words
import ModalKeys.Proofs.TextField.Arrows
import ModalKeys.Proofs.Normal.Motions
import ModalKeys.Proofs.Editor.Alike
import ModalKeys.Proofs.Editor.Sending
import ModalKeys.Proofs.Editor.Editing
import ModalKeys.Proofs.Normal.TakenBack
import ModalKeys.Proofs.Normal.ThereAndBack
import ModalKeys.Proofs.Command.Grammar
import ModalKeys.Proofs.TextField.History
import ModalKeys.Proofs.TextField.Strict
import ModalKeys.Proofs.Normal.AddedCounts
import ModalKeys.Proofs.Text.Runs
import ModalKeys.Proofs.Text.Tokens
import ModalKeys.Proofs.Text.Columns
import ModalKeys.Proofs.Normal.Entries
import ModalKeys.Proofs.Normal.NativeWordEnds
import ModalKeys.Proofs.Visual.Lines
import ModalKeys.Proofs.Normal.DeleteChars
import ModalKeys.Proofs.Normal.Pasting
import ModalKeys.Proofs.Normal.YankLines
import ModalKeys.Proofs.Command.Limits
import ModalKeys.Proofs.Command.LeadingCount
import ModalKeys.Proofs.Editor.Leaves
import ModalKeys.Proofs.TextField.Typing
import ModalKeys.Proofs.Text.LineList
import ModalKeys.Proofs.Screen.Rows
import ModalKeys.Proofs.Text.Places
import ModalKeys.Proofs.Text.Saturation
