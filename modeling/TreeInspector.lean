import TreeInspector.Number.Decimal
import TreeInspector.Outline.Basic
import TreeInspector.Session
import TreeInspector.Document.Basic
import TreeInspector.View.Scene
import TreeInspector.View.Painting
import TreeInspector.Window.Registry
import TreeInspector.Export.Basic
import TreeInspector.Dispatch.Headless
import TreeInspector.Outline.Text
import TreeInspector.Screen.Host
import TreeInspector.Main
import TreeInspector.Proofs.Layout.Separation
import TreeInspector.Proofs.Window.Clicks
import TreeInspector.Proofs.Window.Ledger
import TreeInspector.Proofs.Document.Rearrangement
import TreeInspector.Proofs.Dispatch.Drains
import TreeInspector.Proofs.Dispatch.Headless
import TreeInspector.Proofs.Dispatch.Calls
import TreeInspector.Proofs.Dispatch.Hosting
import TreeInspector.Proofs.Dispatch.Departure
import TreeInspector.Proofs.Text.Spelling
import TreeInspector.Proofs.View.Markup
import TreeInspector.Proofs.View.Scene
import TreeInspector.Proofs.Storage.Disk
import TreeInspector.Proofs.Export.Reports
import TreeInspector.Proofs.Screen.Frames
import TreeInspector.Proofs.Screen.Host
import TreeInspector.Proofs.Screen.Runs
import TreeInspector.Proofs.Screen.Sharing
import TreeInspector.Proofs.Export.Names
import TreeInspector.Proofs.Screen.Prompts
import TreeInspector.Proofs.Screen.Turns
import TreeInspector.Proofs.Screen.Exports
import TreeInspector.Proofs.Window.Crashes
import TreeInspector.Proofs.Window.Uses
import TreeInspector.Proofs.Dispatch.Openings
import TreeInspector.Proofs.Window.Selections
import TreeInspector.Proofs.Layout.Scaling
import TreeInspector.Proofs.Outline.Drawing
import TreeInspector.Proofs.Document.Endings
import TreeInspector.Proofs.Text.Inline
import TreeInspector.Proofs.Text.Lines
import TreeInspector.Proofs.Screen.Rows
import TreeInspector.Proofs.Dispatch.KeeperAlone
