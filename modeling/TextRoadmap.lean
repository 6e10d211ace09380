import TextRoadmap.Text.Cut
import TextRoadmap.Text.Blank
import TextRoadmap.Text.Digits
import TextRoadmap.Calendar.Date
import TextRoadmap.Calendar.Instant
import TextRoadmap.Calendar.Rfc3339
import TextRoadmap.Layout.Basic
import TextRoadmap.Layout.Pattern
import TextRoadmap.Color.Palette
import TextRoadmap.ShortCode.Derive
import TextRoadmap.ShortCode.Words
import TextRoadmap.Link.Basic
import TextRoadmap.Roadmap.Check
import TextRoadmap.Outline.Basic
import TextRoadmap.Chart.Basic
import TextRoadmap.Json.Write
import TextRoadmap.Json.Read
import TextRoadmap.Document.Read
import TextRoadmap.Document.Write
import TextRoadmap.Toml.Read
import TextRoadmap.Toml.Write
import TextRoadmap.Settings.Document
import TextRoadmap.Files.Tree
import TextRoadmap.CommandLine.Run
import TextRoadmap.Main
import TextRoadmap.Proofs.Chart.Descendants
import TextRoadmap.Proofs.Roadmap.Span
import TextRoadmap.Proofs.Chart.Dates
import TextRoadmap.Proofs.Layout.Read
import TextRoadmap.Proofs.Layout.Basic
import TextRoadmap.Proofs.Layout.Tokens
import TextRoadmap.Proofs.Layout.Pattern
import TextRoadmap.Proofs.Layout.Facts
import TextRoadmap.Proofs.Layout.RoundTrip
import TextRoadmap.Proofs.Layout.Separated
import TextRoadmap.Proofs.Layout.Precision
import TextRoadmap.Proofs.Layout.Commas
import TextRoadmap.Proofs.Calendar.Rfc3339
import TextRoadmap.Proofs.Color.Basic
import TextRoadmap.Proofs.Color.Grammar
import TextRoadmap.Proofs.ShortCode.Basic
import TextRoadmap.Proofs.ShortCode.Words
import TextRoadmap.Proofs.Outline.Line
import TextRoadmap.Proofs.Outline.Token
import TextRoadmap.Proofs.Outline.RoundTrip
import TextRoadmap.Proofs.Outline.Bracket
import TextRoadmap.Proofs.Outline.Count
import TextRoadmap.Proofs.Outline.Rewrite
import TextRoadmap.Proofs.Outline.Forms
import TextRoadmap.Proofs.Outline.Canonical
import TextRoadmap.Proofs.Json.Read
import TextRoadmap.Proofs.Json.Record
import TextRoadmap.Proofs.Document.RoundTrip
import TextRoadmap.Proofs.Link.Resolve
import TextRoadmap.Proofs.Link.Bases
import TextRoadmap.Proofs.Outline.Links
import TextRoadmap.Proofs.Chart.Progress
import TextRoadmap.Chart.InPlace
import TextRoadmap.Proofs.Chart.InPlace
import TextRoadmap.Proofs.Chart.Span
import TextRoadmap.Proofs.Chart.Recompile
import TextRoadmap.Proofs.Chart.Epics
import TextRoadmap.Proofs.CommandLine.Task
import TextRoadmap.Proofs.CommandLine.Documents
import TextRoadmap.Proofs.Files.Tree
import TextRoadmap.Proofs.Files.Path
import TextRoadmap.Proofs.Files.Write
import TextRoadmap.Proofs.CommandLine.Effects
import TextRoadmap.Proofs.Chart.Gaps
import TextRoadmap.Proofs.Outline.Arrangement
import TextRoadmap.Proofs.Outline.Contents
import TextRoadmap.Proofs.Outline.Indentation
import TextRoadmap.Proofs.Chart.Enclosure
import TextRoadmap.Proofs.ShortCode.Faults
import TextRoadmap.Chart.Lending
import TextRoadmap.Proofs.Chart.Milestones
import TextRoadmap.Proofs.Toml.Strings
import TextRoadmap.Proofs.Settings.Document
import TextRoadmap.Proofs.Files.Folder
import TextRoadmap.Proofs.CommandLine.Loading
import TextRoadmap.Proofs.Settings.Basic
import TextRoadmap.Proofs.Settings.LinkBase
import TextRoadmap.Proofs.CommandLine.Settings
import TextRoadmap.Proofs.Color.Palette
import TextRoadmap.Proofs.Chart.Colors
import TextRoadmap.Proofs.Outline.Extra
import TextRoadmap.Proofs.Outline.Block
import TextRoadmap.Proofs.Outline.Kinds
import TextRoadmap.Proofs.Outline.Tail
import TextRoadmap.Proofs.Outline.Dates
