import TestScout.Main
import TestScout.Proofs.Pattern.Nested
import TestScout.Proofs.Server.Lenses
import TestScout.Proofs.Walk.Cancelled
import TestScout.Proofs.Pattern.Words
import TestScout.Proofs.Pattern.Loose
import TestScout.Proofs.Server.Documents
import TestScout.Proofs.Toml.Text
import TestScout.Proofs.Toml.Value
import TestScout.Proofs.Toml.Document
import TestScout.Proofs.Settings.Codec
import TestScout.Proofs.Settings.Toml
import TestScout.Proofs.Settings.Load
import TestScout.Proofs.Server.Execute
import TestScout.Proofs.Settings.Defaults
import TestScout.Proofs.CommandLine.Launch
import TestScout.Proofs.ProjectRoot.Search
import TestScout.Proofs.Path.Resolved
import TestScout.Proofs.ProjectRoot.Enclosing
import TestScout.Proofs.Literal.Spelling
import TestScout.Proofs.Position.Steps
import TestScout.Proofs.Position.Order
import TestScout.Proofs.Position.LineNumber
import TestScout.Proofs.Lens.Cancelled
import TestScout.Proofs.Declaration.Reading
import TestScout.Proofs.Walk.Forest
import TestScout.Proofs.Walk.Call
import TestScout.Proofs.Walk.Markers
import TestScout.Proofs.Syntax.Layout
import TestScout.Proofs.Walk.Apart
import TestScout.Proofs.Walk.Comments
import TestScout.Proofs.Text.Numeral
import TestScout.Proofs.Settings.Override
import TestScout.Proofs.Launch.Paths
import TestScout.Proofs.Settings.Edited
import TestScout.Proofs.Registry.History
import TestScout.Proofs.Launch.Codec
import TestScout.Proofs.Literal.Shortening
