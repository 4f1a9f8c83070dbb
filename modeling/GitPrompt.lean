import GitPrompt.Format.Source
import GitPrompt.Main
import GitPrompt.Proofs.CommandLine.Outcome
import GitPrompt.Proofs.Format.CodeCuts
import GitPrompt.Proofs.Format.Composition
import GitPrompt.Proofs.Format.Descent
import GitPrompt.Proofs.Format.Grammar
import GitPrompt.Proofs.Format.Layout
import GitPrompt.Proofs.Format.Lexing
import GitPrompt.Proofs.Format.Misreading
import GitPrompt.Proofs.Format.Moves
import GitPrompt.Proofs.Format.Nesting
import GitPrompt.Proofs.Format.Prefixes
import GitPrompt.Proofs.Format.Respelling
import GitPrompt.Proofs.Format.RoundTrip
import GitPrompt.Proofs.Format.Splitting
import GitPrompt.Proofs.Format.Stopping
import GitPrompt.Proofs.Format.StyleCode
import GitPrompt.Proofs.Format.Tiling
import GitPrompt.Proofs.Format.Unparsing
import GitPrompt.Proofs.Git.Stash
import GitPrompt.Proofs.Porcelain.Branch
import GitPrompt.Proofs.Porcelain.Headers
import GitPrompt.Proofs.Porcelain.Order
import GitPrompt.Proofs.Porcelain.Paths
import GitPrompt.Proofs.Porcelain.Records
import GitPrompt.Proofs.Position.Coordinates
import GitPrompt.Proofs.Render.Contents
import GitPrompt.Proofs.Render.Ink
import GitPrompt.Proofs.Render.Modes
import GitPrompt.Proofs.Render.Outside
import GitPrompt.Proofs.Render.Pruning
import GitPrompt.Proofs.Render.Splitting
import GitPrompt.Proofs.Report
import GitPrompt.Proofs.Report.Shape
import GitPrompt.Proofs.Style.Attributes
import GitPrompt.Proofs.Text.Padding
import GitPrompt.Proofs.Text.Trim
