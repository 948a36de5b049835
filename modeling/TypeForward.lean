import TypeForward.Text.Blank
import TypeForward.Text.Case
import TypeForward.Text.Digit
import TypeForward.Text.Quoted
import TypeForward.Text.Utf8
import TypeForward.Binary64.Reading
import TypeForward.Binary64.Shortest
import TypeForward.Value.Key
import TypeForward.Value.Printed
import TypeForward.Artifact
import TypeForward.Event
import TypeForward.LanguageVersion.Parse
import TypeForward.Options.Basic
import TypeForward.Pass
import TypeForward.Toml.Document
import TypeForward.Settings.Workspace
import TypeForward.Session.Step
import TypeForward.Proofs.Pass.Uncancelled
import TypeForward.Proofs.Pass.Cancellation
import TypeForward.Proofs.Cache.Transparency
import TypeForward.Proofs.Settings.Precedence
import TypeForward.Proofs.Pass.Failure
import TypeForward.Proofs.Pass.Warning
import TypeForward.Proofs.Settings.Provenance
import TypeForward.Proofs.Sink.WriteOnce
import TypeForward.Proofs.Pass.Rerun
import TypeForward.Proofs.Settings.Encoding
import TypeForward.Proofs.Settings.Agreement
import TypeForward.Proofs.Settings.Reordering
import TypeForward.Proofs.Pass.Monotone
import TypeForward.Proofs.Settings.PresetOnce
import TypeForward.Proofs.LanguageVersion.Spelling
import TypeForward.Proofs.Text.Utf8
import TypeForward.Proofs.Settings.ProjectFile
import TypeForward.Proofs.Settings.Collections
import TypeForward.Proofs.Settings.Spellings
import TypeForward.Proofs.Sink.Failure
import TypeForward.Proofs.Pass.Rounds
import TypeForward.Proofs.LanguageVersion.Refusal
import TypeForward.Proofs.Options.Refusal
import TypeForward.Proofs.Cache.Ledger
import TypeForward.Proofs.Cache.Refinement
import TypeForward.Proofs.LanguageVersion.Grammar
import TypeForward.Proofs.Settings.Joining
import TypeForward.Proofs.Settings.Positions
import TypeForward.Proofs.Settings.Padding
