import DesignTokens.CommandLine
import DesignTokens.CommandLine.Help
import DesignTokens.FileTree.Changes
import DesignTokens.Main
import DesignTokens.Proofs.Json.Spelling
import DesignTokens.Proofs.Json.RoundTrip
import DesignTokens.Proofs.Theme.RoundTrip
import DesignTokens.Proofs.Theme.Dependence
import DesignTokens.Proofs.Theme.References
import DesignTokens.Proofs.Config.Checks
import DesignTokens.Proofs.Config.Acceptance
import DesignTokens.Proofs.Json.Yield
import DesignTokens.Proofs.Text.Utf8
import DesignTokens.Proofs.Text.Scalar
import DesignTokens.Proofs.Json.Scalar
import DesignTokens.Proofs.Path.Naming
import DesignTokens.Proofs.Outcomes
import DesignTokens.Proofs.FileTree.Way
import DesignTokens.Proofs.FileTree.Growth
import DesignTokens.Proofs.FileTree.Refusal
import DesignTokens.Proofs.Artifact.Delivery
import DesignTokens.Proofs.CommandLine.Complaint
import DesignTokens.Proofs.Config.Loading
import DesignTokens.Proofs.Artifact.Outputs
import DesignTokens.Proofs.Artifact.Confinement
import DesignTokens.Proofs.FileTree.Scan
import DesignTokens.Proofs.Bundle.Steps
import DesignTokens.Proofs.Bundle.Inputs
import DesignTokens.Proofs.Bundle.Course
import DesignTokens.Proofs.Bundle.Combination
import DesignTokens.Proofs.Bundle.Footprint
import DesignTokens.Proofs.Bundle.Copies
import DesignTokens.Proofs.Artifact.Encoding
import DesignTokens.Proofs.Artifact.Failures
import DesignTokens.Proofs.CommandLine.Invocation
import DesignTokens.Proofs.CommandLine.Log
import DesignTokens.Proofs.CommandLine.Agreement
import DesignTokens.Proofs.CommandLine.Preview
import DesignTokens.Proofs.Artifact.Regeneration
import DesignTokens.Proofs.Config.Groups
import DesignTokens.Proofs.Stylesheet.Names
import DesignTokens.Proofs.Stylesheet.Presets
import DesignTokens.Proofs.Text.Order
import DesignTokens.Proofs.FileTree.ScanOrder
import DesignTokens.Proofs.Bundle.InPlace
import DesignTokens.Proofs.Bundle.Repetition
import DesignTokens.Proofs.Stylesheet.Order
import DesignTokens.Proofs.Text.Decoding
import DesignTokens.Proofs.Bundle.TokensFirst
import DesignTokens.Proofs.Results
import DesignTokens.Proofs.Stylesheet.Reading
import DesignTokens.Proofs.Config.Accepted
import DesignTokens.Proofs.Config.Fields
import DesignTokens.Proofs.Config.NormalForm
import DesignTokens.Proofs.Theme.Completeness
import DesignTokens.Proofs.Theme.Fallbacks
import DesignTokens.Proofs.FileTree.Walk
import DesignTokens.Proofs.FileTree.Finding
