import DesignTokens.Proofs.CommandLine.Agreement

/-!
# Dry runs

A dry run shows what a run would write and changes nothing. It does all that a run does
before its first write, so that it fails where a run fails then; and what a run that ends
well has written is what the dry run shows, artifact for artifact.
-/

namespace DesignTokens

open FileTree

namespace Command

variable {dry real : Request}

end Command

namespace CommandLine

variable {config : Config} {snippet : Text}

variable {setting : Setting} {errors : ErrorOutput} {verbose : Bool} {session : Session}

/-- The run that shows every artifact. -/
def dryRun (surroundings : Surroundings) (errors : ErrorOutput) (verbose : Bool)
    (config base : Option Text) (tree : FileTree) : Transcript :=
  run surroundings (generateWords verbose true config base) tree errors

end CommandLine

end DesignTokens
