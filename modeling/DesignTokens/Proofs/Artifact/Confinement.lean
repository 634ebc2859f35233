import DesignTokens.Proofs.Artifact.Outputs

/-!
# Artifacts stay below the base directory

A config says where its artifacts go by two texts, which nothing is asked of. If neither begins
with a slash and none of their parts leads up, the artifacts go below the base directory,
whatever else the texts are made of. A path for the plain stylesheet that has no parts is that of
the base directory itself. Nothing is said here about an empty output directory, behind which a
slash is at the start of a path.
-/

namespace DesignTokens.Artifact

open DesignTokens.Path

variable {content : Text}

/-- A text does not begin with a slash, and nothing between its slashes leads up. -/
structure Inward (content : Text) : Prop where
  start : content.head? ≠ some (CodePoint.ofChar '/')
  forward : up ∉ Text.splitAt '/' content

instance (content : Text) : Decidable (Inward content) :=
  decidable_of_iff
    (content.head? ≠ some (CodePoint.ofChar '/') ∧ up ∉ Text.splitAt '/' content)
    ⟨fun ⟨start, forward⟩ => ⟨start, forward⟩, fun inward => ⟨inward.start, inward.forward⟩⟩

/-- The parts of an inward path come behind those of the base. -/
theorem Inward.under_eq (inward : Inward content) (base : Path) :
    under base (ofText content) = ⟨base.anchor, base.parts ++ (ofText content).parts⟩ :=
  if_pos (anchor_ofText inward.start)

/-- An inward path leads on from where the base ends. -/
theorem Inward.locationOf_under (inward : Inward content) (base : Path) (current : Location) :
    (under base (ofText content)).locationOf current =
      base.locationOf current ++ (ofText content).parts := by
  have forward : up ∉ (ofText content).parts := fun leads =>
    inward.forward (List.mem_of_mem_filter leads)
  rw [inward.under_eq, locationOf, List.foldl_append]
  exact foldl_advance forward _

/-- A path leads to somewhere inside of the directory that another path leads to. -/
def Inside (current : Location) (directory path : Path) : Prop :=
  directory.locationOf current <+: path.locationOf current ∧
    path.locationOf current ≠ directory.locationOf current

instance (current : Location) (directory path : Path) :
    Decidable (Inside current directory path) :=
  inferInstanceAs (Decidable (_ ∧ _))

/-- What is some names further on is inside. -/
theorem inside_of_eq_append {current rest : Location} {directory path : Path} (further : rest ≠ [])
    (ends : path.locationOf current = directory.locationOf current ++ rest) :
    Inside current directory path := by
  unfold Inside
  rw [ends]
  exact ⟨List.prefix_append _ rest, by simpa using further⟩

variable {config : Config}

/-- All artifacts but the plain stylesheet go into the output directory that the config spells. -/
theorem outputIn_eq_entry_outDir (inward : Inward config.outDir) (given : config.outDir ≠ [])
    {artifact : Artifact} (other : artifact ≠ plainStylesheet) (base : Path) :
    artifact.outputIn base config = (under base (ofText config.outDir)).entry artifact.label := by
  rw [outputIn_eq_entry other, outputDirectory, ofText_dropTrailing given inward.start]

/-- A plain entry of an inward directory is inside of the base. -/
theorem Inward.inside_entry (inward : Inward content) {name : Text} (plain : Plain name)
    (base : Path) (current : Location) :
    Inside current base ((under base (ofText content)).entry name) := by
  have ends := calc ((under base (ofText content)).entry name).locationOf current
    _ = (under base (ofText content)).locationOf current ++ [name] := by
      rw [locationOf_entry, advance_of_plain _ plain]
    _ = base.locationOf current ++ ((ofText content).parts ++ [name]) := by
      rw [inward.locationOf_under, List.append_assoc]
  exact inside_of_eq_append (by simp) ends

/-- If the paths of a config begin with no slash and lead nowhere up, all artifacts but the plain
stylesheet go inside of the base directory, into the output directory that the config spells,
unless that is spelled by nothing at all. The plain stylesheet goes inside of the base directory
too, or to the base directory itself if its path has no parts. -/
theorem outputIn_inside (tokensPath : Inward config.tokensPath) (outDir : Inward config.outDir)
    (base : Path) (current : Location) :
    (config.outDir ≠ [] → ∀ artifact, artifact ≠ plainStylesheet →
      artifact.outputIn base config = (under base (ofText config.outDir)).entry artifact.label ∧
        Inside current base (artifact.outputIn base config)) ∧
      ((ofText config.tokensPath).parts ≠ [] →
        Inside current base (plainStylesheet.outputIn base config)) ∧
      ((ofText config.tokensPath).parts = [] → plainStylesheet.outputIn base config = base) := by
  refine ⟨?_, ?_, ?_⟩
  · intro given artifact other
    have path := outputIn_eq_entry_outDir outDir given other base
    exact ⟨path, path ▸ outDir.inside_entry artifact.plain_label base current⟩
  · intro further
    exact inside_of_eq_append further (tokensPath.locationOf_under base current)
  · intro none
    show under base (ofText config.tokensPath) = base
    rw [tokensPath.under_eq, none, List.append_nil]

/-- With the paths that are taken when the config tells none, every artifact goes inside of the
base directory. -/
theorem outputIn_inside_default :
    let config := tokenless Config.defaultTokensPath
    Inward config.tokensPath ∧ Inward config.outDir ∧
      ∀ artifact : Artifact, Inside [] (ofText (text "site"))
        (artifact.outputIn (ofText (text "site")) config) := by
  intro config
  have tokensPath : Inward config.tokensPath := by decide
  have outDir : Inward config.outDir := by decide
  obtain ⟨others, plain, -⟩ := outputIn_inside tokensPath outDir (ofText (text "site")) []
  refine ⟨tokensPath, outDir, fun artifact => ?_⟩
  by_cases other : artifact = plainStylesheet
  · rw [other]
    exact plain (by decide)
  · exact (others (by decide) artifact other).2

/-- A config document that tells no tokens but where the artifacts go. -/
def pathsOnly (tokensPath outDir : Text) : Json :=
  .object [(text "prefix", .string (text "x")), (text "tokens", .object []),
    (text "tokensPath", .string tokensPath), (text "outDir", .string outDir)]

/-- A document is accepted with inward paths, and one of its artifacts goes to somewhere that is
not inside of a base directory. -/
def Escapes (document : Json) (artifact : Artifact) : Prop :=
  ∃ config, Config.check document = .ok config ∧ Inward config.tokensPath ∧
    Inward config.outDir ∧
    ¬ Inside [] (ofText (text "site")) (artifact.outputIn (ofText (text "site")) config)

/-- An empty path for the plain stylesheet is that of the base directory, and an empty output
directory is that of the root. -/
theorem empty_paths_escape :
    Escapes (pathsOnly [] Config.defaultOutDir) plainStylesheet ∧
      Escapes (pathsOnly Config.defaultTokensPath []) presetStylesheet := by
  have accepted (tokensPath outDir : Text) : Config.check (pathsOnly tokensPath outDir) =
      .ok ⟨⟨text "x", by decide, by decide⟩, tokensPath, outDir, .empty⟩ := rfl
  exact ⟨⟨_, accepted _ _, by decide, by decide, by decide⟩,
    ⟨_, accepted _ _, by decide, by decide, by decide⟩⟩

end DesignTokens.Artifact
