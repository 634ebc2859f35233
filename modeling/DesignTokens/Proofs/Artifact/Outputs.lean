import DesignTokens.Proofs.Artifact.Delivery
import DesignTokens.Proofs.Path.Naming

/-!
# Where artifacts go

All artifacts but the plain stylesheet go to one directory, each by its own name, so
that no two of them go to the same place. The plain stylesheet goes where the config
says. Nothing keeps that from being the place of another artifact, which is written
later and then is what stays there.
-/

namespace DesignTokens.Artifact

open FileTree DesignTokens.Path

variable {setting : Setting} {current : Location} {base : Path} {config : Config}

/-- The directory of all artifacts but the plain stylesheet. -/
def outputDirectory (base : Path) (config : Config) : Path :=
  under base (ofText (config.outDir.dropTrailing '/' ++ text "/"))

/-- The label of an artifact is a plain name. -/
theorem plain_label (artifact : Artifact) : Plain artifact.label := by
  cases artifact <;> decide

/-- No two artifacts have the same label. -/
theorem label_injective : Function.Injective label := by
  intro first second same
  cases first <;> cases second <;> first | rfl | exact absurd same (by decide)

/-- An artifact other than the plain stylesheet is an entry of the output directory. -/
theorem outputIn_eq_entry {artifact : Artifact} (other : artifact ≠ plainStylesheet) :
    artifact.outputIn base config = (outputDirectory base config).entry artifact.label := by
  have path : artifact.outputPath config =
      config.outDir.dropTrailing '/' ++ text "/" ++ artifact.label := by
    cases artifact with
    | plainStylesheet => exact absurd rfl other
    | presetStylesheet | theme | integration => rfl
  rw [outputIn, path, ofText_append_name _ artifact.plain_label, under_entry]
  rfl

/-- Two artifacts other than the plain stylesheet go to two locations. -/
theorem eq_of_locationOf_eq {first second : Artifact} (firstOther : first ≠ plainStylesheet)
    (secondOther : second ≠ plainStylesheet)
    (same : (first.outputIn base config).locationOf current =
      (second.outputIn base config).locationOf current) : first = second := by
  rw [outputIn_eq_entry firstOther, outputIn_eq_entry secondOther, locationOf_entry,
    locationOf_entry, advance_of_plain _ first.plain_label,
    advance_of_plain _ second.plain_label] at same
  exact label_injective (by simpa using same)

/-- The path of an artifact passes a test on its code points exactly when the text of the
config in it does, if a slash and all labels pass. -/
theorem all_outputPath {passes : CodePoint -> Bool} (slash : passes '/' = true)
    (labels : ∀ artifact : Artifact, artifact.label.all passes = true) (artifact : Artifact) :
    (artifact.outputPath config).all passes =
      if artifact = plainStylesheet then config.tokensPath.all passes
      else config.outDir.all passes := by
  have between : (text "/").all passes = true := List.all_eq_true.mpr fun point member =>
    List.mem_singleton.mp member ▸ slash
  cases artifact with
  | plainStylesheet => rfl
  | presetStylesheet | theme | integration =>
      simp only [outputPath, List.all_append, Text.all_dropTrailing slash, between, labels,
        Bool.and_true, reduceCtorEq, if_false]

/-- What is written after an artifact is another artifact and not the plain stylesheet. -/
theorem all_eq_append (artifact : Artifact) :
    ∃ done rest, all = done ++ artifact :: rest ∧
      ∀ later ∈ rest, later ≠ artifact ∧ later ≠ plainStylesheet := by
  cases artifact with
  | plainStylesheet => exact ⟨[], [presetStylesheet, theme, integration], rfl, by decide⟩
  | presetStylesheet => exact ⟨[plainStylesheet], [theme, integration], rfl, by decide⟩
  | theme => exact ⟨[plainStylesheet, presetStylesheet], [integration], rfl, by decide⟩
  | integration => exact ⟨[plainStylesheet, presetStylesheet, theme], [], rfl, by decide⟩

/-- An artifact is the plain stylesheet and goes where another one goes. -/
def Overwritten (current : Location) (base : Path) (config : Config) (artifact : Artifact) : Prop :=
  artifact = plainStylesheet ∧ ∃ other, other ≠ plainStylesheet ∧
    (other.outputIn base config).locationOf current =
      (artifact.outputIn base config).locationOf current

/-- A file is recorded for an artifact by its path and by the size of its encoding, and
the encoding is what the path of the artifact reads as, unless it was overwritten. -/
structure Delivered (current : Location) (base : Path) (config : Config) (snippet : Text)
    (tree : FileTree) (file : DeliveredFile) (artifact : Artifact) : Prop where
  path : file.path = artifact.outputPath config
  held : ∃ bytes, Utf8.encode (artifact.content config snippet) = .ok bytes ∧
    file.size = bytes.length ∧ (¬ Overwritten current base config artifact →
      tree.readFile current (artifact.outputIn base config) = .ok bytes)

variable {snippet : Text} {before after : FileTree}

/-- An artifact that is not overwritten is what its path reads as after all writes. -/
theorem readFile_of_wrote {artifact : Artifact} {bytes : Bytes}
    (wrote : WroteInOrder current (writes base config snippet) before after)
    (kept : ¬ Overwritten current base config artifact)
    (encoding : Utf8.encode (artifact.content config snippet) = .ok bytes) :
    after.readFile current (artifact.outputIn base config) = .ok bytes := by
  obtain ⟨done, rest, split, later⟩ := all_eq_append artifact
  have located := wrote.locate_eq (write_mem_writes base config snippet artifact)
  have alone : ∀ next ∈ rest.map (write base config snippet),
      (artifact.outputIn base config).locationOf current ≠ next.1.locationOf current := by
    intro next member same
    obtain ⟨other, among, rfl⟩ := List.mem_map.mp member
    obtain ⟨different, notPlain⟩ := later other among
    by_cases plain : artifact = plainStylesheet
    · exact kept ⟨plain, other, notPlain, same.symm⟩
    · exact different (eq_of_locationOf_eq notPlain plain same.symm)
  rw [writes, split, List.map_append, List.map_cons] at wrote
  exact readFile_eq_ok_iff.mpr ⟨located, wrote.find?_of_last alone encoding⟩

/-- A run that returns has written every artifact, recorded by its path and its size on
disk: the path of each reads as the encoding of its text. Only the plain stylesheet may
have been written over, by an artifact whose path leads to the same location; there the
text of that one is read. -/
theorem deliverAll_delivers {base : Option Path} {session after : Session}
    {files : List DeliveredFile}
    (returned : deliverAll setting base config session = .ok files after) :
    ∃ snippet, Artifact.snippet setting session.tree = .ok snippet ∧
      List.Forall₂ (Delivered setting.current (baseDirectory setting base) config snippet
        after.tree) files all ∧
      ∀ other, other ≠ plainStylesheet →
        (other.outputIn (baseDirectory setting base) config).locationOf setting.current =
          (plainStylesheet.outputIn (baseDirectory setting base) config).locationOf
            setting.current →
        ∃ bytes, Utf8.encode (other.content config snippet) = .ok bytes ∧
          after.tree.readFile setting.current
            (plainStylesheet.outputIn (baseDirectory setting base) config) = .ok bytes := by
  obtain ⟨snippet, taken, recorded, wrote⟩ :=
    wrote_of_deliverAll returned
  refine ⟨snippet, taken, recorded.imp fun file artifact records => ?_, ?_⟩
  · obtain ⟨path, bytes, encoding, size⟩ := records
    exact ⟨path, bytes, encoding, size, fun kept => readFile_of_wrote wrote kept encoding⟩
  · intro other notPlain same
    obtain ⟨bytes, encoding⟩ := wrote.encoded (write_mem_writes _ config snippet other)
    have read := readFile_of_wrote wrote (fun lost => notPlain lost.1) encoding
    obtain ⟨-, found⟩ := readFile_eq_ok_iff.mp read
    have located := wrote.locate_eq (write_mem_writes _ config snippet plainStylesheet)
    exact ⟨bytes, encoding, readFile_eq_ok_iff.mpr ⟨located, same ▸ found⟩⟩

/-- A setting whose current directory is the root, which holds the templates too. -/
def atTemplates : Setting := ⟨[], some (ofLocation [])⟩

/-- A session with an empty template and nothing else. -/
def blankSession : Session :=
  ⟨FileTree.empty.putWithParents [Integration.templateName] (.file []), []⟩

/-- A config without tokens, by the path of its plain stylesheet. -/
def tokenless (tokensPath : Text) : Config :=
  ⟨⟨text "x", by decide, by decide⟩, tokensPath, Config.defaultOutDir, .empty⟩

/-- With the paths that are taken when the config tells none, every artifact is
delivered. -/
theorem deliverAll_delivers_default :
    ∃ files after, deliverAll atTemplates none (tokenless Config.defaultTokensPath) blankSession =
        .ok files after ∧
      ∃ snippet, Artifact.snippet atTemplates blankSession.tree = .ok snippet ∧
        List.Forall₂ (Delivered [] (ofLocation []) (tokenless Config.defaultTokensPath) snippet
          after.tree) files all := by
  have ends : (deliverAll atTemplates none (tokenless Config.defaultTokensPath)).Ends blankSession
      (fun _ _ => True) fun _ _ => False := by decide +kernel
  obtain ⟨files, after, returned, -⟩ := ends.returned
  obtain ⟨snippet, taken, delivered, -⟩ := deliverAll_delivers returned
  exact ⟨files, after, returned, snippet, taken, delivered⟩

/-- A config whose plain stylesheet is to go where its theme settings go. -/
def colliding : Config := tokenless (text "dist/wp/theme.json")

/-- A run may return although what the path of an artifact reads as is not its encoding,
and has another size than the one that is recorded. -/
theorem deliverAll_overwrites :
    ∃ files after, deliverAll atTemplates none colliding blankSession = .ok files after ∧
      let read := after.tree.readFile [] (plainStylesheet.outputIn (ofLocation []) colliding)
      read.toOption ≠ (Utf8.encode (Stylesheet.plain colliding)).toOption ∧
        read.toOption.map List.length ≠ files.head?.map DeliveredFile.size := by
  refine Action.Ends.returned ?_
  decide +kernel

end DesignTokens.Artifact
