import DesignTokens.Proofs.Artifact.Confinement
import DesignTokens.Proofs.Bundle.Copies
import DesignTokens.Proofs.FileTree.ScanOrder
import DesignTokens.Proofs.Stylesheet.Order
import DesignTokens.Proofs.Text.Decoding

/-!
# Generated tokens come first in a bundle

With the path that is taken when the config tells none, the tokens are written to where a run of
the bundler looks for stylesheets. No artifact that is written later goes there, and the bundler
copies the tokens as they are. They are the first section of the combined stylesheet, because
nothing else has their name.
-/

namespace DesignTokens

open FileTree DesignTokens.Path

namespace Artifact

variable {setting : Setting} {config : Config} {session delivered : Session}
  {files : List DeliveredFile}

/-- Where the tokens are written to below the current directory. -/
def tokensWay : Location := [text "src", text "styles", Stylesheet.tokensName]

/-- No other artifact goes to where the tokens go when the config does not tell their path. -/
theorem not_overwritten_tokens (default : config.tokensPath = Config.defaultTokensPath)
    (base : Path) (current : Location) : ¬ Overwritten current base config plainStylesheet := by
  rintro ⟨-, other, notPlain, same⟩
  have path : plainStylesheet.outputIn base config =
      (under base (ofText (text "src/styles"))).entry Stylesheet.tokensName := by
    rw [outputIn, outputPath, default, ← under_entry]
    congr 1
  have plain : Plain Stylesheet.tokensName := by decide
  rw [outputIn_eq_entry notPlain, path, locationOf_entry, locationOf_entry,
    advance_of_plain _ other.plain_label, advance_of_plain _ plain] at same
  have label : other.label = Stylesheet.tokensName := by
    simpa using congrArg List.getLast? same
  exact notPlain (label_injective label)

/-- Where the tokens go when the config does not tell their path. -/
theorem locationOf_tokens (forward : up ∉ setting.current)
    (default : config.tokensPath = Config.defaultTokensPath) :
    (plainStylesheet.outputIn (baseDirectory setting none) config).locationOf setting.current =
      setting.current ++ tokensWay := by
  have inward : Inward Config.defaultTokensPath := by decide
  have base : (baseDirectory setting none).locationOf setting.current = setting.current :=
    foldl_advance forward []
  rw [outputIn, outputPath, default, inward.locationOf_under, base]
  congr 1

/-- The tokens are found below the current directory behind a run that returns. -/
theorem find?_tokens (forward : up ∉ setting.current)
    (default : config.tokensPath = Config.defaultTokensPath)
    (returned : deliverAll setting none config session = .ok files delivered) :
    ∃ bytes, Utf8.encode (Stylesheet.plain config) = .ok bytes ∧
      delivered.tree.find? (setting.current ++ tokensWay) = some (.file bytes) := by
  obtain ⟨snippet, -, -, wrote⟩ := wrote_of_deliverAll returned
  obtain ⟨bytes, encoding⟩ := wrote.encoded (write_mem_writes _ config snippet plainStylesheet)
  have read := readFile_of_wrote wrote (not_overwritten_tokens default _ _) encoding
  have found := (readFile_eq_ok_iff.mp read).2
  rw [locationOf_tokens forward default] at found
  exact ⟨bytes, encoding, found⟩

end Artifact

namespace Bundle

variable {setting : Setting} {config : Config} {session delivered ended : Session}
  {files : List DeliveredFile} {bundle : Bundle} {tree : FileTree} {current : Location}

/-- Where stylesheets are looked for. -/
def components : Path := ofText (text "src")

/-- Where the bundle goes. -/
def distribution : Path := ofText (text "dist")

/-- The tokens, as a scan finds them. -/
def tokensSheet : Path := ofText (text "src/styles/tokens.css")

/-- Nothing but the tokens has their name where stylesheets are looked for. -/
def SoleTokens (current : Location) (tree : FileTree) : Prop :=
  ∀ way content, tree.find? (components.locationOf current ++ way) = some (.file content) →
    way.getLast? = some Stylesheet.tokensName → way = [text "styles", Stylesheet.tokensName]

/-- Stylesheets are looked for in a directory below the current one. -/
theorem locationOf_components (current : Location) :
    components.locationOf current = current ++ [text "src"] := by
  have forward : up ∉ [text "src"] := by decide
  exact foldl_advance forward current

/-- The tokens are below that directory. -/
theorem components_append_way (current : Location) :
    components.locationOf current ++ [text "styles", Stylesheet.tokensName] =
      current ++ Artifact.tokensWay := by
  rw [locationOf_components, List.append_assoc]
  rfl

/-- A scan that is not refused goes through where the tokens are. -/
theorem scanned_of_tokens {bytes : Bytes} {sheets : List Path}
    (stands : tree.find? (current ++ Artifact.tokensWay) = some (.file bytes))
    (found : tree.findStylesheets current components = .ok sheets) :
    tree.Scanned current components sheets := by
  have directory : tree.find? (components.locationOf current) = some .directory := by
    rw [← components_append_way] at stands
    exact find?_of_append stands (List.cons_ne_nil _ _)
  have here : tree.find? current = some .directory :=
    find?_of_append stands (List.cons_ne_nil _ _)
  have followable : components.Followable := ⟨⟨_, rfl⟩, by decide, by decide⟩
  have above : ∀ asked ∈ components.above current, tree.find? asked = some .directory := by
    intro asked member
    obtain rfl : asked = current := List.mem_singleton.mp member
    exact here
  exact scanned_of_located (locate_eq_ok_iff.mpr ⟨followable, above, rfl⟩) directory found

/-- Behind such a scan, the tokens are the first of what is bundled, and the only ones of their
name. -/
theorem inOrder_of_tokens {bytes : Bytes} {sheets : List Path}
    (stands : tree.find? (current ++ Artifact.tokensWay) = some (.file bytes))
    (sole : SoleTokens current tree)
    (found : tree.findStylesheets current components = .ok sheets) :
    tokensSheet ∈ sheets ∧
      (∀ sheet ∈ sheets, sheet.name = Stylesheet.tokensName → sheet = tokensSheet) ∧
      ∃ others, Stylesheet.inOrder sheets = tokensSheet :: others ∧
        ∀ sheet ∈ others, sheet.name ≠ Stylesheet.tokensName := by
  have scanned := scanned_of_tokens stands found
  have spelled : onward components [text "styles", Stylesheet.tokensName] = tokensSheet := by decide
  have member : tokensSheet ∈ sheets := by
    rw [scanned.listed, ← spelled]
    refine List.mem_map_of_mem (mem_stylesheetsBelow_iff.mpr ⟨List.cons_ne_nil _ _, ⟨bytes, ?_⟩, ?_⟩)
    · rw [components_append_way, stands]
    · decide
  have only : ∀ sheet ∈ sheets, sheet.name = Stylesheet.tokensName → sheet = tokensSheet := by
    intro sheet among named
    rw [scanned.listed] at among
    obtain ⟨way, below, rfl⟩ := List.mem_map.mp among
    obtain ⟨further, ⟨content, file⟩, -⟩ := mem_stylesheetsBelow_iff.mp below
    have last : way.getLast? = some (onward components way).name := getLast?_eq_name_onward further
    rw [sole way content file (named ▸ last), spelled]
  exact ⟨member, only, Stylesheet.inOrder_eq_cons scanned.nodup member (by decide) only⟩

/-- Texts that are joined are the first one and then each other one behind the mark. -/
theorem intercalate_cons (mark first : Text) (others : List Text) :
    List.intercalate mark (first :: others) = first ++ others.flatMap (mark ++ ·) := by
  induction others generalizing first with
  | nil => simp [List.intercalate]
  | cons next rest ih =>
      rw [List.intercalate_cons_cons, ih, List.flatMap_cons, List.append_assoc, List.append_assoc]

/-- The generated tokens are at the start of a bundle: their copy holds the bytes of their
rendering, and the combined stylesheet is the encoding of their section and of the sections of
the other stylesheets behind it, none of which has the name of the tokens. -/
structure OpensWithTokens (current : Location) (config : Config) (before after : FileTree) :
    Prop where
  copy : ∃ bytes, Utf8.encode (Stylesheet.plain config) = .ok bytes ∧
    after.readFile current (ofText (text "dist/css/tokens.css")) = .ok bytes
  combined : ∃ sheets others parts content,
    before.findStylesheets current components = .ok sheets ∧
    Stylesheet.inOrder sheets = tokensSheet :: others ∧
    (∀ sheet ∈ others, sheet.name ≠ Stylesheet.tokensName) ∧
    List.Forall₂ (SectionIn before current) others parts ∧
    Utf8.encode (text "/* === tokens.css === */\n" ++ (Stylesheet.plain config).unifyNewlines ++
      text "\n" ++ parts.flatMap (text "\n" ++ ·)) = .ok content ∧
    after.readFile current (ofText (text "dist/styles.css")) = .ok content

/-- If a delivery into the current directory returns for a config that does not tell the path of
the tokens, and then a run of the bundler returns, with nothing else of the name of the tokens
among the stylesheets, the bundle opens with the tokens. -/
theorem run_opens_with_tokens (forward : up ∉ setting.current)
    (default : config.tokensPath = Config.defaultTokensPath)
    (wrote : Artifact.deliverAll setting none config session = .ok files delivered)
    (sole : SoleTokens setting.current delivered.tree)
    (returned : run setting components distribution delivered = .ok bundle ended) :
    OpensWithTokens setting.current config delivered.tree ended.tree := by
  obtain ⟨bytes, encoding, stands⟩ := Artifact.find?_tokens forward default wrote
  obtain ⟨sheets, found, outcome⟩ :=
    (run_ends setting components distribution delivered).of_returned returned
  obtain ⟨member, only, others, order, behind⟩ := inOrder_of_tokens stands sole found
  rcases outcome with ⟨rfl, -⟩ | ⟨-, copied, middle, written, assembled⟩
  · cases member
  have stand : ∀ sheet ∈ sheets, ∃ content,
      delivered.tree.HasStylesheet setting.current sheet content :=
    fun _ => hasStylesheet_of_mem_findStylesheets found
  have here : tokensSheet.locationOf setting.current = setting.current ++ Artifact.tokensWay :=
    foldl_advance (by decide) setting.current
  have named : tokensSheet.name = Stylesheet.tokensName := by decide
  constructor
  · obtain ⟨content, held, read⟩ := (assembled.hasCopy stand member).own fun sheet among same =>
      only sheet among (same.trans named)
    obtain rfl : bytes = content := by simpa [here, stands] using held
    exact ⟨bytes, encoding, read⟩
  · obtain ⟨parts, content, sections, whole, read⟩ := assembled.holdsSections stand
    rw [order] at sections
    cases sections with
    | @cons _ part _ parts first rest =>
        obtain ⟨held, decoded, file, decodes, rfl⟩ := first
        obtain rfl : bytes = held := by simpa [here, stands] using file
        obtain rfl : Stylesheet.plain config = decoded :=
          Except.ok.inj ((Utf8.decode_of_encode encoding).symm.trans decodes)
        rw [intercalate_cons, named] at whole
        exact ⟨sheets, others, parts, content, found, order, behind, rest, whole, read⟩

/-- An empty template, and a stylesheet of a component. -/
def withComponent : Session :=
  sessionWith [([Integration.templateName], []), ([text "src", text "a.css"], [0x61])]

/-- A config without tokens that does not tell their path. -/
def pathless : Config := Artifact.tokenless Config.defaultTokensPath

/-- What a scan visits behind a delivery of the config. -/
def componentVisits : List Visit :=
  [.seen [text "a.css"] (.file [0x61]), .entered [text "styles"],
    .seen [text "styles", Stylesheet.tokensName]
      (.file ((Utf8.encode (Stylesheet.plain pathless)).toOption.getD []))]

/-- The tokens are delivered beside a component, and both can be bundled. -/
theorem deliverAll_withComponent :
    ∃ files delivered,
      Artifact.deliverAll Artifact.atTemplates none pathless withComponent =
        .ok files delivered ∧
      delivered.tree.locate [] components = .ok [text "src"] ∧
      delivered.tree.find? [text "src"] = some .directory ∧
      (∀ entry ∈ delivered.tree.items.entries, entry.1.getLast? = some Stylesheet.tokensName →
        entry.1 = Artifact.tokensWay) ∧
      (delivered.tree.items.entries.flatMap fun entry =>
        if [text "src"].isPrefixOf entry.1 && entry.1 != [text "src"] then
          Visit.ofItem (entry.1.drop [text "src"].length) entry.2
        else []) = componentVisits ∧
      (assemble Artifact.atTemplates distribution [tokensSheet, ofText (text "src/a.css")]).Ends
        delivered (fun _ _ => True) fun _ _ => False := by
  apply Action.Ends.returned
  decide +kernel

/-- The bundle of the tokens and a component opens with the tokens, which a scan visits last. -/
theorem run_opens_with_tokens_component :
    ∃ files delivered bundle ended, up ∉ Artifact.atTemplates.current ∧
      pathless.tokensPath = Config.defaultTokensPath ∧
      Artifact.deliverAll Artifact.atTemplates none pathless withComponent =
        .ok files delivered ∧
      SoleTokens [] delivered.tree ∧
      run Artifact.atTemplates components distribution delivered = .ok bundle ended ∧
      OpensWithTokens [] pathless delivered.tree ended.tree := by
  obtain ⟨files, delivered, wrote, located, directory, tokens, unsorted, assembles⟩ :=
    deliverAll_withComponent
  have sole : SoleTokens [] delivered.tree := by
    intro way content file last
    have member := mem_entries_iff.mpr ⟨by simp [locationOf_components], file⟩
    have here := tokens _ member (by rw [List.getLast?_append, last]; rfl)
    simpa [locationOf_components, Artifact.tokensWay] using here
  have visited : delivered.tree.visitsBelow [text "src"] = componentVisits := by
    unfold visitsBelow
    rw [unsorted]
    exact List.mergeSort_of_pairwise (by decide +kernel)
  have found : delivered.tree.findStylesheets [] components =
      .ok [ofText (text "src/a.css"), tokensSheet] :=
    findStylesheets_of_visitsBelow located directory visited (by decide +kernel)
  have order : Stylesheet.inOrder [ofText (text "src/a.css"), tokensSheet] =
      [tokensSheet, ofText (text "src/a.css")] := by
    obtain ⟨others, order, -⟩ := Stylesheet.inOrder_eq_cons (by decide +kernel)
      (show tokensSheet ∈ [ofText (text "src/a.css"), tokensSheet] by decide +kernel)
      (by decide +kernel) (by decide +kernel)
    have rearranged : (tokensSheet :: others).Perm [ofText (text "src/a.css"), tokensSheet] :=
      order ▸ Stylesheet.inOrder_perm _
    have rest := (List.perm_cons tokensSheet).mp (rearranged.trans (.swap tokensSheet _ []))
    rw [order, List.perm_singleton.mp rest]
  obtain ⟨bundle, ended, assembled, -⟩ := assembles.returned
  have returned : run Artifact.atTemplates components distribution delivered =
      .ok bundle ended := by
    rw [run_of_found found (List.cons_ne_nil _ _), order, assembled]
  exact ⟨files, delivered, bundle, ended, by decide, rfl, wrote, sole, returned,
    run_opens_with_tokens (by decide) rfl wrote sole returned⟩

end Bundle

end DesignTokens
