import DesignTokens.Artifact.Delivery
import DesignTokens.Proofs.Config.Loading
import DesignTokens.Proofs.FileTree.Clearance

/-!
# The two phases of a delivery

A config is loaded and everything is rendered before the first file is written, so a
run that fails in this phase changes no file. The artifacts are then written one after
the other, and the run returns if none of the writes fails. When one of them does, the
tree is what the writes before it have made of it, with at most some new directories
above the one that failed.
-/

namespace DesignTokens.Artifact

open FileTree

/-- Where an artifact of a config goes from a base directory. -/
def outputIn (base : Path) (config : Config) (artifact : Artifact) : Path :=
  Path.under base (Path.ofText (artifact.outputPath config))

/-- The path and the text of an artifact. -/
def write (base : Path) (config : Config) (snippet : Text) (artifact : Artifact) : Path × Text :=
  (artifact.outputIn base config, artifact.content config snippet)

/-- What has to be known before the first artifact is written: the config, and the
integration snippet. -/
def prepared (setting : Setting) (tree : FileTree) (path : Option Path) :
    Except Failure (Config × Text) := do
  let config <- Config.loaded setting tree path
  let snippet <- Artifact.snippet setting tree
  return (config, snippet)

/-- Rendering every artifact leaves the tree as it is and takes the snippet from it. -/
theorem renderAll_ends (setting : Setting) (config : Config) (session : Session) :
    (renderAll setting config).Ends session
      (fun rendered after => after.tree = session.tree ∧ ∃ snippet,
        Artifact.snippet setting session.tree = .ok snippet ∧ rendered = render config snippet)
      fun failure after => after.tree = session.tree ∧
        Artifact.snippet setting session.tree = .error failure := by
  unfold renderAll
  refine Action.ends_bind.mpr (Action.ends_record ?_)
  refine Action.ends_bind.mpr (Action.ends_record ?_)
  refine Action.ends_bind.mpr (Action.ends_record ?_)
  refine Action.ends_bind.mpr (Action.ends_get ?_)
  refine Action.ends_bind.mpr (Action.ends_require (fun snippet taken => ?_) fun _ failed => ?_)
  · exact Action.ends_pure ⟨rfl, snippet, taken, rfl⟩
  · exact ⟨rfl, failed⟩

/-- A file is recorded for an artifact by its path and by the size of its encoding. -/
def Records (config : Config) (snippet : Text) (file : DeliveredFile) (artifact : Artifact) :
    Prop :=
  file.path = artifact.outputPath config ∧
    ∃ bytes, Utf8.encode (artifact.content config snippet) = .ok bytes ∧ file.size = bytes.length

/-- The bytes of an artifact are the encoding of its text. -/
theorem encode_of_encoded {content : Text} {bytes : Bytes}
    (encoded : Artifact.encoded content = .ok bytes) : Utf8.encode content = .ok bytes := by
  unfold Artifact.encoded at encoded
  cases outcome : Utf8.encode content with
  | error fault =>
      rw [outcome] at encoded
      cases encoded
  | ok spelled =>
      rw [outcome] at encoded
      cases encoded
      rfl

/-- An artifact is written and recorded, or at most directories above it are made. -/
theorem deliver_ends (setting : Setting) (base : Path) (config : Config) (snippet : Text)
    (artifact : Artifact) (session : Session) :
    (deliver setting base (artifact.outputPath config) (artifact.content config snippet)).Ends
      session
      (fun file after => Records config snippet file artifact ∧
        Wrote setting.current (artifact.outputIn base config) (artifact.content config snippet)
          session.tree after.tree)
      fun _ after => GrownAt ((artifact.outputIn base config).above setting.current)
        session.tree after.tree := by
  have grew := grownAt_createDirectories session.tree setting.current
    (artifact.outputIn base config).parent
  unfold deliver
  refine Action.ends_bind.mpr
    (Action.ends_extend (fun grown created => ?_) fun _ grown refused => ?_)
  · have created : session.tree.createDirectories setting.current
        (artifact.outputIn base config).parent = .ok () grown := created
    rw [created] at grew
    refine Action.ends_bind.mpr (Action.ends_require (fun bytes encoded => ?_) fun _ _ => grew)
    refine Action.ends_bind.mpr (Action.ends_change (fun tree written => ?_) fun _ _ => grew)
    have encoding := encode_of_encoded encoded
    refine Action.ends_bind.mpr (Action.ends_record (Action.ends_pure ?_))
    exact ⟨⟨rfl, bytes, encoding, rfl⟩, .of_writeFile encoding created written⟩
  · have refused : session.tree.createDirectories setting.current
        (artifact.outputIn base config).parent = .error _ grown := refused
    rw [refused] at grew
    exact grew

/-- Writes an artifact of a config below a base directory. -/
def put (setting : Setting) (base : Path) (config : Config) (snippet : Text)
    (artifact : Artifact) : Action DeliveredFile :=
  deliver setting base (artifact.outputPath config) (artifact.content config snippet)

/-- Artifacts that are put one after the other are written in order and recorded. -/
theorem wrote_of_put {setting : Setting} {base : Path} {config : Config} {snippet : Text}
    {artifacts : List Artifact} {session after : Session} {files : List DeliveredFile}
    (returned : artifacts.mapM (put setting base config snippet) session = .ok files after) :
    List.Forall₂ (Records config snippet) files artifacts ∧
      WroteInOrder setting.current (artifacts.map (write base config snippet)) session.tree
        after.tree := by
  induction artifacts generalizing session files with
  | nil =>
      cases returned
      exact ⟨.nil, .nil _⟩
  | cons artifact others ih =>
      have first := deliver_ends setting base config snippet artifact session
      cases here : put setting base config snippet artifact session with
      | error failure stopped => cases (Action.mapM_cons_of_failed here).symm.trans returned
      | ok file middle =>
          obtain ⟨recorded, wrote⟩ := first.of_returned here
          rw [Action.mapM_cons_of_returned here] at returned
          cases later : others.mapM (put setting base config snippet) middle with
          | error failure stopped =>
              rw [later] at returned
              cases returned
          | ok rest last =>
              rw [later] at returned
              cases returned
              obtain ⟨records, wroteRest⟩ := ih later
              exact ⟨.cons recorded records, .cons wrote wroteRest⟩

/-- The writes of a config from a base directory, in their order. -/
def writes (base : Path) (config : Config) (snippet : Text) : List (Path × Text) :=
  all.map (write base config snippet)

/-- There are no other artifacts. -/
theorem mem_all (artifact : Artifact) : artifact ∈ all := by
  cases artifact <;> decide

/-- Every artifact is written. -/
theorem write_mem_writes (base : Path) (config : Config) (snippet : Text) (artifact : Artifact) :
    write base config snippet artifact ∈ writes base config snippet :=
  List.mem_map_of_mem artifact.mem_all

/-- With the snippet at hand, delivering a config is to put every artifact, from a session with
the same tree. -/
theorem deliverAll_eq {setting : Setting} {session : Session} {snippet : Text}
    (taken : Artifact.snippet setting session.tree = .ok snippet) (base : Option Path)
    (config : Config) :
    ∃ start : Session, start.tree = session.tree ∧ deliverAll setting base config session =
      all.mapM (put setting (baseDirectory setting base) config snippet) start := by
  have renders := renderAll_ends setting config session
  cases outcome : renderAll setting config session with
  | error failure after => cases taken.symm.trans (renders.of_failed outcome).2
  | ok rendered start =>
      obtain ⟨same, other, again, rfl⟩ := renders.of_returned outcome
      obtain rfl : snippet = other := Except.ok.inj (taken.symm.trans again)
      refine ⟨start, same, (Action.bind_of_returned _ outcome).trans ?_⟩
      rw [render, List.mapM_map]
      rfl

/-- Without the snippet, nothing of a config is delivered. -/
theorem deliverAll_of_snippet_error {setting : Setting} {session : Session} {failure : Failure}
    (missing : Artifact.snippet setting session.tree = .error failure) (base : Option Path)
    (config : Config) :
    ∃ after, deliverAll setting base config session = .error failure after ∧
      after.tree = session.tree := by
  have renders := renderAll_ends setting config session
  cases outcome : renderAll setting config session with
  | error other after =>
      obtain ⟨same, again⟩ := renders.of_failed outcome
      obtain rfl : failure = other := Except.error.inj (missing.symm.trans again)
      exact ⟨after, Action.bind_of_failed _ outcome, same⟩
  | ok rendered start =>
      obtain ⟨-, snippet, taken, -⟩ := renders.of_returned outcome
      cases missing.symm.trans taken

/-- With the snippet at hand, delivering a config ends as the putting of its artifacts does. -/
theorem ends_deliverAll {setting : Setting} {base : Option Path} {config : Config}
    {snippet : Text} {session : Session} {returns : List DeliveredFile -> Session -> Prop}
    {fails : Failure -> Session -> Prop}
    (taken : Artifact.snippet setting session.tree = .ok snippet)
    (each : ∀ middle : Session, middle.tree = session.tree →
      (all.mapM (put setting (baseDirectory setting base) config snippet)).Ends middle returns
        fails) :
    (deliverAll setting base config).Ends session returns fails := by
  obtain ⟨start, same, delivers⟩ := deliverAll_eq taken base config
  unfold Action.Ends
  rw [delivers]
  exact each start same

/-- A delivery that returns has rendered everything and then written it in order. -/
theorem wrote_of_deliverAll {setting : Setting} {base : Option Path} {config : Config}
    {session after : Session} {files : List DeliveredFile}
    (returned : deliverAll setting base config session = .ok files after) :
    ∃ snippet, Artifact.snippet setting session.tree = .ok snippet ∧
      List.Forall₂ (Records config snippet) files all ∧
      WroteInOrder setting.current (writes (baseDirectory setting base) config snippet)
        session.tree after.tree := by
  cases taken : Artifact.snippet setting session.tree with
  | error failure =>
      obtain ⟨stopped, failed, -⟩ := deliverAll_of_snippet_error taken base config
      cases failed.symm.trans returned
  | ok snippet =>
      obtain ⟨start, same, delivers⟩ := deliverAll_eq taken base config
      obtain ⟨records, wrote⟩ := wrote_of_put (delivers.symm.trans returned)
      exact ⟨snippet, rfl, records, same ▸ wrote⟩

/-- Once the config and the snippet are known, a run is to put every artifact, from a session
with the same tree. -/
theorem generate_eq {setting : Setting} {path : Option Path} {session : Session}
    {config : Config} {snippet : Text}
    (found : prepared setting session.tree path = .ok (config, snippet)) (base : Option Path) :
    ∃ start : Session, start.tree = session.tree ∧ generate setting path base session =
      all.mapM (put setting (baseDirectory setting base) config snippet) start := by
  obtain ⟨loaded, known, found⟩ := eq_ok_of_bind found
  obtain ⟨other, taken, both⟩ := eq_ok_of_bind found
  cases both
  have loads := Config.load_ends setting path session
  cases outcome : Config.load setting path session with
  | error failure after => cases known.symm.trans (loads.of_failed outcome).2
  | ok again middle =>
      obtain ⟨same, loaded⟩ := loads.of_returned outcome
      cases known.symm.trans loaded
      obtain ⟨start, kept, delivers⟩ := deliverAll_eq (same ▸ taken) base config
      exact ⟨start, kept.trans same, (Action.bind_of_returned _ outcome).trans delivers⟩

/-- While the config or the snippet cannot be known, a run fails for that and changes nothing. -/
theorem generate_of_prepared_error {setting : Setting} {path : Option Path} {session : Session}
    {failure : Failure} (unknown : prepared setting session.tree path = .error failure)
    (base : Option Path) :
    ∃ after, generate setting path base session = .error failure after ∧
      after.tree = session.tree := by
  have loads := Config.load_ends setting path session
  unfold prepared at unknown
  cases outcome : Config.load setting path session with
  | error other after =>
      obtain ⟨same, failed⟩ := loads.of_failed outcome
      rw [failed] at unknown
      cases unknown
      exact ⟨after, Action.bind_of_failed _ outcome, same⟩
  | ok config middle =>
      obtain ⟨same, loaded⟩ := loads.of_returned outcome
      rw [loaded, ok_bind] at unknown
      cases missing : Artifact.snippet setting session.tree with
      | ok snippet =>
          rw [missing] at unknown
          cases unknown
      | error other =>
          rw [missing] at unknown
          cases unknown
          obtain ⟨after, failed, kept⟩ := deliverAll_of_snippet_error (same ▸ missing) base config
          exact ⟨after, (Action.bind_of_returned _ outcome).trans failed, kept.trans same⟩

/-- A run that returns has prepared a config and the snippet and written every artifact in
order. -/
theorem wrote_of_generate {setting : Setting} {path base : Option Path} {session after : Session}
    {files : List DeliveredFile} (returned : generate setting path base session = .ok files after) :
    ∃ config snippet, prepared setting session.tree path = .ok (config, snippet) ∧
      List.Forall₂ (Records config snippet) files all ∧
      WroteInOrder setting.current (writes (baseDirectory setting base) config snippet)
        session.tree after.tree := by
  cases found : prepared setting session.tree path with
  | error failure =>
      obtain ⟨stopped, failed, -⟩ := generate_of_prepared_error found base
      cases failed.symm.trans returned
  | ok both =>
      obtain ⟨config, snippet⟩ := both
      obtain ⟨start, same, puts⟩ := generate_eq found base
      obtain ⟨records, wrote⟩ := wrote_of_put (puts.symm.trans returned)
      exact ⟨config, snippet, rfl, records, same ▸ wrote⟩

/-- A run that fails before its first write leaves the tree as it is. Otherwise it starts to
write from that tree, and it returns exactly when no write fails where those before it end.
A run that returns leaves what all writes make of the tree, and nothing else but new
directories above them is different. A run that fails does so at a write of its own that
fails, from what the writes before it made of the tree; it leaves that, with at most some new
directories above the one that failed: every file holds what it held then, and nothing is
taken out. -/
theorem generate_two_phases (setting : Setting) (path base : Option Path) (session : Session) :
    match prepared setting session.tree path with
    | .error failure => ∃ after, generate setting path base session = .error failure after ∧
        after.tree = session.tree
    | .ok (config, snippet) =>
        let ordered := writes (baseDirectory setting base) config snippet
        let step := put setting (baseDirectory setting base) config snippet
        ∃ start : Session, start.tree = session.tree ∧
          ((∃ files after, generate setting path base session = .ok files after) ↔
            ∀ done next rest files middle, all = done ++ next :: rest →
              done.mapM step start = .ok files middle →
              ∃ file after, step next middle = .ok file after) ∧
          (generate setting path base).Ends session
            (fun _ after => WroteInOrder setting.current ordered session.tree after.tree ∧
              ∀ asked, after.tree.find? asked = session.tree.find? asked ∨
                (∃ write ∈ ordered, asked = write.1.locationOf setting.current) ∨
                (∃ write ∈ ordered, asked ∈ write.1.above setting.current) ∧
                  session.tree.find? asked = none ∧ after.tree.find? asked = some .directory)
            fun failure after => ∃ done next rest files middle, all = done ++ next :: rest ∧
              done.mapM step start = .ok files middle ∧ step next middle = .error failure after ∧
              WroteInOrder setting.current
                (done.map (write (baseDirectory setting base) config snippet)) session.tree
                middle.tree ∧
              GrownAt ((next.outputIn (baseDirectory setting base) config).above setting.current)
                middle.tree after.tree ∧
              (∀ asked content, after.tree.find? asked = some (.file content) ↔
                middle.tree.find? asked = some (.file content)) ∧
              ∀ asked, session.tree.find? asked ≠ none → after.tree.find? asked ≠ none := by
  cases found : prepared setting session.tree path with
  | error failure => exact generate_of_prepared_error found base
  | ok both =>
      obtain ⟨config, snippet⟩ := both
      obtain ⟨start, same, puts⟩ := generate_eq found base
      refine ⟨start, same, puts ▸ Action.mapM_returns_iff, ?_⟩
      unfold Action.Ends
      rw [puts]
      cases outcome : all.mapM (put setting (baseDirectory setting base) config snippet) start with
      | ok files after =>
          have wrote := (wrote_of_put outcome).2
          rw [same] at wrote
          exact ⟨wrote, wrote.unchanged_or⟩
      | error failure after =>
          obtain ⟨done, next, rest, files, middle, split, before, stops⟩ :=
            Action.mapM_error_iff.mp outcome
          have wrote := (wrote_of_put before).2
          rw [same] at wrote
          have grew := (deliver_ends setting (baseDirectory setting base) config snippet next
            middle).of_failed stops
          exact ⟨done, next, rest, files, middle, split, before, stops, wrote, grew,
            fun _ _ => grew.file_iff,
            fun _ stood => grew.keeps_standing (wrote.keeps_standing stood)⟩

variable {setting : Setting} {config : Config} {snippet : Text} {session : Session}

/-- An artifact with an encoding and nothing in the way is put. -/
theorem put_of_clear {base : Path} {artifact : Artifact}
    (clear : Clear setting.current (artifact.outputIn base config) session.tree)
    (apart : (artifact.outputIn base config).locationOf setting.current ∉
      (artifact.outputIn base config).above setting.current)
    (encodes : ∃ bytes, Utf8.encode (artifact.content config snippet) = .ok bytes) :
    (put setting base config snippet artifact).Ends session (fun _ _ => True)
      fun _ _ => False := by
  obtain ⟨grown, created⟩ := clear.createDirectories
  obtain ⟨spelled, encoding⟩ := encodes
  have spells : encoded (artifact.content config snippet) = .ok spelled := by
    unfold encoded
    rw [encoding]
    rfl
  unfold put deliver
  refine Action.ends_bind.mpr (Action.ends_extend (fun made done => ?_) fun _ _ refused => ?_)
  · cases created.symm.trans done
    refine Action.ends_bind.mpr (Action.ends_require (fun bytes _ => ?_) fun _ failed => ?_)
    · refine Action.ends_bind.mpr (Action.ends_change (fun tree _ => ?_) fun _ refused => ?_)
      · exact Action.ends_bind.mpr (Action.ends_record (Action.ends_pure trivial))
      · obtain ⟨after, written⟩ := clear.writeFile apart created bytes
        cases refused.symm.trans written
    · cases failed.symm.trans spells
  · cases created.symm.trans refused

/-- Every artifact has an encoding and nothing is in its way. -/
def Unobstructed (setting : Setting) (base : Path) (config : Config) (snippet : Text)
    (session : Session) : Prop :=
  AllClear setting.current (writes base config snippet) session.tree

/-- All artifacts are written where nothing is in the way of any. -/
theorem deliverAll_of_unobstructed {base : Option Path}
    (taken : Artifact.snippet setting session.tree = .ok snippet)
    (clear : Unobstructed setting (baseDirectory setting base) config snippet session) :
    ∃ files after, deliverAll setting base config session = .ok files after := by
  have ends : (deliverAll setting base config).Ends session (fun _ _ => True)
      fun _ _ => False := by
    refine ends_deliverAll taken fun middle same => ?_
    have start : Unobstructed setting (baseDirectory setting base) config snippet middle := by
      rw [Unobstructed, same]
      exact clear
    -- All of them stay so while one is written, whichever it is.
    refine (Action.ends_mapM start fun artifact _ before each => ?_).imp
      (fun _ _ _ => trivial) fun _ _ => id
    have member := write_mem_writes (baseDirectory setting base) config snippet artifact
    have able := put_of_clear (each.clear _ member) (each.apart _ member _ member)
      (each.encoded _ member)
    have wrote := deliver_ends setting (baseDirectory setting base) config snippet artifact before
    refine (able.and wrote).imp (fun file after returned => ?_) fun _ _ failed => failed.1
    exact each.kept member returned.2.2
  obtain ⟨files, after, returned, -⟩ := ends.returned
  exact ⟨files, after, returned⟩

end DesignTokens.Artifact
