import CardReader.Proofs.Command.Standby
import CardReader.Proofs.Files

/-!
# Single invocations

An invocation sets up a part from the files, carries out its request on it and saves the array.
What a session does to a part that is kept, request by request, an invocation does to one that has
just been set up.

What is proved here:

* `invoke_eq_success_iff` — an invocation succeeds exactly if its request is attended to on the
  part that it sets up;
* `spares_commandOf` — which files a request leaves alone;
* `stored_of_runs` — after a request the image holds the array of the part that it was carried out
  on, and the next invocation finds the same configuration.
-/

namespace CardReader

open Flash

/-! ## Files that are left alone -/

/-- The interaction leaves a file alone. -/
def Interaction.Spares {α : Type} (path : String) (interaction : Interaction α) : Prop :=
  ∀ files, (interaction.run files).2.2.read path = files.read path

namespace Command

variable {σ α β : Type} {path : String}

/-- The command leaves a file alone. -/
def Spares (path : String) (command : Command σ α) : Prop :=
  ∀ state, (command state).Spares path

theorem Spares.read_eq {command : Command σ α} (h : command.Spares path) {state after : σ}
    {files last : Files} {a : α} {lines : List String}
    (hruns : Runs command state files a after lines last) : last.read path = files.read path := by
  have hlast := h state files
  rwa [show Interaction.run (command state) files = _ from hruns] at hlast

theorem spares_bind {first : Command σ β} {next : β → Command σ α} (hfirst : first.Spares path)
    (hnext : ∀ b, (next b).Spares path) : (first >>= next).Spares path := by
  intro state files
  have hmid := hfirst state files
  rw [← run, run_bind]
  rw [← run] at hmid
  cases hrun : first.run state files with
  | mk answer rest =>
    obtain ⟨outcome, mid⟩ := answer
    rw [hrun] at hmid
    cases outcome with
    | error fault => exact hmid
    | ok b => exact (hnext b mid rest.2).trans hmid

theorem spares_pure (a : α) : (pure a : Command σ α).Spares path := fun _ _ => rfl

theorem spares_throw (fault : CommandFault) : (throw fault : Command σ α).Spares path :=
  fun _ _ => rfl

theorem spares_check (outcome : Except CommandFault Unit) :
    (check outcome : Command σ Unit).Spares path := fun _ _ => rfl

theorem spares_print (line : String) : (print line : Command σ Unit).Spares path := fun _ _ => rfl

theorem spares_forM_print (lines : List String) :
    (lines.forM print : Command σ Unit).Spares path := by
  induction lines with
  | nil => exact spares_pure ()
  | cons line rest ih => exact spares_bind (spares_print line) fun _ => ih

theorem spares_flash (op : Op σ α) : (flash op).Spares path := fun _ _ => rfl

theorem spares_readFile (input : String) :
    (readFile input : Command σ ByteArray).Spares path := fun _ _ => rfl

theorem spares_writeFile {output : String} (h : Files.Spares output path) (contents : ByteArray) :
    (writeFile output contents : Command σ Unit).Spares path := by
  intro state files
  rw [writeFile, Interaction.run]
  cases hwrite : files.write output contents with
  | ok last => exact h files contents last hwrite
  | error fault => rfl

end Command

namespace CommandLine

open Command

variable {shared : Invocation} {config : Part.Config} {image path : String} {request : Request}
  {cells : Part.Cells} {held : StatusRegister → UInt8} {rig after : Rig Part} {part : Part}
  {files last : Files} {lines : List String} {settings : ControllerConfig}

/-! ## Requests -/

/-- A request for the memory of the part: its array and its status registers. -/
def Request.OnMemory : Request → Prop
  | .read .. | .write .. | .erase .. | .status .. => True
  | _ => False

/-- The file that a request puts data into. -/
def Request.output? : Request → Option String
  | .read _ _ output => some output
  | _ => none

/-- The request is one for the memory of the part, and puts its data neither into the image file
nor into the configuration file. -/
structure Request.Apart (shared : Invocation) (image : String) (request : Request) : Prop where
  onMemory : request.OnMemory
  image_spared : ∀ output ∈ request.output?, Files.Spares output image
  config_spared : ∀ path ∈ shared.config, ∀ output ∈ request.output?, Files.Spares output path

theorem spares_commandOf (settings : ControllerConfig) (hmemory : request.OnMemory)
    (houtput : ∀ output ∈ request.output?, Files.Spares output path) :
    (commandOf settings request).Spares path := by
  cases request with
  | read addr len output =>
    exact spares_bind (spares_flash _) fun _ =>
      spares_bind (spares_writeFile (houtput output rfl) _) fun _ => spares_print _
  | write addr input options =>
    refine spares_bind (spares_readFile input) fun contents =>
      spares_bind (spares_print _) fun _ => spares_bind (spares_check _) fun _ => ?_
    have hverify : (verifyRange settings addr contents.data.toList options.cipher :
        Command (Rig Part) Unit).Spares path := by
      refine spares_bind (spares_flash _) fun image => ?_
      cases firstDifference addr contents.data.toList (Cipher.decipher image options.cipher) with
      | none => exact spares_print _
      | some place => exact spares_throw _
    have hrest : (do
        let stats ← flash
          (Controller.program settings addr contents.data.toList options.useDma options.cipher)
        reportProgrammed addr stats
        if options.verify then verifyRange settings addr contents.data.toList options.cipher
          else pure () : Command (Rig Part) Unit).Spares path := by
      refine spares_bind (spares_flash _) fun stats => spares_bind (spares_print _) fun _ => ?_
      cases options.verify with
      | true => exact hverify
      | false => exact spares_pure ()
    cases options.erase with
    | true => exact spares_bind (spares_flash _) fun _ => hrest
    | false => exact hrest
  | erase target =>
    cases target with
    | chip => exact spares_flash _
    | _ => exact spares_bind (spares_flash _) fun _ => spares_print _
  | status register write =>
    have hwrite : (write.forM (writeStatus settings register) :
        Command (Rig Part) Unit).Spares path := by
      cases write with
      | none => exact spares_pure ()
      | some value =>
        change (writeStatus settings register value : Command (Rig Part) Unit).Spares path
        rw [writeStatus]
        split
        · exact spares_throw _
        · exact spares_bind (spares_flash _) fun _ => spares_print _
    exact spares_bind hwrite fun _ => spares_bind (spares_flash _) fun _ => spares_forM_print _
  | _ => exact hmemory.elim

/-! ## Sessions -/

/-- Saves the array of a part to an image file. -/
def saveImage (image : String) : Command (Rig Part) Unit := fun rig =>
  writeFile image rig.bus.cells.bytes rig

/-- Carries out a request on a part that has been configured, and saves the array if the request
modified it. -/
def attend (settings : ControllerConfig) (image : String) (request : Request) :
    Command (Rig Part) Unit := do
  commandOf settings request
  if request.modifies then saveImage image

/-- Configures the controller of a part and carries out requests one after another. -/
def session (settings : ControllerConfig) (image : String) (requests : List Request) :
    Command (Rig Part) Unit := do
  let settings ← flash (Controller.configure settings none)
  requests.forM (attend settings image)

/-- A part whose controller has been configured. -/
def readyOf (settings : ControllerConfig) (part : Part) : Rig Part :=
  (Controller.configure settings none (rigOf part)).2

theorem runs_configure (settings : ControllerConfig) (part : Part) (files : Files) :
    Runs (flash (Controller.configure settings none)) (rigOf part) files settings
      (readyOf settings part) [] files := rfl

/-- A session begins with its first request on a part that has been configured. -/
theorem run_session (settings : ControllerConfig) (image : String) (requests : List Request)
    (part : Part) (files : Files) :
    (session settings image requests).run (rigOf part) files =
      (requests.forM (attend settings image)).run (readyOf settings part) files :=
  run_bind_of_runs (runs_configure settings part files) rfl

theorem run_carryOut (settings : ControllerConfig) (request : Request) (part : Part)
    (files : Files) : (carryOut settings request).run (rigOf part) files =
      (commandOf settings request).run (readyOf settings part) files :=
  run_bind_of_runs (runs_configure settings part files) rfl

theorem runs_saveImage :
    Runs (saveImage image) rig files () after lines last ↔
      files.write image rig.bus.cells.bytes = .ok last ∧ after = rig ∧ lines = [] :=
  runs_writeFile_iff

/-! ## Setting up -/

/-- What an invocation does with the part that it sets up. -/
theorem run_invoke (hconfig : (configOf shared).run files = (.ok config, [], files))
    (hpart : (Part.setUp config).run files = (.ok part, [], files)) (request : Request) :
    (invoke { shared with request }).run files =
      match (carryOut config.controller request).run (rigOf part) files with
      | ((.error fault, _), lines, last) => (.failure fault.message, lines, last)
      | ((.ok (), rig), lines, last) =>
        match (saveAfter request config.image rig.bus).run last with
        | (exit, more, last) => (exit, lines ++ more, last) := by
  have hshared : (configOf { shared with request }).run files = (.ok config, [], files) := hconfig
  rw [invoke, Interaction.run_bind, hshared]
  simp only [Interaction.run_bind, hpart, List.nil_append]
  rw [← Command.run]
  cases hrun : (carryOut config.controller request).run (rigOf part) files with
  | mk answer rest =>
    obtain ⟨outcome, rig⟩ := answer
    cases outcome with
    | ok answer => rfl
    | error fault => exact congrArg (Prod.mk _) (congrArg (·, rest.2) (List.append_nil rest.1))

theorem saveAfter_eq_success_iff (request : Request) (image : String) (rig : Rig Part) :
    (saveAfter request (some image) rig.bus).run files = (.success, lines, last) ↔
      ∃ after, Runs (if request.modifies then saveImage image else pure () :
        Command (Rig Part) Unit) rig files () after lines last := by
  unfold saveAfter
  cases request.modifies with
  | false =>
    constructor
    · intro h
      cases h
      exact ⟨rig, rfl⟩
    · rintro ⟨after, h⟩
      cases h
      rfl
  | true =>
    simp only [if_true, runs_saveImage, Interaction.run_bind, Part.save, Interaction.run]
    cases files.write image rig.bus.cells.bytes with
    | ok saved =>
      constructor
      · intro h
        cases h
        exact ⟨rig, rfl, rfl, rfl⟩
      · rintro ⟨after, hsaved, rfl, rfl⟩
        cases hsaved
        rfl
    | error fault =>
      constructor
      · intro h
        cases h
      · rintro ⟨_, h, -⟩
        cases h

/-- An invocation succeeds exactly if its request is attended to on the part that it sets up. -/
theorem invoke_eq_success_iff (hconfig : (configOf shared).run files = (.ok config, [], files))
    (himage : config.image = some image)
    (hpart : (Part.setUp config).run files = (.ok part, [], files)) :
    (invoke { shared with request }).run files = (.success, lines, last) ↔
      ∃ after, Runs (attend config.controller image request) (readyOf config.controller part) files
        () after lines last := by
  rw [run_invoke hconfig hpart, himage, run_carryOut]
  constructor
  · intro h
    cases hcommand : (commandOf config.controller request).run (readyOf config.controller part)
        files with
    | mk answer rest =>
      obtain ⟨outcome, rig⟩ := answer
      rw [hcommand] at h
      cases outcome with
      | error fault => cases h
      | ok answer =>
        simp only at h
        cases hsave : (saveAfter request (some image) rig.bus).run rest.2 with
        | mk exit saved =>
          rw [hsave] at h
          cases h
          obtain ⟨after, hafter⟩ := (saveAfter_eq_success_iff request image rig).1 hsave
          exact ⟨after, run_bind_of_runs hcommand hafter⟩
  · rintro ⟨after, h⟩
    obtain ⟨_, rig, before, between, more, hcommand, hsave, rfl⟩ := runs_bind.1 h
    rw [hcommand]
    simp only [(saveAfter_eq_success_iff request image rig).2 ⟨after, hsave⟩]

/-! ## Configurations -/

theorem validate_image (config : Part.Config) (image : Option String) :
    ({ config with image } : Part.Config).validate = config.validate := rfl

theorem run_load (path : String) : (Part.Config.load path).run files =
    (((Part.Config.load path).run files).1, [], files) := rfl

theorem load_congr (hsame : last.read path = files.read path) :
    ((Part.Config.load path).run last).1 = ((Part.Config.load path).run files).1 := by
  rw [Part.Config.load, Interaction.run, Interaction.run, hsame]
  rfl

theorem validate_of_load (h : ((Part.Config.load path).run files).1 = .ok config) :
    config.validate = .ok () := by
  rw [Part.Config.load, Interaction.run] at h
  cases hread : files.read path with
  | error fault =>
    rw [hread] at h
    cases h
  | ok bytes =>
    have hbytes : (Except.ok bytes : Except FileFault ByteArray).mapError
        (Part.SetupFault.file path) = .ok bytes := rfl
    rw [hread, hbytes] at h
    simp only [Interaction.run, bind, Except.bind] at h
    cases htext : String.fromUTF8? bytes with
    | none =>
      rw [htext] at h
      cases h
    | some text =>
      rw [htext] at h
      simp only [Part.Config.parse] at h
      cases hparse : (Toml.parse? text).bind Part.Config.ofTable? with
      | none =>
        rw [hparse] at h
        cases h
      | some parsed =>
        rw [hparse] at h
        simp only at h
        cases hvalid : parsed.validate with
        | error defect =>
          rw [hvalid] at h
          cases h
        | ok answer =>
          rw [hvalid] at h
          cases h
          exact hvalid

/-- Only the configuration file decides the configuration. -/
theorem configOf_congr (hsame : ∀ path ∈ shared.config, last.read path = files.read path)
    (hconfig : (configOf shared).run files = (.ok config, [], files)) :
    (configOf shared).run last = (.ok config, [], last) := by
  rw [configOf] at hconfig ⊢
  cases hshared : shared.config with
  | none =>
    rw [hshared] at hconfig
    cases hconfig
    rfl
  | some path =>
    rw [hshared] at hconfig
    simp only [Interaction.run_bind] at hconfig ⊢
    rw [run_load] at hconfig ⊢
    rw [load_congr (hsame path hshared)]
    exact congrArg (fun outcome => (outcome.1, [], last)) hconfig

/-- What is read as a configuration is usable. -/
theorem validate_of_configOf (hconfig : (configOf shared).run files = (.ok config, lines, last)) :
    config.validate = .ok () := by
  rw [configOf] at hconfig
  cases hshared : shared.config with
  | none =>
    rw [hshared] at hconfig
    cases hconfig
    exact (validate_image {} _).trans (Part.Config.validate_eq_ok_iff.2 (by decide))
  | some path =>
    rw [hshared] at hconfig
    simp only [Interaction.run_bind] at hconfig
    rw [run_load] at hconfig
    cases hload : ((Part.Config.load path).run files).1 with
    | error fault =>
      rw [hload] at hconfig
      cases hconfig
    | ok loaded =>
      rw [hload] at hconfig
      cases hconfig
      exact (validate_image loaded _).trans (validate_of_load hload)

/-! ## Images -/

theorem loadImage_eq_ok_iff {bytes : ByteArray} :
    (Part.new config).loadImage bytes = .ok part ↔
      bytes.size ≤ config.size ∧ part = .holding config bytes := by
  have hsize : (Part.new config).cells.size = config.size := Part.Cells.size_erased config.size
  rw [Part.loadImage, hsize]
  by_cases hlarge : config.size < bytes.size
  · rw [if_pos hlarge]
    exact iff_of_false (fun h => by cases h) fun h => Nat.not_lt.2 h.1 hlarge
  · rw [if_neg hlarge]
    constructor
    · intro h
      cases h
      exact ⟨Nat.not_lt.1 hlarge, rfl⟩
    · rintro ⟨-, rfl⟩
      rfl

/-- A part is set up from an image that it can hold. -/
theorem setUp_eq_ok_iff (himage : config.image = some image) :
    (Part.setUp config).run files = (.ok part, [], files) ↔ ∃ bytes, files.read image = .ok bytes ∧
      bytes.size ≤ config.size ∧ part = .holding config bytes := by
  rw [Part.setUp, himage]
  change ((do
      let bytes ← (files.read image).mapError (Part.SetupFault.file image)
      ((Part.new config).loadImage bytes).mapError .image : Except Part.SetupFault Part), [],
    files) = (.ok part, [], files) ↔ _
  cases files.read image with
  | error fault =>
    constructor
    · intro h
      cases h
    · rintro ⟨_, h, -⟩
      cases h
  | ok bytes =>
    change (((Part.new config).loadImage bytes).mapError Part.SetupFault.image, [], files) =
      (.ok part, [], files) ↔ _
    cases hload : (Part.new config).loadImage bytes with
    | error fault =>
      refine iff_of_false (fun h => ?_) ?_
      · cases h
      · rintro ⟨_, hread, hfits⟩
        cases hread
        rw [loadImage_eq_ok_iff.2 hfits] at hload
        cases hload
    | ok loaded =>
      constructor
      · intro h
        cases h
        exact ⟨bytes, rfl, loadImage_eq_ok_iff.1 hload⟩
      · rintro ⟨_, hread, hfits⟩
        cases hread
        rw [loadImage_eq_ok_iff.2 hfits] at hload
        cases hload
        rfl

/-- An image of the whole array is taken as it is. -/
theorem holding_self (cells : Part.Cells) : Part.Cells.holding cells.size cells.bytes = cells := by
  have hempty : Part.Cells.erasedRun 0 = .empty := by decide
  have hsize : cells.bytes.size = cells.size := rfl
  rw [Part.Cells.holding, hsize, if_pos (Nat.le_refl _), Nat.sub_self, hempty,
    ByteArray.append_empty]

/-- The files give the configuration, and an image of the array. -/
structure Stored (shared : Invocation) (config : Part.Config) (image : String) (cells : Part.Cells)
    (files : Files) : Prop where
  configured : (configOf shared).run files = (.ok config, [], files)
  named : config.image = some image
  pictured : ∃ bytes, files.read image = .ok bytes ∧ bytes.size ≤ config.size ∧
    Part.Cells.holding config.size bytes = cells

namespace Stored

theorem setUp_eq (h : Stored shared config image cells files) :
    (Part.setUp config).run files = (.ok { config, cells }, [], files) := by
  obtain ⟨bytes, hread, hsize, rfl⟩ := h.pictured
  exact (setUp_eq_ok_iff h.named).2 ⟨bytes, hread, hsize, rfl⟩

theorem invoke_iff (h : Stored shared config image cells files) :
    (invoke { shared with request }).run files = (.success, lines, last) ↔
      ∃ after, Runs (attend config.controller image request)
        (readyOf config.controller { config, cells }) files () after lines last :=
  invoke_eq_success_iff h.configured h.named h.setUp_eq

theorem readDepth_ne_zero (h : Stored shared config image cells files) : config.readDepth ≠ 0 :=
  (Part.Config.validate_eq_ok_iff.1 (validate_of_configOf h.configured)).2.2.1

/-- What has just been set up and configured is at standby, with empty registers. -/
theorem standby (h : Stored shared config image cells files) (settings : ControllerConfig) :
    Standby config cells (fun _ => 0) (readyOf settings { config, cells }) := by
  have hpower := (Part.Config.validate_eq_ok_iff.1 (validate_of_configOf h.configured)).1
  obtain ⟨bytes, -, -, rfl⟩ := h.pictured
  have hstandby : Standby config (.holding config.size bytes) (fun _ => 0)
      (rigOf (.holding config bytes)) := standby_of_size hpower (Part.Cells.size_holding _ _)
  exact hstandby.idle ⟨_, _, _, _, _, _, rfl⟩ (Nat.le_refl _)

end Stored

/-- A request that does not modify the part leaves its array. -/
theorem cells_of_runs (hdepth : config.readDepth ≠ 0) (hmodifies : request.modifies = false)
    (hmemory : request.OnMemory) (hstandby : Standby config cells held rig)
    (hruns : Runs (commandOf settings request) rig files () after lines last) :
    after.bus.cells = cells := by
  cases request with
  | read addr len output =>
    obtain ⟨data, mid, _, _, _, hflash, hrest, -⟩ := runs_bind.1 hruns
    obtain ⟨_, _, _, _, _, hwrite, hprint, -⟩ := runs_bind.1 hrest
    obtain ⟨-, rfl, -⟩ := runs_writeFile_iff.1 hwrite
    cases hprint
    have hread : (readRange settings addr len).Does config rig _ :=
      does_readRange hstandby hdepth addr len
    rw [Op.Does, Op.Ends, (runs_flash_iff.1 hflash).1] at hread
    obtain ⟨-, -, hafter, -⟩ := hread
    exact hafter.cells_eq
  | status register write =>
    cases write with
    | some value => cases hmodifies
    | none =>
      obtain ⟨shown, hshow, hstandby', -⟩ := runs_status_show files hstandby settings register
      have hsame := hruns.symm.trans hshow
      cases hsame
      exact hstandby'.cells_eq
  | write => cases hmodifies
  | erase => cases hmodifies
  | _ => exact hmemory.elim

/-- After a request that went well the files give the same configuration, and an image of the array
as it is then. -/
theorem stored_of_runs {cells' : Part.Cells} {held' : StatusRegister → UInt8}
    (hstored : Stored shared config image cells files) (hkeeps : Files.Keeps image)
    (hspares : ∀ path ∈ shared.config, Files.Spares image path)
    (hapart : request.Apart shared image) (hstandby : Standby config cells held rig)
    (hruns : Runs (attend settings image request) rig files () after lines last)
    (hafter : Standby config cells' held' after) : Stored shared config image cells' last := by
  obtain ⟨_, mid, before, between, more, hcommand, hsave, -⟩ := runs_bind.1 hruns
  have hconfigured : (configOf shared).run between = (.ok config, [], between) :=
    configOf_congr (fun path hpath => (spares_commandOf settings hapart.onMemory
      (hapart.config_spared path hpath)).read_eq hcommand) hstored.configured
  cases hmodifies : request.modifies with
  | false =>
    rw [hmodifies] at hsave
    cases hsave
    have hcells : cells' = cells := hafter.cells_eq.symm.trans
      (cells_of_runs hstored.readDepth_ne_zero hmodifies hapart.onMemory hstandby hcommand)
    refine ⟨hconfigured, hstored.named, ?_⟩
    rw [hcells, (spares_commandOf settings hapart.onMemory hapart.image_spared).read_eq hcommand]
    exact hstored.pictured
  | true =>
    rw [hmodifies] at hsave
    obtain ⟨hwrite, rfl, -⟩ := runs_saveImage.1 hsave
    have hsize : cells'.size = config.size := hafter.size_eq
    rw [hafter.cells_eq] at hwrite
    refine ⟨configOf_congr (fun path hpath => hspares path hpath _ _ _ hwrite) hconfigured,
      hstored.named, cells'.bytes, hkeeps _ _ _ hwrite, Nat.le_of_eq hsize, ?_⟩
    rw [← hsize]
    exact holding_self cells'

end CommandLine

end CardReader
