import CardReader.Proofs.CommandLine.Invocations

/-!
# Invocations one after another

A series of invocations that share a configuration and an image file sets up a part for each of
them.  A session carries out the same requests on one part.  The image hands the array on from one
invocation to the next, but nothing hands on the status registers, which a part that has just been
set up holds at zero.

What is proved here:

* `comes_attend` — one request on a part with some registers and on one with others;
* `comes_forM_attend` — a series of invocations and the session of the same requests, whatever the
  registers hold when the session begins;
* `runs_forM_written_shown` and `series_written_shown` — a register that is written and then shown,
  by a session and by two invocations;
* `session_of_series` — a series and its session leave the same files, and print the same exactly
  if no register is shown that holds something.
-/

namespace CardReader.CommandLine

open Flash Command

variable {shared : Invocation} {config : Part.Config} {image : String} {request : Request}
  {cells : Part.Cells} {held other : StatusRegister → UInt8} {first rig after : Rig Part}
  {part : Part} {files last : Files} {told : List String} {settings : ControllerConfig}

/-! ## Series -/

/-- Invocations one after another that differ in their requests: the lines that they print and the
files that they leave, if all of them succeed. -/
def series (shared : Invocation) : List Request → Files → Option (List String × Files)
  | [], files => some ([], files)
  | request :: rest, files =>
    match (invoke { shared with request }).run files with
    | (.success, lines, files) =>
      (series shared rest files).map fun (more, last) => (lines ++ more, last)
    | _ => none

/-- What the status registers hold after a request. -/
def Request.leaves (held : StatusRegister → UInt8) : Request → StatusRegister → UInt8
  | .status register (some value) => Part.written register (UInt16.ofNat value) held
  | _ => held

/-- Whenever a register is shown, the requests before have left nothing in it. -/
def ShowsBlank (held : StatusRegister → UInt8) (requests : List Request) : Prop :=
  ∀ before register after, requests = before ++ .status register none :: after →
    before.foldl Request.leaves held register = 0

theorem showsBlank_cons {rest : List Request} : ShowsBlank held (request :: rest) ↔
    (∀ register, request = .status register none → held register = 0) ∧
      ShowsBlank (request.leaves held) rest := by
  constructor
  · intro h
    refine ⟨fun register hshow => h [] register rest (by rw [hshow]; rfl), ?_⟩
    intro before register after hrest
    exact h (request :: before) register after (by rw [hrest]; rfl)
  · rintro ⟨hshow, hrest⟩ before register after hsplit
    cases before with
    | nil => exact hshow register (List.cons.inj hsplit).1
    | cons next before =>
      obtain ⟨rfl, htail⟩ := List.cons.inj hsplit
      exact hrest before register after htail

/-! ## One request -/

theorem apart_status (register : StatusRegister) (write : Option Nat) :
    (Request.status register write).Apart shared image where
  onMemory := trivial
  image_spared := fun _ h => by cases h
  config_spared := fun _ _ _ h => by cases h

theorem determined_saveImage (config : Part.Config) (image : String) :
    Determined config (saveImage image) := by
  intro cells files
  obtain ⟨outcome, houtcome⟩ := determined_writeFile image cells.bytes cells files
  refine ⟨outcome, fun held rig hstandby => ?_⟩
  have hcomes := houtcome held rig hstandby
  rw [← hstandby.cells_eq] at hcomes
  exact hcomes

/-- What comes of a request that does not just show a register is settled by the array and the
files. -/
theorem comes_attend_of_ne (hdepth : config.readDepth ≠ 0) (settings : ControllerConfig)
    (image : String) (hmemory : request.OnMemory)
    (hshow : ∀ register, request ≠ .status register none) (cells : Part.Cells) (files : Files) :
    ∃ outcome, ∀ held rig, Standby config cells held rig →
      (attend settings image request).Comes config (request.leaves held) rig files outcome := by
  cases request with
  | read addr len output =>
    exact determined_bind (determined_read hdepth settings addr len output)
      (fun _ => determined_pure ()) cells files
  | write addr input options =>
    exact determined_bind (determined_write hdepth settings addr input options)
      (fun _ => determined_saveImage config image) cells files
  | erase target =>
    exact determined_bind (determined_erase settings target)
      (fun _ => determined_saveImage config image) cells files
  | status register write =>
    cases write with
    | none => exact absurd rfl (hshow register)
    | some value =>
      obtain ⟨outcome, houtcome⟩ := comes_status_write config settings register value cells files
      choose more hmore using fun before : Outcome Unit =>
        determined_saveImage config image before.cells before.files
      exact ⟨_, fun held rig hstandby => comes_bind more (houtcome held rig hstandby)
        fun before _ r hrest => hmore before _ r hrest⟩
  | _ => exact hmemory.elim

/-- A register is shown. -/
theorem runs_attend_show (hstandby : Standby config cells held rig) (settings : ControllerConfig)
    (image : String) (register : StatusRegister) (files : Files) : ∃ shown,
    Runs (attend settings image (.status register none)) rig files () shown
        (describeStatus register (held register)) files ∧
      Standby config cells held shown ∧ shown.clock.now = rig.clock.now := by
  obtain ⟨shown, hruns, hshown⟩ := runs_status_show files hstandby settings register
  exact ⟨shown, runs_bind_of_silent hruns (runs_pure ()), hshown⟩

/-- A request does the same to the files and to the array whatever the registers hold, and prints
the same unless it shows a register that holds something else. -/
theorem comes_attend (hdepth : config.readDepth ≠ 0) (hmemory : request.OnMemory)
    (hfirst : Standby config cells other first)
    (hruns : Runs (attend settings image request) first files () after told last)
    (held : StatusRegister → UInt8) : ∃ said cells',
    (∀ rig, Standby config cells held rig → (attend settings image request).Comes config
        (request.leaves held) rig files (some ⟨(), said, cells', last⟩)) ∧
      Standby config cells' (request.leaves other) after ∧ said.length = told.length ∧
      (said = told ↔ ∀ register, request = .status register none →
        held register = other register) := by
  by_cases hshow : ∃ register, request = .status register none
  · obtain ⟨register, rfl⟩ := hshow
    obtain ⟨shown, hfirstRuns, hshown, -⟩ := runs_attend_show hfirst settings image register files
    cases hruns.symm.trans hfirstRuns
    refine ⟨describeStatus register (held register), cells, fun rig hstandby => ?_, hshown,
      length_describeStatus register _ _, ?_⟩
    · obtain ⟨seen, hrigRuns, hseen, -⟩ :=
        runs_attend_show hstandby settings image register files
      exact comes_of_runs hrigRuns hseen
    · rw [describeStatus_inj]
      constructor
      · intro h register' heq
        cases heq
        exact h
      · exact fun h => h register rfl
  · have hne : ∀ register, request ≠ .status register none := fun register h => hshow ⟨register, h⟩
    obtain ⟨outcome, houtcome⟩ := comes_attend_of_ne hdepth settings image hmemory hne cells files
    obtain ⟨cells', rfl, hafter⟩ := (houtcome other first hfirst).of_runs hruns
    exact ⟨told, cells', houtcome held, hafter, rfl,
      iff_of_true rfl fun register h => absurd h (hne register)⟩

/-! ## Sessions -/

/-- A session does to the files what a series of invocations does, whatever its part holds in its
registers when it begins. -/
theorem comes_forM_attend (hkeeps : Files.Keeps image)
    (hspares : ∀ path ∈ shared.config, Files.Spares image path) :
    ∀ (requests : List Request) {cells : Part.Cells} {files last : Files} {told : List String}
      (held : StatusRegister → UInt8),
      (∀ request ∈ requests, request.Apart shared image) →
      Stored shared config image cells files →
      series shared requests files = some (told, last) → ∃ said cells',
      (∀ rig, Standby config cells held rig →
          (requests.forM (attend config.controller image)).Comes config
            (requests.foldl Request.leaves held) rig files (some ⟨(), said, cells', last⟩)) ∧
        Stored shared config image cells' last ∧ said.length = told.length ∧
        (said = told ↔ ShowsBlank held requests) := by
  intro requests
  -- Before every request the image holds the array of the part that is kept, so that the part which
  -- the invocation sets up has the same; only the registers of the two go ways of their own.
  induction requests with
  | nil =>
    intro cells files last told held _ hstored hseries
    cases hseries
    refine ⟨[], cells, fun rig hstandby => comes_of_runs (runs_pure ()) hstandby, hstored, rfl,
      iff_of_true rfl ?_⟩
    intro before register after hsplit
    cases before <;> cases hsplit
  | cons request rest ih =>
    intro cells files last told held hapart hstored hseries
    have hrequest := hapart request List.mem_cons_self
    rw [series] at hseries
    cases hinvoke : (invoke { shared with request }).run files with
    | mk exit printed =>
      obtain ⟨lines, mid⟩ := printed
      rw [hinvoke] at hseries
      cases exit with
      | failure report => cases hseries
      | misuse reason => cases hseries
      | success =>
        obtain ⟨⟨more, last'⟩, hrest, heq⟩ := Option.map_eq_some_iff.1 hseries
        cases heq
        have hready := hstored.standby config.controller
        obtain ⟨done, hattend⟩ := hstored.invoke_iff.1 hinvoke
        obtain ⟨said, between, hcomes, hdone, hlength, hsame⟩ :=
          comes_attend hstored.readDepth_ne_zero hrequest.onMemory hready hattend held
        have hmid := stored_of_runs hstored hkeeps hspares hrequest hready hattend hdone
        obtain ⟨saidMore, cells', hcomesMore, hlast, hlengthMore, hsameMore⟩ :=
          ih (request.leaves held) (fun next hnext => hapart next (List.mem_cons_of_mem _ hnext))
            hmid hrest
        refine ⟨said ++ saidMore, cells', fun rig hstandby => ?_, hlast, ?_, ?_⟩
        · refine comes_bind (fun _ => some ⟨(), saidMore, cells', last⟩) (hcomes rig hstandby) ?_
          intro before hbefore r hr
          cases hbefore
          exact hcomesMore r hr
        · rw [List.length_append, List.length_append, hlength, hlengthMore]
        · rw [showsBlank_cons, ← hsame, ← hsameMore]
          exact ⟨fun h => List.append_inj h hlength, fun h => by rw [h.1, h.2]⟩

/-! ## A register that is written and then shown -/

/-- An invocation that succeeds is the first of a series. -/
theorem series_cons {between : Files} (rest : List Request)
    (hstored : Stored shared config image cells files)
    (hruns : Runs (attend config.controller image request)
      (readyOf config.controller { config, cells }) files () after told between) :
    series shared (request :: rest) files =
      (series shared rest between).map fun more => (told ++ more.1, more.2) := by
  rw [series, hstored.invoke_iff.2 ⟨after, hruns⟩]

/-- A range is read into a file. -/
theorem runs_attend_read (hstandby : Standby config cells held rig) (hdepth : config.readDepth ≠ 0)
    (addr len : Nat) {output : String} (hrange : checkRange addr len = .ok ())
    (hmode : settings.readMode.check (Part.new config).features = .ok ())
    (hwrite : files.write output ⟨(cells.slice addr len).toArray⟩ = .ok last) : ∃ after,
    Runs (attend settings image (.read addr len output)) rig files () after
        ["Wrote " ++ toString len ++ " bytes to " ++ Quoted.quote output] last ∧
      Standby config cells held after ∧ after.clock.now = rig.clock.now := by
  have hread : (readRange settings addr len).Does config rig _ :=
    does_readRange hstandby hdepth addr len
  obtain ⟨after, hrun, hafter, hnow⟩ := hread.exists_ok ⟨hrange, .inr hmode⟩ rig.clock.now_le
  have hlength : (cells.slice addr len).length = len := by simp [Part.Cells.slice]
  have hcommand : Runs (Command.read settings addr len output) rig files () after
      ["Wrote " ++ toString (cells.slice addr len).length ++ " bytes to " ++ Quoted.quote output]
      last :=
    run_bind_of_runs (runs_flash hrun)
      (run_bind_of_runs (runs_writeFile_iff.2 ⟨hwrite, rfl, rfl⟩) (runs_print _))
  rw [hlength] at hcommand
  exact ⟨after, runs_bind_of_silent hcommand (runs_pure ()), hafter, hnow⟩

/-- A register is written, and the array saved. -/
theorem runs_attend_write (hstandby : Standby config cells held rig) (register : StatusRegister)
    (value : Nat) (hvalue : ¬Unsigned.greatest 16 < value)
    (hreaches : settings.poll.Reaches config.writeStatusTime)
    (hclock : rig.clock.now + settings.poll.span config.writeStatusTime ≤ lastInstant)
    (hwrite : files.write image cells.bytes = .ok last) : ∃ after,
    Runs (attend settings image (.status register (some value))) rig files () after
        (describeWritten register value) last ∧
      Standby config cells (Part.written register (UInt16.ofNat value) held) after ∧
      after.clock.now = rig.clock.now + settings.poll.span config.writeStatusTime := by
  obtain ⟨after, hruns, hafter, hnow⟩ :=
    runs_status_write hstandby register hvalue hreaches hclock
  have hsave : Runs (saveImage image) after files () after [] last :=
    runs_saveImage.2 ⟨by rw [hafter.cells_eq, hwrite], rfl, rfl⟩
  exact ⟨after, runs_bind_of_silent hruns hsave, hafter, hnow⟩

/-- The lines about a register that is written and then found to hold a byte. -/
def describeWrittenShown (register : StatusRegister) (value : Nat) (found : UInt8) : List String :=
  describeWritten register value ++ describeStatus register found

/-- A part that is kept shows a register as it has been written. -/
theorem runs_forM_written_shown (hstandby : Standby config cells held rig)
    (register : StatusRegister) (value : Nat) (hvalue : ¬Unsigned.greatest 16 < value)
    (hreaches : settings.poll.Reaches config.writeStatusTime)
    (hclock : rig.clock.now + settings.poll.span config.writeStatusTime ≤ lastInstant)
    (hwrite : files.write image cells.bytes = .ok last) : ∃ after,
    Runs ([Request.status register (some value), .status register none].forM
        (attend settings image)) rig files () after (describeWrittenShown register value
          (Part.storable register (UInt16.ofNat value).toUInt8)) last ∧
      after.clock.now = rig.clock.now + settings.poll.span config.writeStatusTime := by
  obtain ⟨mid, hwrites, hmid, hmidNow⟩ :=
    runs_attend_write hstandby register value hvalue hreaches hclock hwrite
  obtain ⟨after, hshows, -, hnow⟩ := runs_attend_show hmid settings image register last
  rw [written_self] at hshows
  exact ⟨after, run_bind_of_runs hwrites (runs_bind_of_silent hshows (runs_pure ())),
    hnow.trans hmidNow⟩

/-- The next invocation shows the register as zero. -/
theorem series_written_shown (hstored : Stored shared config image cells files)
    (hkeeps : Files.Keeps image) (hspares : ∀ path ∈ shared.config, Files.Spares image path)
    (register : StatusRegister) (value : Nat) (hvalue : ¬Unsigned.greatest 16 < value)
    (hreaches : config.controller.poll.Reaches config.writeStatusTime)
    (hclock : config.controller.poll.span config.writeStatusTime ≤ lastInstant)
    (hwrite : files.write image cells.bytes = .ok last) :
    series shared [.status register (some value), .status register none] files =
      some (describeWrittenShown register value 0, last) := by
  have hready := hstored.standby config.controller
  obtain ⟨mid, hwrites, hmid, -⟩ := runs_attend_write hready register value hvalue hreaches
    (le_of_eq_of_le (Nat.zero_add _) hclock) hwrite
  have hnext : Stored shared config image cells last :=
    stored_of_runs hstored hkeeps hspares (apart_status register _) hready hwrites hmid
  obtain ⟨shown, hshows, -⟩ := runs_attend_show (hnext.standby config.controller)
    config.controller image register last
  rw [series_cons _ hstored hwrites, series_cons _ hnext hshows, series, Option.map_some,
    Option.map_some, List.append_nil]
  rfl

/-- Files with an empty image and others beside it. -/
def emptyImage (data : List (List String × ByteArray)) : Files :=
  { entries := (["flash.img"], .empty) :: data }

/-- What invocations share that name the image alone. -/
def imageOnly : Invocation := { config := none, image := some "flash.img", request := .identify }

/-- Their configuration. -/
def imageConfig : Part.Config := { image := some "flash.img" }

/-- The files once the empty image has been saved. -/
def savedImage (data : List (List String × ByteArray)) : Files :=
  { entries := (["flash.img"], (Part.Cells.holding imageConfig.size .empty).bytes) :: data }

/-- Quad enable is set, and the register shown. -/
def quadEnable : List Request := [.status .two (some 2), .status .two none]

theorem plain_flash : Files.Plain "flash.img" :=
  ⟨by decide, by decide, by decide, by decide, by decide, by decide⟩

theorem plain_out : Files.Plain "out.bin" :=
  ⟨by decide, by decide, by decide, by decide, by decide, by decide⟩

theorem stored_emptyImage (data : List (List String × ByteArray)) :
    Stored imageOnly imageConfig "flash.img" (.holding imageConfig.size .empty) (emptyImage data) :=
  ⟨rfl, rfl, .empty, rfl, Nat.zero_le _, rfl⟩

theorem write_emptyImage (data : List (List String × ByteArray)) :
    (emptyImage data).write "flash.img" (Part.Cells.holding imageConfig.size .empty).bytes =
      .ok (savedImage data) := by
  have hwrite (contents : ByteArray) : (emptyImage data).write "flash.img" contents =
      .ok { entries := (["flash.img"], contents) :: data } := rfl
  exact hwrite _

theorem series_quadEnable (data : List (List String × ByteArray)) :
    series imageOnly quadEnable (emptyImage data) = some (["Wrote 0x02 to SR2",
      "SR2: 0x02 (00000010)", "  QE=true SUS=false",
      "SR2: 0x00 (00000000)", "  QE=false SUS=false"], savedImage data) := by
  have hlines : describeWrittenShown .two 2 0 = ["Wrote 0x02 to SR2", "SR2: 0x02 (00000010)",
      "  QE=true SUS=false", "SR2: 0x00 (00000000)", "  QE=false SUS=false"] := by decide +kernel
  rw [← hlines]
  exact series_written_shown (stored_emptyImage data) (Files.keeps_of_plain plain_flash)
    (fun _ h => by cases h) .two 2 (by decide) (by decide) (by decide) (write_emptyImage data)

theorem runs_quadEnable (data : List (List String × ByteArray))
    (hstandby : Standby imageConfig (.holding imageConfig.size .empty) held rig)
    (hstart : rig.clock.now = 0) : ∃ after,
    Runs (quadEnable.forM (attend imageConfig.controller "flash.img")) rig (emptyImage data) ()
      after ["Wrote 0x02 to SR2", "SR2: 0x02 (00000010)", "  QE=true SUS=false",
        "SR2: 0x02 (00000010)", "  QE=true SUS=false"] (savedImage data) ∧
    after.clock.now ≠ lastInstant := by
  have hlines : describeWrittenShown .two 2 (Part.storable .two (UInt16.ofNat 2).toUInt8) =
      ["Wrote 0x02 to SR2", "SR2: 0x02 (00000010)", "  QE=true SUS=false",
        "SR2: 0x02 (00000010)", "  QE=true SUS=false"] := by decide +kernel
  have hreaches : imageConfig.controller.poll.Reaches imageConfig.writeStatusTime := by decide
  have hspan : rig.clock.now + imageConfig.controller.poll.span imageConfig.writeStatusTime ≤
      lastInstant := by
    rw [hstart]
    decide
  rw [← hlines]
  obtain ⟨after, hruns, hnow⟩ := runs_forM_written_shown hstandby .two 2 (by decide) hreaches hspan
    (write_emptyImage data)
  refine ⟨after, hruns, ?_⟩
  rw [hnow, hstart]
  decide

/-! ## Series and sessions -/

/-- A series of invocations leaves the same files as the session of its requests on one part, whose
array the image holds at the end.  They print the same exactly if no register is shown that holds
something.  It takes an image file that gives back what was written to it last, and data files
beside it and beside the configuration. -/
theorem session_of_series {requests : List Request}
    (hconfig : (configOf shared).run files = (.ok config, [], files))
    (himage : config.image = some image)
    (hpart : (Part.setUp config).run files = (.ok part, [], files)) (hkeeps : Files.Keeps image)
    (hspares : ∀ path ∈ shared.config, Files.Spares image path)
    (hapart : ∀ request ∈ requests, request.Apart shared image)
    (hseries : series shared requests files = some (told, last))
    (hclock : ((session config.controller image requests).run (rigOf part)
      files).1.2.clock.now ≠ lastInstant) : ∃ after said bytes,
      Runs (session config.controller image requests) (rigOf part) files () after said last ∧
        last.read image = .ok bytes ∧
        after.bus.cells = .holding config.size bytes ∧
        (said = told ↔ ShowsBlank (fun _ => 0) requests) := by
  obtain ⟨bytes, hread, hfits, rfl⟩ := (setUp_eq_ok_iff himage).1 hpart
  have hstored : Stored shared config image (.holding config.size bytes) files :=
    ⟨hconfig, himage, bytes, hread, hfits, rfl⟩
  obtain ⟨said, cells, hcomes, hlast, -, hsame⟩ :=
    comes_forM_attend hkeeps hspares requests (fun _ => 0) hapart hstored hseries
  rw [run_session] at hclock
  obtain ⟨after, hruns, hafter⟩ := (hcomes _ (hstored.standby config.controller)).runs hclock
  rw [Runs, ← run_session] at hruns
  obtain ⟨bytes', hread', -, hcells⟩ := hlast.pictured
  exact ⟨after, said, bytes', hruns, hread', hafter.cells_eq.trans hcells.symm, hsame⟩

/-- Invocations that read the array, set quad enable and show it, beside their session. -/
theorem session_of_quadEnable : ∃ part told last after said bytes,
    let requests : List Request := .read 0 4 "out.bin" :: quadEnable
    (Part.setUp imageConfig).run (emptyImage []) = (.ok part, [], emptyImage []) ∧
    series imageOnly requests (emptyImage []) = some (told, last) ∧
    Runs (session imageConfig.controller "flash.img" requests) (rigOf part) (emptyImage []) () after
      said last ∧
    last.read "flash.img" = .ok bytes ∧ after.bus.cells = .holding imageConfig.size bytes ∧
    (said = told ↔ ShowsBlank (fun _ => 0) requests) := by
  have hstored := stored_emptyImage []
  have hready := hstored.standby imageConfig.controller
  have hwrite (contents : ByteArray) : (emptyImage []).write "out.bin" contents =
      .ok (emptyImage [(["out.bin"], contents)]) := rfl
  have hmode : imageConfig.controller.readMode.check (Part.new imageConfig).features = .ok () := rfl
  obtain ⟨mid, hread, hmid, hmidNow⟩ := runs_attend_read hready hstored.readDepth_ne_zero 0 4
    (checkRange_eq_ok_iff.2 (by decide)) hmode (hwrite _)
  obtain ⟨after, hrest, hnow⟩ := runs_quadEnable _ hmid hmidNow
  have hapart : ∀ request ∈ Request.read 0 4 "out.bin" :: quadEnable,
      request.Apart imageOnly "flash.img" := by
    intro request hmem
    simp only [quadEnable, List.mem_cons, List.not_mem_nil, or_false] at hmem
    rcases hmem with rfl | rfl | rfl
    · refine ⟨trivial, ?_, fun _ h => by cases h⟩
      rintro _ ⟨⟩
      exact Files.spares_of_plain plain_out plain_flash (by decide)
    · exact apart_status _ _
    · exact apart_status _ _
  have hseries := series_cons quadEnable hstored hread
  rw [series_quadEnable, Option.map_some] at hseries
  have hruns : Runs ((Request.read 0 4 "out.bin" :: quadEnable).forM
      (attend imageConfig.controller "flash.img")) (readyOf imageConfig.controller _)
      (emptyImage []) () after (_ ++ _) _ := run_bind_of_runs hread hrest
  obtain ⟨after', said, bytes, hsession⟩ := session_of_series hstored.configured rfl
    hstored.setUp_eq (Files.keeps_of_plain plain_flash) (fun _ h => by cases h) hapart hseries
    (by rw [run_session, hruns]; exact hnow)
  exact ⟨_, _, _, after', said, bytes, hstored.setUp_eq, hseries, hsession⟩

/-- Quad enable is set in one invocation, and gone in the next one. -/
theorem register_lost_between_invocations : ∃ part last after,
    (configOf imageOnly).run (emptyImage []) = (.ok imageConfig, [], emptyImage []) ∧
    (Part.setUp imageConfig).run (emptyImage []) = (.ok part, [], emptyImage []) ∧
    series imageOnly quadEnable (emptyImage []) = some (["Wrote 0x02 to SR2",
      "SR2: 0x02 (00000010)", "  QE=true SUS=false",
      "SR2: 0x00 (00000000)", "  QE=false SUS=false"], last) ∧
    Runs (session imageConfig.controller "flash.img" quadEnable) (rigOf part) (emptyImage []) ()
      after ["Wrote 0x02 to SR2", "SR2: 0x02 (00000010)", "  QE=true SUS=false",
        "SR2: 0x02 (00000010)", "  QE=true SUS=false"] last := by
  have hstored := stored_emptyImage []
  obtain ⟨after, hruns, -⟩ := runs_quadEnable [] (hstored.standby imageConfig.controller) rfl
  refine ⟨_, _, after, hstored.configured, hstored.setUp_eq, series_quadEnable [], ?_⟩
  rw [Runs, run_session]
  exact hruns

end CardReader.CommandLine
