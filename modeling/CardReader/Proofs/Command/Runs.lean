import CardReader.Command.Basic

/-!
# Runs of commands

What a command comes to against files that are a value: its outcome, the state it leaves, the lines
that it prints and the files as they are then.  One equation for each way of making a command is
enough to follow any of them from one step to the next.

What is proved here:

* `run_bind` — interactions one after another;
* `runs_bind` and its companions — what it takes for a command to answer, step by step;
* `run_bind_of_runs` — how a command goes on after a step that has answered.
-/

namespace CardReader

open Flash

/-! ## Interactions -/

namespace Interaction

variable {α β : Type}

theorem bind_eq (interaction : Interaction α) (next : α → Interaction β) :
    interaction >>= next = interaction.bind next := rfl

/-- The second interaction goes on where the first has left the files, and prints after it. -/
theorem run_bind (interaction : Interaction α) (next : α → Interaction β) :
    ∀ files, (interaction >>= next).run files =
      match interaction.run files with
      | (answer, lines, files) =>
        match (next answer).run files with
        | (result, more, files) => (result, lines ++ more, files) := by
  simp only [bind_eq]
  induction interaction with
  | done answer => exact fun _ => rfl
  | read path go ih => exact fun files => ih (files.read path) files
  | write path contents go ih =>
    intro files
    rw [Interaction.bind, run, run]
    cases files.write path contents with
    | ok files => exact ih (.ok ()) files
    | error fault => exact ih (.error fault) files
  | print line go ih =>
    intro files
    rw [Interaction.bind, run, run, ih ()]
    rfl

/-- What is made of an answer changes neither the lines nor the files. -/
theorem run_map (f : α → β) (interaction : Interaction α) (files : Files) :
    (f <$> interaction).run files =
      (f (interaction.run files).1, (interaction.run files).2) := by
  have hmap : f <$> interaction = interaction >>= fun answer => .done (f answer) := rfl
  rw [hmap, run_bind]
  exact congrArg (f (interaction.run files).1, ·, (interaction.run files).2.2)
    (List.append_nil (interaction.run files).2.1)

end Interaction

namespace Command

variable {σ α β : Type} {state : σ} {files : Files}

/-! ## Runs -/

/-- The outcome of a command, the state that it leaves, the lines that it prints, and the files. -/
def run (command : Command σ α) (state : σ) (files : Files) :
    (Except CommandFault α × σ) × List String × Files :=
  Interaction.run (command state) files

/-- The command answers. -/
def Runs (command : Command σ α) (state : σ) (files : Files) (a : α) (after : σ)
    (lines : List String) (last : Files) : Prop :=
  command.run state files = ((.ok a, after), lines, last)

theorem run_bind (first : Command σ β) (next : β → Command σ α) (state : σ) (files : Files) :
    (first >>= next).run state files =
      match first.run state files with
      | ((.ok b, state), lines, files) =>
        match (next b).run state files with
        | (result, more, files) => (result, lines ++ more, files)
      | ((.error fault, state), lines, files) => ((.error fault, state), lines, files) := by
  have hbind : (first >>= next) state = first state >>= fun answer =>
      ExceptT.bindCont next answer.1 answer.2 := rfl
  rw [run, hbind, Interaction.run_bind, ← run]
  cases hrun : first.run state files with
  | mk answer rest =>
    obtain ⟨outcome, mid⟩ := answer
    cases outcome with
    | ok b => rfl
    | error fault => exact congrArg (Prod.mk _) (congrArg (·, rest.2) (List.append_nil rest.1))

/-- How a command goes on after a step that has answered. -/
theorem run_bind_of_runs {first : Command σ β} {next : β → Command σ α} {b : β} {mid : σ}
    {lines more : List String} {between last : Files} {result : Except CommandFault α × σ}
    (h : Runs first state files b mid lines between)
    (hnext : (next b).run mid between = (result, more, last)) :
    (first >>= next).run state files = (result, lines ++ more, last) := by
  rw [run_bind, h]
  simp only [hnext]

/-- A last step that prints nothing. -/
theorem runs_bind_of_silent {first : Command σ β} {next : β → Command σ α} {b : β} {mid after : σ}
    {a : α} {lines : List String} {between last : Files}
    (h : Runs first state files b mid lines between)
    (hnext : Runs (next b) mid between a after [] last) :
    Runs (first >>= next) state files a after lines last := by
  have hruns : Runs (first >>= next) state files a after (lines ++ []) last :=
    run_bind_of_runs h hnext
  rwa [List.append_nil] at hruns

/-- A step that fails is the last one. -/
theorem run_bind_of_fails {first : Command σ β} {fault : CommandFault} {mid : σ}
    {lines : List String} {last : Files} (next : β → Command σ α)
    (h : first.run state files = ((.error fault, mid), lines, last)) :
    (first >>= next).run state files = ((.error fault, mid), lines, last) := by
  rw [run_bind, h]

/-- A command answers if each of its steps does. -/
theorem runs_bind {first : Command σ β} {next : β → Command σ α} {a : α} {after : σ}
    {lines : List String} {last : Files} :
    Runs (first >>= next) state files a after lines last ↔
      ∃ b mid before between more, Runs first state files b mid before between ∧
        Runs (next b) mid between a after more last ∧ lines = before ++ more := by
  constructor
  · intro h
    cases hrun : first.run state files with
    | mk answer rest =>
      obtain ⟨outcome, mid⟩ := answer
      obtain ⟨before, between⟩ := rest
      cases outcome with
      | error fault =>
        rw [Runs, run_bind, hrun] at h
        cases h
      | ok b =>
        rw [Runs, run_bind, hrun] at h
        simp only at h
        cases hnext : (next b).run mid between with
        | mk result rest =>
          rw [hnext] at h
          cases h
          exact ⟨b, mid, before, between, rest.1, hrun, hnext, rfl⟩
  · rintro ⟨b, mid, before, between, more, hfirst, hnext, rfl⟩
    exact run_bind_of_runs hfirst hnext

/-! ## Steps -/

theorem runs_pure (a : α) : Runs (pure a : Command σ α) state files a state [] files := rfl

theorem runs_print (line : String) :
    Runs (print line : Command σ Unit) state files () state [line] files := rfl

/-- Lines are printed one after another. -/
theorem runs_forM_print (lines : List String) :
    Runs (lines.forM print : Command σ Unit) state files () state lines files := by
  induction lines with
  | nil => rfl
  | cons line rest ih => exact run_bind_of_runs (runs_print line) ih

theorem runs_readFile {path : String} {contents : ByteArray} (h : files.read path = .ok contents) :
    Runs (readFile path : Command σ ByteArray) state files contents state [] files := by
  rw [Runs, run, readFile, Interaction.run, h]
  rfl

theorem runs_writeFile_iff {path : String} {contents : ByteArray} {after : σ} {lines : List String}
    {last : Files} :
    Runs (writeFile path contents : Command σ Unit) state files () after lines last ↔
      files.write path contents = .ok last ∧ after = state ∧ lines = [] := by
  rw [Runs, run, writeFile, Interaction.run]
  cases files.write path contents with
  | ok written =>
    constructor
    · intro h
      cases h
      exact ⟨rfl, rfl, rfl⟩
    · rintro ⟨hwrite, rfl, rfl⟩
      cases hwrite
      rfl
  | error fault =>
    refine iff_of_false (fun h => ?_) fun h => ?_
    · cases h
    · cases h.1

theorem runs_check {outcome : Except CommandFault Unit} (h : outcome = .ok ()) :
    Runs (check outcome : Command σ Unit) state files () state [] files := by
  rw [h]
  rfl

theorem run_flash (op : Op σ α) (rig : Rig σ) :
    (flash op).run rig files = (((op rig).1.mapError .flash, (op rig).2), [], files) := rfl

theorem runs_flash_iff {op : Op σ α} {rig after : Rig σ} {a : α} {lines : List String}
    {last : Files} : Runs (flash op) rig files a after lines last ↔
      op rig = (.ok a, after) ∧ lines = [] ∧ last = files := by
  rw [Runs, run_flash]
  cases op rig with
  | mk outcome r =>
    cases outcome with
    | ok b =>
      constructor
      · intro h
        cases h
        exact ⟨rfl, rfl, rfl⟩
      · rintro ⟨hrun, rfl, rfl⟩
        cases hrun
        rfl
    | error failure =>
      refine iff_of_false (fun h => ?_) fun h => ?_
      · cases h
      · cases h.1

theorem runs_flash {op : Op σ α} {rig after : Rig σ} {a : α} (h : op rig = (.ok a, after)) :
    Runs (flash op) rig files a after [] files :=
  runs_flash_iff.2 ⟨h, rfl, rfl⟩

end Command

end CardReader
