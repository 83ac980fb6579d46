import CardReader.Proofs.Failures

/-!
# Reachable parts

Which parts a caller can have before it: one that is fresh, and any that the calls of a controller
have led to from there, however they ended, with time passing and faults coming and going between
them.

What is proved here:

* `shape_program` and `Call.shape_run` — no operation changes the settings of a part, the size of
  its array or the channel that is claimed;
* `Reachable.sized` and `Reachable.dma_eq` — the array of a reachable part has its proper size,
  and no channel is claimed between two calls.
-/

namespace CardReader

open Flash

namespace Flash

namespace Controller

/-! ## Operations keep the shape of a part -/

/-- Any failure will do. -/
def anyTerms (part : Part) : Terms := ⟨part, fun _ => True, fun _ => trivial⟩

/-- Whatever becomes of an operation, the part keeps its shape. -/
def shapeWalk (config : ControllerConfig) (part : Part) : Walk Part Part config :=
  (anyTerms part).walk config (fun _ _ _ => trivial) (fun _ => trivial) fun _ => trivial

theorem passes_shapeWalk (config : ControllerConfig) (part : Part) (call : Call) :
    (shapeWalk config part).Passes call :=
  (shapeWalk config part).passes_of_allows (fun _ => trivial) (fun _ => .inl trivial)
    (fun _ => .inl ⟨trivial, trivial⟩) call

theorem shape_program (config : ControllerConfig) (base : Nat) (payload : List UInt8)
    (useDma : Bool) (cipher : CipherMode) (rig : Rig Part) :
    (program config base payload useDma cipher rig).2.bus.shape = rig.bus.shape := by
  obtain ⟨hcheck, hmode, hstages⟩ :=
    passes_shapeWalk config rig.bus (.program base payload useDma cipher)
  exact Op.Respects.preserves ((shapeWalk config rig.bus).rel_program hcheck hmode hstages) rig rfl

theorem Call.shape_run (config : ControllerConfig) (call : Call) (rig : Rig Part) :
    (call.run config rig).2.bus.shape = rig.bus.shape := by
  have hrun := (shapeWalk config rig.bus).rel_run (passes_shapeWalk config rig.bus call)
    fun _ _ => ⟨.inl trivial, .inl trivial⟩
  exact Op.Respects.preserves hrun rig rfl

/-! ## Reachable parts -/

/-- What a caller can have before it: a fresh part with a usable configuration, erased or with
contents, and whatever calls under any settings have made of it, with time passing and faults
being switched on and off in between. -/
inductive Reachable : Rig Part → Prop
  | new {config : Part.Config} (valid : config.validate = .ok ()) (clock : Clock) :
    Reachable { bus := .new config, clock }
  | holding {config : Part.Config} (valid : config.validate = .ok ()) (bytes : ByteArray)
    (clock : Clock) : Reachable { bus := .holding config bytes, clock }
  | call {rig : Rig Part} (before : Reachable rig) (config : ControllerConfig) (call : Call) :
    Reachable (call.run config rig).2
  | pause {rig : Rig Part} (before : Reachable rig) (us : Nat) :
    Reachable { rig with clock := rig.clock.advance us }
  | switch {rig : Rig Part} (before : Reachable rig) (faults : Part.Faults) :
    Reachable { rig with bus := { rig.bus with faults } }

namespace Reachable

variable {rig : Rig Part}

theorem sized (h : Reachable rig) : rig.bus.Sized := by
  induction h with
  | new valid clock => exact ⟨Part.Cells.size_erased _, (Part.Config.validate_eq_ok_iff.1 valid).1⟩
  | holding valid bytes clock =>
    exact ⟨Part.Cells.size_holding _ _, (Part.Config.validate_eq_ok_iff.1 valid).1⟩
  | @call rig before config call ih =>
    have hshape := call.shape_run config rig
    simp only [Part.shape, Part.Shape.mk.injEq] at hshape
    obtain ⟨hconfig, hsize, -⟩ := hshape
    exact ih.congr hconfig hsize
  | pause before us ih => exact ih
  | switch before faults ih => exact ⟨ih.size_eq, ih.power⟩

/-- Between two calls no channel is claimed. -/
theorem dma_eq (h : Reachable rig) : rig.bus.dma = none := by
  induction h with
  | new valid clock => rfl
  | holding valid bytes clock => rfl
  | @call rig before config call ih =>
    have hclaim := congrArg Part.Shape.claim (call.shape_run config rig)
    rwa [Part.shape, Part.shape, ih, Option.map_none, Option.map_eq_none_iff] at hclaim
  | pause before us ih => exact ih
  | switch before faults ih => exact ih

end Reachable

end Controller

end Flash

end CardReader
