import CardReader.Part.Bus

/-!
# A part on a bare controller

The same part behind a controller that offers no more than it must: FIFOs of the usual depths and
no DMA at all, although its features may promise one.
-/

namespace CardReader

open Flash

/-- A part behind a controller without DMA calls. -/
structure BarePart where
  /-- The part. -/
  part : Part

namespace BarePart

/-- Makes a call of the part. -/
@[inline] def lift {α : Type} (call : Part → Except Failure α × Part) (bare : BarePart) :
    Except Failure α × BarePart :=
  match bare with
  | ⟨part⟩ =>
    match call part with
    | (outcome, part) => (outcome, ⟨part⟩)

instance : Bus BarePart where
  features bare := bare.part.features
  writeLevel clock bare := Bus.writeLevel clock bare.part
  setDeviceParams value bare := ⟨Bus.setDeviceParams value bare.part⟩
  flushFifos bare := ⟨Bus.flushFifos bare.part⟩
  writeFifo clock data := lift (Bus.writeFifo clock data)
  readFifo clock count := lift (Bus.readFifo clock count)
  issue clock command := lift (Bus.issue clock command)
  pollDone clock := lift (Bus.pollDone clock)

end BarePart

end CardReader
