import VehicleLink.Proofs.Receiver.Feed
import VehicleLink.Proofs.Receiver.Implementation

/-!
# Proofs/Receiver/Recording — a receiver beside all the bytes it has taken

What a state holds is said in terms of the bytes that led to it, and those a state does not keep.
`recording` is the receiver with this history beside its states: a byte is added when it is taken, and
neither an event nor a reset removes any.  The history has no say in what the receiver does
(`recording_carriesOut`), so every reachable state has one (`reachable_iff_exists_history`), and an
invariant may speak of both (`recording_keeps`).
-/

namespace VehicleLink.Receiver

variable {σ α : Type} (receiver : Receiver σ α)

/-- The receiver with all bytes it has taken beside its state. -/
def recording : Receiver (σ × List UInt8) α where
  fresh := (receiver.fresh, [])
  reset := fun (state, history) => (receiver.reset state, history)
  step := fun (state, history) byte =>
    let (next, outcome) := receiver.step state byte
    ((next, history ++ [byte]), outcome)
  item := fun (state, _) => receiver.item state

theorem recording_push (state : σ) (history : List UInt8) (byte : UInt8) :
    receiver.recording.push (state, history) byte
      = (((receiver.push state byte).1, history ++ [byte]), (receiver.push state byte).2) := by
  rw [push, push]
  rcases hstep : receiver.step state byte with ⟨next, _ | _ | error⟩ <;>
    simp only [recording, hstep, event?]

/-- **A bulk push adds the bytes it takes**, and not those it hands back. -/
theorem recording_pushBytes (state : σ) (history bytes : List UInt8) :
    ∃ taken, bytes = taken ++ (receiver.pushBytes state bytes).2.2 ∧
      receiver.recording.pushBytes (state, history) bytes
        = (((receiver.pushBytes state bytes).1, history ++ taken),
            (receiver.pushBytes state bytes).2) := by
  induction bytes generalizing state history with
  | nil => exact ⟨[], rfl, by rw [pushBytes, pushBytes, List.append_nil]⟩
  | cons byte bytes ih =>
    rw [pushBytes, pushBytes, recording_push]
    rcases hpush : receiver.push state byte with ⟨next, _ | event⟩
    · obtain ⟨taken, hbytes, hrest⟩ := ih next (history ++ [byte])
      refine ⟨byte :: taken, congrArg (byte :: ·) hbytes, ?_⟩
      rw [List.append_assoc] at hrest
      exact hrest
    · exact ⟨[byte], rfl, rfl⟩

/-- **The history has no say in what the receiver does.** -/
theorem recording_carriesOut :
    receiver.recording.Implementation receiver Prod.fst fun _ => True where
  sound_fresh := trivial
  view_fresh := rfl
  sound_reset _ := trivial
  view_reset _ := rfl
  sound_step _ _ := trivial
  step_view _ _ := rfl
  item_view _ := rfl

/-- **What a byte that joins the history and a reset keep, every reachable state and history have.** -/
theorem recording_keeps {P : σ → List UInt8 → Prop}
    (hstep : ∀ {state history}, P state history →
      ∀ byte, P (receiver.step state byte).1 (history ++ [byte]))
    (hfresh : P receiver.fresh [])
    (hreset : ∀ {state history}, P state history → P (receiver.reset state) history) {state : σ}
    {history : List UInt8} (h : receiver.recording.Reachable (state, history)) :
    P state history := by
  have hpush : ∀ {pair : σ × List UInt8}, P pair.1 pair.2 → ∀ byte,
      P (receiver.recording.push pair byte).1.1 (receiver.recording.push pair byte).1.2 :=
    fun hpair byte => hstep hpair byte
  exact h.keeps (P := fun pair => P pair.1 pair.2) hpush hfresh hreset

/-- **Every reachable state has a history**, and only those have one. -/
theorem reachable_iff_exists_history {state : σ} :
    receiver.Reachable state ↔ ∃ history, receiver.recording.Reachable (state, history) := by
  refine ⟨fun h => ?_, fun ⟨history, h⟩ => receiver.recording_carriesOut.reachable_view h⟩
  induction h with
  | fresh => exact ⟨[], .fresh⟩
  | push _ byte ih =>
    obtain ⟨history, h⟩ := ih
    have hnext := h.push byte
    rw [recording_push] at hnext
    exact ⟨_, hnext⟩
  | pushBytes _ bytes ih =>
    obtain ⟨history, h⟩ := ih
    obtain ⟨taken, -, hcall⟩ := receiver.recording_pushBytes _ history bytes
    have hnext := h.pushBytes bytes
    rw [hcall] at hnext
    exact ⟨_, hnext⟩
  | reset _ ih =>
    obtain ⟨history, h⟩ := ih
    exact ⟨history, h.reset⟩

end VehicleLink.Receiver
