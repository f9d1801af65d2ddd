import VehicleLink.Proofs.Frame.Grammar
import VehicleLink.Proofs.Frame.Storage
import VehicleLink.Proofs.Sentence.Grammar
import VehicleLink.Proofs.Sentence.Storage

/-!
# Proofs/Receivers — what holds of both receivers

The two protocols share no code beyond `Receiver`, yet a caller can treat their receivers alike.  After
an event or a reset each goes on as if it had never received anything (`settled_receivers_forget`),
and neither notices how its stream is cut into chunks (`receivers_ignore_cuts`).  Both hold in storage
of fixed size too, where what earlier items have left is still in the cells.

What carries the first is that an event and a reset leave a receiver between two items
(`step_leaves`), and that the grammar of a stream then decides all events to come.
-/

namespace VehicleLink

open Receiver

/-! ## Between two items -/

namespace Frame

theorem Reception.append_leaves (config : Config) (r : Reception) (byte : UInt8) :
    Leaves (·.phase = .marker) (r.append config byte) := by
  rw [Reception.append]
  split
  · exact .pending _
  · exact fun _ => rfl

/-- A byte that causes an event leaves the receiver between two frames. -/
theorem Reception.step_leaves (config : Config) (r : Reception) (byte : UInt8) :
    Leaves (·.phase = .marker) (r.step config byte) := by
  rw [Reception.step]
  split
  · split
    · exact .pending _
    · exact append_leaves config _ byte
  · have happend := append_leaves config r byte
    split
    · dsimp only
      split
      · exact .pending _
      · exact fun _ => rfl
    · exact happend

theorem asFresh_of_idle {config : Config} {r : Reception} (hidle : r.phase = .marker) :
    (receiver config).AsFresh r := fun place stream => by
  rw [events_of_idle hidle, events_of_idle rfl]

theorem receiver_forgetful (config : Config) : (receiver config).Forgetful := fun hstate =>
  asFresh_of_idle (hstate.has (Reception.step_leaves config) fun _ => rfl)

end Frame

namespace Sentence

theorem Reception.append_leaves (config : Config) (r : Reception) (byte : UInt8) :
    Leaves (·.phase = .start) (r.append config byte) := by
  rw [Reception.append]
  split
  · exact .pending _
  · exact fun _ => rfl

theorem Reception.validate_leaves (r : Reception) : Leaves (·.phase = .start) r.validate := by
  rw [Reception.validate]
  split
  · exact fun _ => rfl
  · split <;> exact fun _ => rfl

/-- A byte that causes an event leaves the receiver between two sentences. -/
theorem Reception.step_leaves (config : Config) (r : Reception) (byte : UInt8) :
    Leaves (·.phase = .start) (r.step config byte) := by
  rw [Reception.step]
  split
  · split <;> exact .pending _
  · split
    · exact fun _ => rfl
    split
    · exact .pending _
    split
    · exact append_leaves config r.closeField byte
    · exact append_leaves config r byte
  · exact .pending _
  · exact .pending _
  · split
    · exact .pending _
    · exact fun _ => rfl
  · split
    · exact r.validate_leaves
    · exact fun _ => rfl

theorem asFresh_of_idle {config : Config} {r : Reception} (hidle : r.phase = .start) :
    (receiver config).AsFresh r := fun place stream => by
  rw [events_of_idle hidle, events_of_idle rfl]

theorem receiver_forgetful (config : Config) : (receiver config).Forgetful := fun hstate =>
  asFresh_of_idle (hstate.has (Reception.step_leaves config) fun _ => rfl)

end Sentence

/-! ## Both receivers -/

section Both

variable (frames : Frame.Config) (sentences : Sentence.Config)

/-- **After an event or a reset, both receivers go on as fresh ones do**, for every set-up: the
contents and the places of all events to come owe nothing to what was received before.  The bytes, the
checksum and the places that are still in storage of fixed size make no difference. -/
theorem settled_receivers_forget :
    (Frame.receiver frames).Forgetful ∧ (Frame.storedReceiver frames).Forgetful ∧
      (Sentence.receiver sentences).Forgetful ∧ (Sentence.storedReceiver sentences).Forgetful :=
  ⟨Frame.receiver_forgetful frames,
    (Frame.storedReceiver_carriesOut frames).forgetful (Frame.receiver_forgetful frames),
    Sentence.receiver_forgetful sentences,
    (Sentence.storedReceiver_carriesOut sentences).forgetful
      (Sentence.receiver_forgetful sentences)⟩

/-- A frame given up for want of room leaves its bytes in the cells, and a sentence given up by a
reset its bytes and the end of its header. -/
theorem settled_receivers_forget_leftovers :
    let frames := Frame.storedReceiver ⟨4, [0xFD]⟩
    let sentences := Sentence.storedReceiver ⟨8, [0x24]⟩
    let overrun := (frames.pushBytes frames.fresh [0xFD, 1, 2, 3, 4]).1
    let abandoned := sentences.reset (sentences.pushBytes sentences.fresh [0x24, 0x41, 0x2C]).1
    overrun.store.cells.toList = [0xFD, 1, 2, 3] ∧
      abandoned.reception.body = [0x41, 0x2C] ∧ abandoned.headerEnd = some 1 ∧
      frames.Settled overrun ∧ frames.AsFresh overrun ∧
      sentences.Settled abandoned ∧ sentences.AsFresh abandoned := by
  intro frames sentences overrun abandoned
  have hoverrun : frames.Settled overrun := .pushBytes .fresh rfl
  have habandoned : sentences.Settled abandoned := .reset (.pushBytes .fresh _)
  obtain ⟨-, hframes, -, hsentences⟩ := settled_receivers_forget ⟨4, [0xFD]⟩ ⟨8, [0x24]⟩
  exact ⟨rfl, rfl, rfl, hoverrun, hframes hoverrun, habandoned, hsentences habandoned⟩

/-- **Neither receiver notices how its stream is cut into chunks**, for every set-up and from every
state. -/
theorem receivers_ignore_cuts :
    (Frame.receiver frames).Uncut ∧ (Frame.storedReceiver frames).Uncut ∧
      (Sentence.receiver sentences).Uncut ∧ (Sentence.storedReceiver sentences).Uncut :=
  ⟨uncut _, uncut _, uncut _, uncut _⟩

end Both

end VehicleLink
