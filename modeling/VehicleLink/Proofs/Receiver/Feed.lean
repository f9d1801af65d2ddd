import VehicleLink.Receiver

/-!
# Proofs/Receiver/Feed — a stream fed in chunks

`pushBytes` stops at the first event and hands back the bytes it has not taken.  A caller feeds a
chunk by handing the rest in again until nothing is left (`feed`), and a stream chunk by chunk
(`feedChunks`).  However the stream is cut, this is `run` on the whole of it: same events, same
places, same last state (`feedChunks_eq_run`).

The engine is `pushBytes_taken`: one call of `pushBytes` is `run` up to the first event, and the bytes
it has taken and those it hands back are all that it was given.  So nothing is lost and nothing taken
twice, and feeding comes to an end (`Uncut`).
-/

namespace VehicleLink.Receiver

variable {σ α : Type} (receiver : Receiver σ α)

/-! ## One byte -/

/-- The events of a stream are those of its first byte and those of the others. -/
theorem events_cons {state next : σ} {byte : UInt8} {outcome : Outcome}
    (h : receiver.step state byte = (next, outcome)) (place : Nat) (bytes : List UInt8) :
    (receiver.run state place (byte :: bytes)).2
      = ((receiver.event? next outcome).map (place, ·)).toList
        ++ (receiver.run next (place + 1) bytes).2 := by
  simp only [run, push, h]

/-! ## One call -/

/-- **One call takes the bytes up to the first event**, one by one, and hands back the others. -/
theorem pushBytes_taken (state : σ) (bytes : List UInt8) :
    ∃ taken, bytes = taken ++ (receiver.pushBytes state bytes).2.2 ∧
      ∀ place, receiver.run state place taken =
        ((receiver.pushBytes state bytes).1,
          ((receiver.pushBytes state bytes).2.1.map (place + taken.length - 1, ·)).toList) := by
  induction bytes generalizing state with
  | nil => exact ⟨[], rfl, fun _ => rfl⟩
  | cons byte bytes ih =>
    rw [pushBytes]
    rcases hpush : receiver.push state byte with ⟨next, _ | event⟩
    · obtain ⟨taken, hbytes, hrun⟩ := ih next
      refine ⟨byte :: taken, congrArg (byte :: ·) hbytes, fun place => ?_⟩
      have hplace : place + 1 + taken.length = place + (taken.length + 1) := by omega
      simp only [run, hpush, hrun, hplace, Option.map_none, Option.toList_none, List.nil_append,
        List.length_cons]
    · refine ⟨[byte], rfl, fun place => ?_⟩
      simp only [run, hpush, List.append_nil, List.length_singleton, Nat.add_sub_cancel]

theorem pushBytes_rest_suffix (state : σ) (bytes : List UInt8) :
    (receiver.pushBytes state bytes).2.2 <:+ bytes := by
  obtain ⟨taken, hbytes, -⟩ := receiver.pushBytes_taken state bytes
  exact ⟨taken, hbytes.symm⟩

/-- A call takes at least one byte if there is one. -/
theorem length_pushBytes_rest_lt (state : σ) {bytes : List UInt8} (h : bytes ≠ []) :
    (receiver.pushBytes state bytes).2.2.length < bytes.length := by
  obtain ⟨byte, bytes, rfl⟩ := List.exists_cons_of_ne_nil h
  rw [pushBytes, List.length_cons]
  split
  · exact Nat.lt_succ_self _
  · next next _ => exact Nat.lt_succ_of_le (receiver.pushBytes_rest_suffix next bytes).length_le

/-- A call without an event takes all bytes. -/
theorem pushBytes_rest_of_pending (state : σ) {bytes : List UInt8}
    (h : (receiver.pushBytes state bytes).2.1 = none) :
    (receiver.pushBytes state bytes).2.2 = [] := by
  induction bytes generalizing state with
  | nil => rfl
  | cons byte bytes ih =>
    rw [pushBytes] at h ⊢
    split at h
    · cases h
    · next next _ => exact ih next h

/-- **One call is the run up to the first event**, and the run goes on from where it stopped. -/
theorem run_eq_pushBytes (state : σ) (place : Nat) (bytes : List UInt8) :
    receiver.run state place bytes =
      let (next, event?, rest) := receiver.pushBytes state bytes
      let place := place + (bytes.length - rest.length)
      let (last, events) := receiver.run next place rest
      (last, (event?.map (place - 1, ·)).toList ++ events) := by
  obtain ⟨taken, hbytes, hrun⟩ := receiver.pushBytes_taken state bytes
  have hlength := congrArg List.length hbytes
  rw [List.length_append] at hlength
  have htaken : bytes.length - (receiver.pushBytes state bytes).2.2.length = taken.length := by
    omega
  have hsplit := receiver.run_append state place taken (receiver.pushBytes state bytes).2.2
  rw [← hbytes, hrun] at hsplit
  simp only [hsplit, htaken]

/-! ## Chunks -/

/-- Feeds a chunk: hands it in, and then the rest again until nothing is left. -/
def feed (state : σ) (place : Nat) (chunk : List UInt8) : σ × List (Nat × Event α) :=
  if _h : chunk = [] then (state, [])
  else
    match _hcall : receiver.pushBytes state chunk with
    | (next, event?, rest) =>
      let place := place + (chunk.length - rest.length)
      let (last, events) := feed next place rest
      (last, (event?.map (place - 1, ·)).toList ++ events)
termination_by chunk.length
decreasing_by
  have hlt := receiver.length_pushBytes_rest_lt state _h
  rwa [_hcall] at hlt

/-- Feeds a stream chunk by chunk. -/
def feedChunks (state : σ) (place : Nat) : (chunks : List (List UInt8)) → σ × List (Nat × Event α)
  | [] => (state, [])
  | chunk :: chunks =>
    let (next, events) := receiver.feed state place chunk
    let (last, events') := feedChunks next (place + chunk.length) chunks
    (last, events ++ events')

/-- **Feeding a chunk is taking its bytes one by one.** -/
theorem feed_eq_run (state : σ) (place : Nat) (chunk : List UInt8) :
    receiver.feed state place chunk = receiver.run state place chunk := by
  induction hn : chunk.length using Nat.strongRecOn generalizing state place chunk with
  | ind n ih =>
    rw [feed]
    split
    · next h => rw [h, run]
    · next h =>
      have hlt := receiver.length_pushBytes_rest_lt state h
      rw [run_eq_pushBytes]
      split
      next next event? rest hcall =>
        rw [hcall] at hlt ⊢
        simp only [ih _ (hn ▸ hlt) _ _ _ rfl]

/-- **However a stream is cut into chunks, feeding them is taking its bytes one by one.** -/
theorem feedChunks_eq_run (state : σ) (place : Nat) (chunks : List (List UInt8)) :
    receiver.feedChunks state place chunks = receiver.run state place chunks.flatten := by
  induction chunks generalizing state place with
  | nil => rfl
  | cons chunk chunks ih =>
    rw [feedChunks, List.flatten_cons, run_append, feed_eq_run]
    simp only [ih]

/-- What a caller can rely on who feeds a stream in chunks, from any state. -/
structure Uncut : Prop where
  /-- The cuts change neither an event nor its place, nor the last state. -/
  feedChunks_eq_run : ∀ state place chunks,
    receiver.feedChunks state place chunks = receiver.run state place chunks.flatten
  /-- A call takes some bytes one by one, with at most one event, at the last of them, and hands back
  the others. -/
  taken : ∀ state bytes, ∃ taken, bytes = taken ++ (receiver.pushBytes state bytes).2.2 ∧
    ∀ place, receiver.run state place taken =
      ((receiver.pushBytes state bytes).1,
        ((receiver.pushBytes state bytes).2.1.map (place + taken.length - 1, ·)).toList)
  rest_suffix : ∀ state bytes, (receiver.pushBytes state bytes).2.2 <:+ bytes
  rest_shorter : ∀ state bytes, bytes ≠ [] →
    (receiver.pushBytes state bytes).2.2.length < bytes.length
  rest_of_pending : ∀ state bytes, (receiver.pushBytes state bytes).2.1 = none →
    (receiver.pushBytes state bytes).2.2 = []

theorem uncut : receiver.Uncut where
  feedChunks_eq_run := receiver.feedChunks_eq_run
  taken := receiver.pushBytes_taken
  rest_suffix := receiver.pushBytes_rest_suffix
  rest_shorter state _ := receiver.length_pushBytes_rest_lt state
  rest_of_pending state _ := receiver.pushBytes_rest_of_pending state

end VehicleLink.Receiver
