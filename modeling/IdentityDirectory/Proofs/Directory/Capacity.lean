import IdentityDirectory.Proofs.Directory.Ledger
import IdentityDirectory.Proofs.Wire.Shedding
import IdentityDirectory.Proofs.Wire.Window
/-!
What the room for a reply decides. A reply that is too large loses as few records as it must, and each loss is
counted; whether the reply is then handed over as bytes or written into a buffer makes no difference.
-/
namespace IdentityDirectory

namespace Directory

theorem fit_eq (d : Directory) (capacity : Nat) (r : Response) :
    d.fit capacity r =
      (d.count fun c => c.fitted (r.fit capacity), (r.fit capacity).response?) := by
  unfold fit
  split <;> rename_i fitted <;> rw [fitted] <;> rfl

theorem isShortened_iff (r : Response) (capacity : Nat) :
    ((r.fit capacity).response?.any fun s => decide (s.recordCount < r.recordCount)) = true ↔
      ∃ s, r.fit capacity = .shortened s := by
  rcases r.fit_cases capacity with whole | ⟨s, short, fewer⟩ | dropped
  · simp [whole, Fitted.response?]
  · simp [short, Fitted.response?, fewer]
  · simp [dropped, Fitted.response?]

theorem counters_fit (d : Directory) (capacity : Nat) (r : Response) :
    (d.fit capacity r).1.counters =
      { d.counters with
        listsTruncated := d.counters.listsTruncated +
          Counters.tick ((r.fit capacity).response?.any fun s => decide (s.recordCount < r.recordCount))
        responsesDropped := d.counters.responsesDropped +
          Counters.tick (r.fit capacity).response?.isNone } := by
  rw [fit_eq]
  exact d.counters.fitted_eq _ (isShortened_iff r capacity) rfl

/-- Truncation is the loop that drops the last record until the response fits. What it leaves is the largest
front of the response that fits, with its header and offset, and nothing exactly if no front fits; a response
that fits stays as it is, once fitted it fits, more room never leaves fewer records, and two capacities in turn
are as strict as the smaller. A response that lost records is counted as shortened, one that is not sent at all
as dropped. -/
theorem fitting_drops_as_little_as_it_can (r : Response) (capacity : Nat) :
    let fitted (r : Response) (capacity : Nat) := (r.fit capacity).response?
    fitted r capacity = r.shed capacity ∧
    (∀ s, fitted r capacity = some s ↔ Response.IsLargestFit capacity r s) ∧
    (fitted r capacity = none ↔ ∀ t : Response, t.IsFront r → capacity < t.encodedSize) ∧
    (∀ s, fitted r capacity = some s →
      s.header = r.header ∧ s.offset? = r.offset? ∧ s.encodedSize ≤ capacity ∧
        s.fit capacity = .whole s ∧
        ∀ larger, capacity ≤ larger → ∃ t, fitted r larger = some t ∧ s.IsFront t ∧
          s.recordCount ≤ t.recordCount) ∧
    (r.encodedSize ≤ capacity → fitted r capacity = some r) ∧
    (∀ second, ((fitted r capacity).bind fun s => fitted s second) =
      fitted r (min capacity second)) ∧
    ∀ d : Directory, (d.fit capacity r).2 = fitted r capacity ∧
      (d.fit capacity r).1.uncounted = d.uncounted ∧
      (d.fit capacity r).1.counters =
        { d.counters with
          listsTruncated := d.counters.listsTruncated +
            Counters.tick ((fitted r capacity).any fun s => decide (s.recordCount < r.recordCount))
          responsesDropped := d.counters.responsesDropped +
            Counters.tick (fitted r capacity).isNone } := by
  intro fitted
  have loop (r : Response) (capacity : Nat) : fitted r capacity = r.shed capacity :=
    r.fit_eq_shed capacity
  refine ⟨loop r capacity, ?_, ?_, ?_, ?_, ?_, ?_⟩
  · intro s
    rw [loop, Response.shed_eq_some_iff]
  · rw [loop, Response.shed_eq_none_iff]
  · intro s found
    rw [loop] at found
    have best := Response.shed_eq_some_iff.mp found
    refine ⟨best.front.header, best.front.offset?, best.fits, Response.fit_of_fits best.fits, ?_⟩
    intro larger le
    obtain ⟨t, found', front⟩ := Response.shed_mono le found
    exact ⟨t, (loop r larger).trans found', front, front.recordCount_le⟩
  · intro fits
    have whole := Response.fit_of_fits fits
    simp only [fitted, whole, Fitted.response?]
  · intro second
    simp only [loop]
    exact r.shed_shed capacity second
  · intro d
    refine ⟨?_, ?_, counters_fit d capacity r⟩
    · rw [fit_eq]
    · rw [fit_eq]
      rfl

example (h : Header) (offset : UInt32) (first second : Identity) :
    Response.fit 211 ⟨h, .identityList offset [first, second]⟩ =
      .shortened ⟨h, .identityList offset [first]⟩ := by
  rfl

theorem encodeInto_of_respond {d : Directory} {b buffer : Bytes} {r : Response}
    (answer : (d.respond b buffer.length).2 = some r) :
    r.encodeInto buffer = .ok (d.query b buffer).2 := by
  have room := encodedSize_of_respond answer
  unfold query
  split
  · rename_i e step
    rw [step] at answer
    contradiction
  · rename_i e s step
    rw [step] at answer
    obtain rfl := Option.some.inj answer
    simp only [encodeInto_of_room room]

theorem operationSize_le_of_dispatch {d : Directory} {b reply : Bytes} {capacity : Nat}
    (sent : (d.dispatch b capacity).2 = some reply) : Response.operationSize ≤ reply.length := by
  unfold dispatch at sent
  split at sent
  · contradiction
  · rename_i e r step
    rw [← Option.some.inj sent, Response.length_encode]
    exact r.operationSize_le_encodedSize

/-- A reply that is written into a buffer is the reply that is handed over as bytes. The directory is left the
same; the front of the buffer becomes those bytes, twenty-two at least, and the rest of it stays, all of it if
there is no reply. So a response that was cut to the size of the buffer is never refused by it. -/
theorem buffer_takes_the_dispatched_bytes (d : Directory) (b buffer : Bytes) :
    let written := (d.query b buffer).2.1
    let after := (d.query b buffer).2.2
    (d.query b buffer).1 = (d.dispatch b buffer.length).1 ∧
    (∀ reply, (d.dispatch b buffer.length).2 = some reply →
      written = reply.length ∧ 22 ≤ written ∧ written ≤ buffer.length ∧
        after.take written = reply ∧ after.drop written = buffer.drop written) ∧
    ((d.dispatch b buffer.length).2 = none → written = 0 ∧ after = buffer) ∧
    ∀ r, (d.respond b buffer.length).2 = some r →
      r.encodeInto buffer = .ok (written, after) ∧
        r.write.fill r.encodedSize buffer = some (.ok written, after) := by
  have step := query_eq_dispatch d b buffer
  refine ⟨?_, ?_, ?_, ?_⟩
  · rw [step]
  · intro reply sent
    simp only [step, sent, true_and]
    exact ⟨operationSize_le_of_dispatch sent, (length_of_dispatch sent).2, List.take_left,
      List.drop_left⟩
  · intro silent
    simp only [step, silent, and_self]
  · intro r answer
    have into := encodeInto_of_respond answer
    have room := encodedSize_of_respond answer
    obtain ⟨after, filled, same, -, -⟩ := (isExact_of_writes r.writes r.length_encode).wide buffer room
    have agree := Except.ok.inj (same.symm.trans into)
    refine ⟨into, ?_⟩
    rw [filled, ← agree]

end Directory
end IdentityDirectory
