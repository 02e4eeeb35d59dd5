import IdentityDirectory.Proofs.Directory.Runs
/-!
Answers into a buffer. A buffer takes every response that was cut to its size, so what is written into it are
the bytes that would have been sent, what stands behind them stays, and what stood there before is not sent.
-/
namespace IdentityDirectory

theorem Response.encode_ne_nil (r : Response) : r.encode ≠ [] := by
  rw [← List.length_pos_iff, encode, List.length_append, Header.length_encode]
  exact Nat.lt_of_lt_of_le (by decide) (Nat.le_add_right _ _)

theorem Response.encodedSize_of_fit {r s : Response} {capacity : Nat}
    (fitted : (r.fit capacity).response? = some s) : s.encodedSize ≤ capacity := by
  rw [fit_response?] at fitted
  split at fitted
  · rename_i room
    rw [← Option.some.inj fitted]
    exact encodedSize_cut room
  · contradiction

inductive Inquiry where
  | dispatch (b : Bytes) (capacity : Nat)
  | query (b buffer : Bytes)
  deriving DecidableEq, Repr

def Inquiry.packet : Inquiry → Packet
  | dispatch b capacity => ⟨b, capacity⟩
  | query b buffer => ⟨b, buffer.length⟩

namespace Directory

/-- What is sent of a buffer after a query. Nothing written stands for no reply. -/
def sentOf (written : Nat) (buffer : Bytes) : Option Bytes :=
  if written = 0 then none else some (buffer.take written)

def answer (d : Directory) : Inquiry → Directory × Option Bytes
  | .dispatch b capacity => d.dispatch b capacity
  | .query b buffer =>
    let (d, written, buffer) := d.query b buffer
    (d, sentOf written buffer)

theorem encodedSize_of_respond {d : Directory} {b : Bytes} {capacity : Nat} {r : Response}
    (answer : (d.respond b capacity).2 = some r) : r.encodedSize ≤ capacity := by
  have step := (Prod.mk.inj (plain_respond d b capacity)).2
  rw [answer] at step
  split at step
  · contradiction
  · obtain ⟨s, -, fitted⟩ := Option.bind_eq_some_iff.mp step.symm
    exact Response.encodedSize_of_fit fitted

theorem encodeInto_of_room {r : Response} {buffer : Bytes} (room : r.encodedSize ≤ buffer.length) :
    r.encodeInto buffer = .ok (r.encode.length, r.encode ++ buffer.drop r.encode.length) := by
  rw [Response.encodeInto, fillBuffer, if_neg (Nat.not_lt.mpr room), Response.length_encode]

theorem length_of_dispatch {d : Directory} {b reply : Bytes} {capacity : Nat}
    (sent : (d.dispatch b capacity).2 = some reply) : reply ≠ [] ∧ reply.length ≤ capacity := by
  unfold dispatch at sent
  split at sent
  · contradiction
  · rename_i e r step
    obtain rfl := Option.some.inj sent
    have room := encodedSize_of_respond (congrArg Prod.snd step)
    rw [Response.length_encode]
    exact ⟨r.encode_ne_nil, room⟩

theorem query_eq_dispatch (d : Directory) (b buffer : Bytes) :
    d.query b buffer = ((d.dispatch b buffer.length).1,
      match (d.dispatch b buffer.length).2 with
      | none => (0, buffer)
      | some reply => (reply.length, reply ++ buffer.drop reply.length)) := by
  unfold query dispatch
  cases step : d.respond b buffer.length with
  | mk e answer =>
    cases answer with
    | none => rfl
    | some r =>
      have room := encodedSize_of_respond (congrArg Prod.snd step)
      simp only [encodeInto_of_room room]

theorem answer_eq_dispatch (d : Directory) (x : Inquiry) :
    d.answer x = d.dispatch x.packet.bytes x.packet.capacity := by
  cases x with
  | dispatch b capacity => rfl
  | query b buffer =>
    simp only [answer, query_eq_dispatch, Inquiry.packet]
    cases step : d.dispatch b buffer.length with
    | mk e reply =>
      cases reply with
      | none => rfl
      | some reply =>
        have content := (length_of_dispatch (congrArg Prod.snd step)).1
        have size : ¬ reply.length = 0 := fun zero => content (List.length_eq_zero_iff.mp zero)
        simp only [sentOf, if_neg size, List.take_left']

end Directory
end IdentityDirectory
