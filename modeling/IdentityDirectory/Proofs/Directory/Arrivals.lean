import IdentityDirectory.Proofs.Directory.Runs
/-!
What reaches a directory from outside: raw bytes answered with bytes or into a buffer, lines of JSON, and
URNs. Whatever it is, the directory does no more than handle one request.
-/
namespace IdentityDirectory

inductive Arrival where
  | packet (b : Bytes) (capacity : Nat)
  | buffered (b buffer : Bytes)
  | line (text : String)
  | urn (text : String)
  deriving DecidableEq, Repr

namespace Directory

def receive (d : Directory) : Arrival → Directory
  | .packet b capacity => (d.dispatch b capacity).1
  | .buffered b buffer => (d.query b buffer).1
  | .line text => (d.answerJson text).1
  | .urn text => (d.answerUrn text).1

def receiveAll (d : Directory) (arrivals : List Arrival) : Directory := arrivals.foldl receive d

/-- One directory holds what another holds, or what that one holds once it has handled a request. -/
def Follows (d e : Directory) : Prop :=
  e.uncounted = d.uncounted ∨ ∃ q, e.uncounted = (d.handle q).1.uncounted

theorem follows_respond (d : Directory) (b : Bytes) (capacity : Nat) :
    d.Follows (d.respond b capacity).1 := by
  have step := plain_respond d b capacity
  cases read : Request.decode b with
  | error cause =>
    rw [read] at step
    exact Or.inl (Prod.mk.inj step).1
  | ok q =>
    rw [read] at step
    exact Or.inr ⟨q, (Prod.mk.inj step).1⟩

theorem follows_dispatch (d : Directory) (b : Bytes) (capacity : Nat) :
    d.Follows (d.dispatch b capacity).1 := by
  have same := (Prod.mk.inj (plain_dispatch d b capacity)).1
  have answered := follows_respond d b capacity
  unfold Follows at answered ⊢
  rwa [same]

theorem follows_query (d : Directory) (b buffer : Bytes) : d.Follows (d.query b buffer).1 := by
  have answered := follows_respond d b buffer.length
  unfold query
  split
  · rename_i step
    rwa [step] at answered
  · rename_i step
    rw [step] at answered
    split <;> exact answered

theorem follows_answerJson (d : Directory) (text : String) : d.Follows (d.answerJson text).1 := by
  unfold answerJson
  split
  · exact Or.inl rfl
  · rename_i q _
    have handled : d.Follows (d.handle q).1 := Or.inr ⟨q, rfl⟩
    split <;> rename_i step <;> rwa [step] at handled

theorem follows_answerUrn (d : Directory) (text : String) : d.Follows (d.answerUrn text).1 := by
  unfold answerUrn
  split
  · exact Or.inl rfl
  · rename_i q _
    exact Or.inr ⟨q, rfl⟩

theorem follows_receive (d : Directory) (x : Arrival) : d.Follows (d.receive x) := by
  cases x with
  | packet b capacity => exact follows_dispatch d b capacity
  | buffered b buffer => exact follows_query d b buffer
  | line text => exact follows_answerJson d text
  | urn text => exact follows_answerUrn d text

end Directory
end IdentityDirectory
