/-
  DoipPlayground.Lib.ReplyChain
  ─────────────────────────────
  **HOW LONG PARTIES CAN GO ON ANSWERING EACH OTHER.**

  A responder is a system whose state records what it has sent, and for
  which message; so a reply may come many steps after the message.

    • `Responder.reply_spec` — an invariant of the responder tells what its
      replies are,
    • `length_le_rank` — where every reply ranks below what it answers, no
      chain of replies is longer than the rank of its first message.
-/
import Mathlib.Data.List.Chain
import DoipPlayground.Lib.Run

/-- A party that answers messages. -/
structure Responder (M : Type) where
  State : Type
  Event : Type
  /-- `none` when it cannot be started. -/
  start : Option State
  step : State → Event → Option State
  /-- What it has sent, each with the message it answers. -/
  sent : State → List (M × M)

namespace Responder

variable {M : Type}

/-- In some run, `reply` is sent for `message`. -/
def Reply (L : Responder M) (message reply : M) : Prop :=
  ∃ s₀ es s, L.start = some s₀ ∧ Transition.exec L.step s₀ es = some s
    ∧ (message, reply) ∈ L.sent s

/-- **What a responder replies**, by an invariant of its runs. -/
theorem reply_spec (L : Responder M) (Inv : L.State → Prop) {P : M → M → Prop}
    (hstart : ∀ s, L.start = some s → Inv s)
    (hstep : ∀ s e s', Inv s → L.step s e = some s' → Inv s')
    (hsent : ∀ s message reply, Inv s → (message, reply) ∈ L.sent s → P message reply)
    {message reply : M} (h : L.Reply message reply) : P message reply := by
  obtain ⟨s₀, es, s, hs₀, hrun, hmem⟩ := h
  have hinv := Transition.exec_invariant Inv hstep es s₀ s (hstart s₀ hs₀) hrun
  exact hsent s message reply hinv hmem

end Responder

namespace ReplyChain

variable {M : Type} {R : M → M → Prop} {rank : M → Nat}

/-- **Replies that rank below what they answer** come to an end. -/
theorem length_le_rank (hrank : ∀ message reply, R message reply → rank reply < rank message) :
    ∀ (replies : List M) (message : M), List.IsChain R (message :: replies) →
      replies.length ≤ rank message := by
  intro replies
  induction replies with
  | nil =>
      intro message _
      exact Nat.zero_le _
  | cons reply replies ih =>
      intro message h
      obtain ⟨hreply, hrest⟩ := List.isChain_cons_cons.mp h
      have hlower := hrank message reply hreply
      have hlength := ih reply hrest
      show replies.length + 1 ≤ rank message
      omega

end ReplyChain
