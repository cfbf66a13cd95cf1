import Mathlib.Data.List.Basic

/-! What a sender holds of the data it was given. Items wait in a queue, are in flight, or
are settled; each carries some of the things to be delivered. Items may be split, copied,
taken back and settled, and as long as nothing live is dropped on the way, everything
given stays held. -/
namespace Resend

variable {α κ : Type*}

structure Pool (α : Type*) where
  queue : List α
  inFlight : List α
  settled : List α

namespace Pool

def items (p : Pool α) : List α := p.queue ++ p.inFlight ++ p.settled

theorem mem_items {p : Pool α} {a : α} : a ∈ p.items ↔ a ∈ p.queue ∨ a ∈ p.inFlight ∨ a ∈ p.settled := by
  simp [items]

def Holds (carries : α → κ → Prop) (p : Pool α) (k : κ) : Prop := ∃ a ∈ p.items, carries a k

/-- What no waiting and no flying item carries is settled. -/
theorem Holds.settled {carries : α → κ → Prop} {p : Pool α} {k : κ} (held : p.Holds carries k)
    (idle : ∀ a, a ∈ p.queue ∨ a ∈ p.inFlight → ¬ carries a k) : ∃ a ∈ p.settled, carries a k := by
  obtain ⟨a, mem, carried⟩ := held
  rcases mem_items.mp mem with waiting | flying | settled
  · exact absurd carried (idle a (Or.inl waiting))
  · exact absurd carried (idle a (Or.inr flying))
  · exact ⟨a, settled, carried⟩

theorem Holds.enqueue {carries : α → κ → Prop} {p : Pool α} {k : κ} (held : p.Holds carries k)
    (more : List α) : ({ p with queue := p.queue ++ more } : Pool α).Holds carries k := by
  obtain ⟨a, mem, carried⟩ := held
  refine ⟨a, mem_items.mpr ?_, carried⟩
  rcases mem_items.mp mem with waiting | later
  · exact Or.inl (List.mem_append_left _ waiting)
  · exact Or.inr later

end Pool

structure Transfers (carries : α → κ → Prop) (part : α → α → Prop) (live : κ → Prop)
    (p q : Pool α) : Prop where
  keeps : ∀ k, live k → p.Holds carries k → q.Holds carries k
  settled : ∀ a ∈ p.settled, a ∈ q.settled
  origin : ∀ a ∈ q.items, ∃ b ∈ p.items, part a b

variable {carries : α → κ → Prop} {part : α → α → Prop} {live : κ → Prop} {p q r : Pool α}

theorem Transfers.refl (whole : ∀ a, part a a) (p : Pool α) : Transfers carries part live p p :=
  ⟨fun _ _ held => held, fun _ h => h, fun a mem => ⟨a, mem, whole a⟩⟩

/-- Items only change place, or are dropped when nothing they carry is live. -/
theorem Transfers.of_moved (whole : ∀ a, part a a) (moved : ∀ a ∈ p.items, a ∉ q.items → ∀ k, carries a k → ¬ live k)
    (settled : ∀ a ∈ p.settled, a ∈ q.settled) (old : ∀ a ∈ q.items, a ∈ p.items) :
    Transfers carries part live p q where
  keeps := by
    rintro k alive ⟨a, mem, carried⟩
    by_cases there : a ∈ q.items
    · exact ⟨a, there, carried⟩
    · exact absurd alive (moved a mem there k carried)
  settled := settled
  origin a mem := ⟨a, old a mem, whole a⟩

/-- The head of the queue is sent in part, and the rest of it stays queued. -/
theorem Transfers.emit (whole : ∀ a, part a a) {a sent : α} {rest remainder : List α}
    (head : p.queue = a :: rest) (sentPart : part sent a) (restPart : ∀ b ∈ remainder, part b a)
    (split : ∀ k, carries a k → carries sent k ∨ ∃ b ∈ remainder, carries b k) : Transfers carries part live p
      { p with queue := remainder ++ rest, inFlight := p.inFlight ++ [sent] } where
  keeps := by
    rintro k - ⟨b, mem, carried⟩
    rcases Pool.mem_items.mp mem with waiting | flying | settled
    · rw [head] at waiting
      rcases List.mem_cons.mp waiting with rfl | later
      · rcases split k carried with now | ⟨c, left, carriedLeft⟩
        · exact ⟨sent, Pool.mem_items.mpr (by simp), now⟩
        · exact ⟨c, Pool.mem_items.mpr (by simp [left]), carriedLeft⟩
      · exact ⟨b, Pool.mem_items.mpr (by simp [later]), carried⟩
    · exact ⟨b, Pool.mem_items.mpr (by simp [flying]), carried⟩
    · exact ⟨b, Pool.mem_items.mpr (Or.inr (Or.inr settled)), carried⟩
  settled _ h := h
  origin := by
    intro b mem
    have fromHead : a ∈ p.items := Pool.mem_items.mpr (by simp [head])
    rcases Pool.mem_items.mp mem with waiting | flying | settled
    · rcases List.mem_append.mp waiting with left | later
      · exact ⟨a, fromHead, restPart b left⟩
      · exact ⟨b, Pool.mem_items.mpr (by simp [head, later]), whole b⟩
    · rcases List.mem_append.mp flying with before | now
      · exact ⟨b, Pool.mem_items.mpr (Or.inr (Or.inl before)), whole b⟩
      · rw [List.mem_singleton.mp now]
        exact ⟨a, fromHead, sentPart⟩
    · exact ⟨b, Pool.mem_items.mpr (Or.inr (Or.inr settled)), whole b⟩

end Resend
