import Quicz.Recv.Limits

/-! Where connection credit goes when streams end. A read gives its bytes back to the peer;
the report of a reset gives nothing back. So a stream that ends keeps the connection
window whole exactly when its final size has been, or can still be, read. -/
namespace Quicz

open Chunks Proc

/-- Fully read to its final size, or reset with the reset reported to the application. -/
def Drained (stream : RecvStreamState) : Prop :=
  (∃ n, stream.finalSize = some n ∧ stream.readOffset = n) ∨
    stream.resetErrorCode ≠ none ∧ stream.resetReadObserved = true

/-- Resets that drop no credit: the final size is what arrived in order, and it has been
read or stays readable. -/
def Refundable (config : Config) (met : MetReset) : Prop :=
  met.frame.finalSize = met.stream.data.length ∧
    (config.enableResetPartialDelivery = true ∨ met.stream.readOffset = met.stream.data.length)

instance (config : Config) (met : MetReset) : Decidable (Refundable config met) :=
  inferInstanceAs (Decidable (_ ∧ (_ ∨ _)))

structure RefundOk (config : Config) (stream : RecvStreamState) : Prop where
  whole : stream.resetErrorCode ≠ none → stream.finalSize = some stream.data.length ∧
    (config.enableResetPartialDelivery = true ∨ stream.readOffset = stream.data.length)
  reported : stream.resetReadObserved = true → stream.resetErrorCode ≠ none ∧
    ¬ (config.enableResetPartialDelivery = true ∧ stream.readOffset < stream.data.length)

variable {config : Config}

/-- Nothing of a drained stream is charged beyond what was read from it. -/
theorem Drained.charge_eq {stream : RecvStreamState} (ok : StreamOk stream)
    (refund : RefundOk config stream) (drained : Drained stream) : charge stream = stream.readOffset := by
  have read := ok.read
  rcases drained with ⟨n, size, all⟩ | ⟨reset, observed⟩
  · obtain ⟨data, ends⟩ := highestOffset_le.mp (ok.sized n size)
    cases live : stream.resetErrorCode with
    | some code => simp [charge, live, size, all]
    | none =>
      have empty : stream.pending = [] := by
        apply List.eq_nil_iff_forall_not_mem.mpr
        intro p hp
        have := Chunk.offset_lt_stop (ok.assembled.nonempty p hp)
        have := ok.assembled.beyond p hp
        have := ends p hp
        omega
      rw [charge_live live, byteCount, empty, size_nil]
      omega
  · obtain ⟨size, readable⟩ := refund.whole reset
    have rest := (refund.reported observed).2
    obtain ⟨code, hc⟩ := Option.ne_none_iff_exists'.mp reset
    have all : stream.readOffset = stream.data.length := by
      rcases readable with partly | all
      · by_contra short
        exact rest ⟨partly, by omega⟩
      · exact all
    simp [charge, hc, size, all]

variable {rule : RecvRule}

theorem RefundOk.of_same {old new : RecvStreamState} (h : RefundOk config old)
    (data : new.data = old.data) (finalSize : new.finalSize = old.finalSize)
    (reset : new.resetErrorCode = old.resetErrorCode) (read : new.readOffset = old.readOffset)
    (observed : new.resetReadObserved = old.resetReadObserved) : RefundOk config new := by
  refine ⟨?_, ?_⟩
  · rw [reset, finalSize, data, read]; exact h.whole
  · rw [observed, reset, read, data]; exact h.reported

theorem refund_put {r : RecvPart} {new : RecvStreamState}
    (all : ∀ s ∈ r.recvStreams, RefundOk config s) (ok : RefundOk config new) :
    ∀ s ∈ (r.put new).recvStreams, RefundOk config s :=
  Keyed.forall_adjust all fun _ _ => ok

variable {r r' : RecvPart}

theorem RecvStep.refunds (inv : RecvInv r) (all : ∀ s ∈ r.recvStreams, RefundOk r.config s)
    (step : RecvStep rule r r') (resets : ∀ met ∈ r'.metResets, Refundable r.config met) :
    ∀ s ∈ r'.recvStreams, RefundOk r.config s := by
  have here : ∀ {id stream}, r.find id = some stream → RefundOk r.config stream := fun found =>
    all _ (Keyed.lookup_some found).2
  cases step with
  | opens streamId unknown =>
    intro s hs
    rcases List.mem_append.mp hs with old | new
    · exact all s old
    · rw [List.mem_singleton.mp new]
      exact ⟨fun h => absurd rfl h, nofun⟩
  | @stores stream frame stop segments found _ live =>
    obtain ⟨data, pending, finalSize, eq⟩ := storedStream_eq stream frame.fin stop segments
    rw [eq]
    exact refund_put all ⟨fun h => absurd live h, fun h => absurd live ((here found).reported h).1⟩
  | @drains stream drained before later listed run =>
    have member : stream ∈ r.recvStreams := by simp [listed]
    obtain ⟨ok, _, moved⟩ := drained_ok (inv.each stream member) run
    obtain ⟨eq, _⟩ := inv.drain_eq listed moved.same
    have old := all stream member
    rw [eq]
    -- a reset stream has nothing beyond its prefix, so the drain moves nothing
    have settled : stream.resetErrorCode ≠ none → drained.data.length = stream.data.length := by
      intro reset
      have size : drained.finalSize = some stream.data.length := by
        obtain ⟨data, pending, rfl⟩ := moved.same
        exact (old.whole reset).1
      have := (highestOffset_le.mp (ok.sized _ size)).1
      have := moved.longer
      omega
    obtain ⟨data, pending, rfl⟩ := moved.same
    refine refund_put all ⟨fun reset => ?_, fun observed => ?_⟩
    · rw [settled reset]
      exact old.whole reset
    · rw [settled (old.reported observed).1]
      exact old.reported observed
  | @resets stream reset found incomplete =>
    have live := inv.reset_live found incomplete
    have allowed : Refundable r.config ⟨stream, reset⟩ :=
      resets _ (List.mem_append_right _ (List.mem_singleton_self _))
    refine refund_put all ⟨fun _ => ⟨congrArg some allowed.1, allowed.2⟩, fun observed => ?_⟩
    exact absurd live ((here found).reported observed).1
  | @reads stream n _ _ found positive available delivers =>
    have old := here found
    refine refund_put all ⟨fun reset => ⟨(old.whole reset).1, Or.inl (delivers.resolve_left reset)⟩,
      fun observed => ?_⟩
    obtain ⟨reset, rest⟩ := old.reported observed
    exact absurd ⟨delivers.resolve_left reset, by omega⟩ rest
  | releases found =>
    rw [RecvPart.addStreamCredit_eq]
    exact refund_put all ((here found).of_same rfl rfl rfl rfl rfl)
  | observesData found | stops found => exact refund_put all ((here found).of_same rfl rfl rfl rfl rfl)
  | observesReset found reset rest => exact refund_put all ⟨(here found).whole, fun _ => ⟨reset, rest⟩⟩
  | dataBlocked maximumData | streamsBlockedBidi maximumStreams | streamsBlockedUni maximumStreams => exact all
  | streamDataBlocked maximumStreamData found =>
    exact refund_put all ((here found).of_same rfl rfl rfl rfl rfl)

theorem RecvStep.metResets_subset (step : RecvStep rule r r') : ∀ met ∈ r.metResets, met ∈ r'.metResets := by
  intro met mem
  cases step with
  | resets reset => exact List.mem_append_left _ mem
  | releases =>
    rw [RecvPart.addStreamCredit_eq]
    exact mem
  | _ => exact mem

structure Conserving (r : RecvPart) : Prop where
  inv : RecvInv r
  backed : r.config.initialMaxData + consumed r ≤ r.recvMaxData
  refund : (∀ met ∈ r.metResets, Refundable r.config met) → ∀ s ∈ r.recvStreams, RefundOk r.config s

theorem Conserving.steps (h : Conserving r) (steps : RecvSteps rule r r') : Conserving r' := by
  refine steps.keeps (fun a b ⟨inv, backed, refund⟩ step => ?_) h
  refine ⟨(step.accounted inv).1, step.backed inv backed, ?_⟩
  rw [step.constant.1]
  intro resets
  have before := refund fun met mem => resets met (step.metResets_subset met mem)
  exact step.refunds inv before resets

theorem Conserving.window {r : RecvPart} (h : Conserving r) (resets : ∀ met ∈ r.metResets, Refundable r.config met)
    (drained : ∀ s ∈ r.recvStreams, Drained s) : r.config.initialMaxData + r.recvDataBytes ≤ r.recvMaxData := by
  have same : r.recvStreams.map charge = r.recvStreams.map RecvStreamState.readOffset :=
    List.map_congr_left fun s hs => (drained s hs).charge_eq (h.inv.each s hs) (h.refund resets s hs)
  have backed := h.backed
  rw [h.inv.exact, same]
  exact backed

end Quicz
