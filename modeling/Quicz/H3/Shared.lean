import Quicz.H3.Bounds

/-! The buffer that all Huffman decoding of a process shares, against decoding each string into a
buffer of its own. The position only grows: a decode comes out as it would alone while what it
writes fits in what earlier decodes have left. -/
namespace Quicz.H3

open Proc List Scratch Nat

/-- Every slice that was handed out lies below the position and holds what it held then. -/
def Scratch.Keeps (s : Scratch) : Prop :=
  ∀ slice ∈ s.handed, slice.1 + slice.2.length ≤ s.pos ∧ (s.buf.drop slice.1).take slice.2.length = slice.2

structure Scratch.Later (s t : Scratch) : Prop where
  length : t.buf.length = s.buf.length
  forward : s.pos ≤ t.pos
  valid : s.Valid → t.Valid
  below : t.buf.take s.pos = s.buf.take s.pos
  keeps : s.Keeps → t.Keeps
  logged : s.handed ⊆ t.handed

instance : IsPreorder Scratch Scratch.Later where
  refl s := ⟨rfl, le_rfl, id, rfl, id, List.Subset.refl _⟩
  trans s t u first next := by
    refine ⟨next.length.trans first.length, first.forward.trans next.forward,
      fun valid => next.valid (first.valid valid), ?_, fun keeps => next.keeps (first.keeps keeps),
      List.Subset.trans first.logged next.logged⟩
    have shorter : ∀ buf : Bytes, buf.take s.pos = (buf.take t.pos).take s.pos := fun buf => by
      rw [take_take, min_eq_left first.forward]
    rw [shorter u.buf, next.below, ← shorter, first.below]

theorem slice_of_take {old new : Bytes} {pos off len : Nat} (below : new.take pos = old.take pos)
    (within : off + len ≤ pos) : (new.drop off).take len = (old.drop off).take len := by
  have cut : ∀ buf : Bytes, (buf.drop off).take len = ((buf.take pos).drop off).take len := fun buf => by
    rw [drop_take, take_take, min_eq_left (by omega)]
  rw [cut new, below, ← cut old]

theorem take_overwrite {buf : Bytes} {pos : Nat} (within : pos ≤ buf.length) (written : Bytes) :
    (overwrite buf pos written).take pos = buf.take pos := by
  have size : (buf.take pos).length = pos := by
    rw [length_take]
    omega
  rw [overwrite, append_assoc, take_append_of_le_length (by omega), take_of_length_le (by omega)]

theorem slice_overwrite {buf written : Bytes} {pos : Nat} (within : pos ≤ buf.length) :
    ((overwrite buf pos written).drop pos).take written.length = written := by
  have size : (buf.take pos).length = pos := by
    rw [length_take]
    omega
  rw [overwrite, append_assoc, drop_append_of_le_length (by omega), drop_of_length_le (by omega),
    nil_append, take_left']
  rfl

/-- Writing above the position, which moves on by as much or stays. -/
theorem Scratch.Later.write {s : Scratch} (valid : s.Valid) {written : Bytes}
    (room : s.pos + written.length ≤ s.buf.length) :
    s.Later { s with buf := overwrite s.buf s.pos written } ∧
    s.Later { buf := overwrite s.buf s.pos written, pos := s.pos + written.length,
              handed := s.handed ++ [(s.pos, written)] } := by
  have below := take_overwrite valid written
  have length := length_overwrite room
  have old : s.Keeps → ∀ slice ∈ s.handed, slice.1 + slice.2.length ≤ s.pos ∧
      ((overwrite s.buf s.pos written).drop slice.1).take slice.2.length = slice.2 := by
    intro keeps slice mem
    obtain ⟨within, holds⟩ := keeps slice mem
    exact ⟨within, (slice_of_take below within).trans holds⟩
  refine ⟨⟨length, le_rfl, fun _ => ?_, below, old, List.Subset.refl _⟩,
    ⟨length, le_add_right _ _, fun _ => ?_, below, fun keeps slice mem => ?_, subset_append_left _ _⟩⟩
  · exact valid.trans_eq length.symm
  · exact room.trans_eq length.symm
  · rcases mem_append.mp mem with earlier | last
    · obtain ⟨within, holds⟩ := old keeps slice earlier
      exact ⟨within.trans (le_add_right _ _), holds⟩
    · obtain rfl := mem_singleton.mp last
      exact ⟨le_rfl, slice_overwrite valid⟩

variable {α β : Type} (raw : Bytes)

/-- A string decoded into a buffer of its own; the state counts the bytes written. -/
def ownBuffer : EStateM Failure Nat Bytes := fun count =>
  match Huffman.decode (8 * raw.length) raw {} with
  | .ok _ w => .ok w.written (count + w.written.length)
  | .error e w => .error e (count + w.written.length)

/-- The first procedure, on the shared buffer, ends as the second, with buffers of its own, when
what that one writes fits; otherwise it fails for want of room. -/
structure Clips (m : EStateM Failure Scratch α) (n : EStateM Failure Nat α) : Prop where
  frame : Steps Scratch.Later m
  agree : ∀ s count, s.Valid → wp n
    (fun a total => count ≤ total ∧
      (s.pos + (total - count) ≤ s.buf.length → ∃ t, m s = .ok a t ∧ t.pos = s.pos + (total - count)) ∧
      (s.buf.length < s.pos + (total - count) → ∃ t, m s = .error tooSmall t))
    (fun e total => count ≤ total ∧ e ≠ tooSmall ∧ (s.pos + (total - count) ≤ s.buf.length → ∃ t, m s = .error e t) ∧
      (s.buf.length < s.pos + (total - count) → ∃ t, m s = .error tooSmall t)) count

theorem Clips.pure (a : α) : Clips (Pure.pure a) (Pure.pure a) where
  frame := .pure a
  agree s count valid := by
    have inside : s.pos ≤ s.buf.length := valid
    simp only [wp_pure, Nat.sub_self, Nat.add_zero]
    exact ⟨le_rfl, fun _ => ⟨s, rfl, rfl⟩, fun more => absurd more (by omega)⟩

variable {e : Failure}

theorem Clips.throw (other : e ≠ tooSmall) :
    Clips (MonadExcept.throw e : EStateM Failure Scratch α) (MonadExcept.throw e) where
  frame := .throw e
  agree s count valid := by
    have inside : s.pos ≤ s.buf.length := valid
    simp only [wp_throw]
    exact ⟨le_rfl, other, fun _ => ⟨s, rfl⟩, fun more => absurd more (by omega)⟩

theorem Clips.bind {m : EStateM Failure Scratch α} {n : EStateM Failure Nat α} (first : Clips m n)
    {f : α → EStateM Failure Scratch β} {g : α → EStateM Failure Nat β} (next : ∀ a, Clips (f a) (g a)) :
    Clips (m >>= f) (n >>= g) where
  frame := first.frame.bind fun a => (next a).frame
  agree s count valid := by
    rw [wp_bind]
    refine wp_mono (first.agree s count valid) ?_ ?_
    · rintro a mid ⟨grown, fits, runs_out⟩
      by_cases room : s.pos + (mid - count) ≤ s.buf.length
      · -- the first part has gone the same way, and the second starts where it ended
        obtain ⟨t, run, pos⟩ := fits room
        have sum : ∀ {total : Nat}, mid ≤ total → s.pos + (total - count) = t.pos + (total - mid) := by
          clear fits runs_out
          omega
        have later : s.Later t := wp_returns (Q := fun _ t => s.Later t) run (first.frame s)
        have rest := (next a).agree t mid (later.valid valid)
        rw [run_bind_ok run]
        refine wp_mono rest ?_ ?_
        · rintro b total ⟨more, fits', runs_out'⟩
          rw [later.length] at fits' runs_out'
          rw [sum more]
          exact ⟨grown.trans more, fits', runs_out'⟩
        · rintro e total ⟨more, other, fits', runs_out'⟩
          rw [later.length] at fits' runs_out'
          rw [sum more]
          exact ⟨grown.trans more, other, fits', runs_out'⟩
      · -- the first part has run out of room already
        obtain ⟨t, stop⟩ := runs_out (not_le.mp room)
        have stopped : ∃ u, (m >>= f) s = .error tooSmall u := ⟨t, run_bind_error stop f⟩
        refine wp_mono ((next a).agree s mid valid) ?_ ?_
        · rintro b total ⟨more, -, -⟩
          exact ⟨grown.trans more, fun small => absurd small (by omega), fun _ => stopped⟩
        · rintro e total ⟨more, other, -, -⟩
          exact ⟨grown.trans more, other, fun small => absurd small (by omega), fun _ => stopped⟩
    · rintro e total ⟨grown, other, fits, runs_out⟩
      refine ⟨grown, other, fun small => ?_, fun large => ?_⟩
      · obtain ⟨t, stop⟩ := fits small
        exact ⟨t, run_bind_error stop f⟩
      · obtain ⟨t, stop⟩ := runs_out large
        exact ⟨t, run_bind_error stop f⟩

theorem Clips.ite (c : Prop) [Decidable c] {m m' : EStateM Failure Scratch α} {n n' : EStateM Failure Nat α}
    (yes : Clips m n) (no : Clips m' n') : Clips (if c then m else m') (if c then n else n') := by
  by_cases h : c
  · simpa [h] using yes
  · simpa [h] using no

theorem Clips.guard {c : Prop} [Decidable c] {f : Unit → EStateM Failure Scratch α}
    {g : Unit → EStateM Failure Nat α} (other : e ≠ tooSmall) (next : Clips (f ()) (g ())) :
    Clips (failIf c e >>= f) (failIf c e >>= g) :=
  .bind (.ite c (.throw other) (.pure ())) fun _ => next

theorem Clips.orThrow (x : Option α) (other : e ≠ tooSmall) : Clips (Proc.orThrow x e) (Proc.orThrow x e) := by
  cases x
  · exact .throw other
  · exact .pure _

theorem Clips.unhuffman : Clips (decodeToScratch raw) (ownBuffer raw) where
  frame s := by
    by_cases valid : s.Valid
    · have bounds := Huffman.decode_bounds (s.buf.length - s.pos) raw
      have inside : s.pos ≤ s.buf.length := valid
      rw [wp, decodeToScratch_eq valid]
      rw [wp] at bounds
      cases run : Huffman.decode (s.buf.length - s.pos) raw {} with
      | ok _ w =>
        rw [run] at bounds
        exact (Scratch.Later.write valid (by omega)).2
      | error e w =>
        rw [run] at bounds
        exact (Scratch.Later.write valid (by omega)).1
    · have stays : decodeToScratch raw s = .error (.panic .indexOutOfBounds) s := if_pos (not_le.mp valid)
      rw [wp, stays]
      exact refl_of Scratch.Later s
  agree s count valid := by
    have inside : s.pos ≤ s.buf.length := valid
    have clipped := Huffman.decode_cut (s.buf.length - s.pos) raw
    rw [wp, ownBuffer]
    rw [wp] at clipped
    have shared := decodeToScratch_eq valid raw
    cases run : Huffman.decode (8 * raw.length) raw {} with
    | ok _ w =>
      simp only [run] at clipped ⊢
      obtain ⟨agree, runs_out⟩ := clipped
      rw [Nat.add_sub_cancel_left]
      refine ⟨le_add_right _ _, fun small => ?_, fun large => ?_⟩
      · rw [shared, agree (by omega)]
        exact ⟨_, rfl, rfl⟩
      · obtain ⟨u, stop⟩ := runs_out (by omega)
        rw [shared, stop]
        exact ⟨_, rfl⟩
    | error e w =>
      simp only [run] at clipped ⊢
      obtain ⟨other, agree, runs_out⟩ := clipped
      rw [Nat.add_sub_cancel_left]
      refine ⟨le_add_right _ _, other, fun small => ?_, fun large => ?_⟩
      · rw [shared, agree (by omega)]
        exact ⟨_, rfl⟩
      · obtain ⟨u, stop⟩ := runs_out (by omega)
        rw [shared, stop]
        exact ⟨_, rfl⟩

theorem clips_sumU64 (a b : Nat) : Clips (sumU64 a b) (sumU64 a b) := .orThrow _ nofun

variable (data : Bytes) (pos : Nat)

theorem clips_byteAt : Clips (byteAt data pos) (byteAt data pos) :=
  .orThrow _ nofun

theorem clips_decodeVarintLoop (rest : Bytes) (p result shift : Nat) :
    Clips (decodeVarintLoop rest p result shift) (decodeVarintLoop rest p result shift) := by
  induction rest generalizing p result shift with
  | nil => exact .throw nofun
  | cons byte rest ih => exact .ite _ (.pure _) (.ite _ (.throw nofun) (ih _ _ _))

theorem clips_decodeInteger (bits : Nat) (data : Bytes) (pos : Nat) :
    Clips (decodeInteger bits data pos) (decodeInteger bits data pos) := by
  refine (clips_byteAt data pos).bind fun first => .ite _ ?_ (.pure _)
  exact (clips_decodeVarintLoop ..).bind fun rest => (clips_sumU64 ..).bind fun _ => .pure _

theorem clips_decodeStringWith (bits : Nat) (start : Nat) :
    Clips (decodeStringWith decodeToScratch bits data start) (decodeStringWith ownBuffer bits data start) := by
  refine .guard nofun ((clips_byteAt data start).bind fun first => ?_)
  refine (clips_decodeInteger bits data start).bind fun len => (clips_sumU64 _ _).bind fun stop => ?_
  refine .guard nofun (.ite _ ?_ (.pure _))
  exact (Clips.unhuffman _).bind fun _ => .pure _

theorem clips_staticEntry (index : Nat) : Clips (staticEntry index) (staticEntry index) := .orThrow _ nofun

theorem clips_referencedEntry (isStatic : Bool) (index : Nat) (t : DynamicTable) :
    Clips (referencedEntry isStatic index t) (referencedEntry isStatic index t) :=
  .ite _ (clips_staticEntry index) (.orThrow _ nofun)

theorem clips_literal : Clips (do
      let name ← decodeString4 decodeToScratch data pos
      let value ← decodeString decodeToScratch data name.2
      return (({ name := name.1, value := value.1 } : HeaderField), value.2))
    (do
      let name ← decodeString4 ownBuffer data pos
      let value ← decodeString ownBuffer data name.2
      return ({ name := name.1, value := value.1 }, value.2)) :=
  (clips_decodeStringWith ..).bind fun _ => (clips_decodeStringWith ..).bind fun _ => .pure _

theorem clips_decodeFieldLine :
    Clips (decodeFieldLine decodeToScratch data pos) (decodeFieldLine ownBuffer data pos) := by
  refine (clips_byteAt data pos).bind fun first => .ite _ ?_ (.ite _ ?_ (.ite _ (clips_literal data pos)
    (.throw nofun)))
  · refine (clips_decodeInteger ..).bind fun index => .guard nofun ?_
    exact (clips_staticEntry _).bind fun _ => .pure _
  · refine (clips_decodeInteger ..).bind fun index => .guard nofun ?_
    refine (clips_staticEntry _).bind fun _ => ?_
    exact (clips_decodeStringWith ..).bind fun _ => .pure _

theorem clips_decodeFieldLines (outLen rounds pos : Nat) (fields : List HeaderField) :
    Clips (decodeFieldLines decodeToScratch data outLen rounds pos fields)
      (decodeFieldLines ownBuffer data outLen rounds pos fields) := by
  induction rounds generalizing pos fields with
  | zero => exact .pure _
  | succ rounds ih =>
    refine .ite _ (.guard nofun ?_) (.pure _)
    exact (clips_decodeFieldLine ..).bind fun _ => ih _ _

theorem clips_decodeDynamicFieldLine (t : DynamicTable) :
    Clips (decodeDynamicFieldLine decodeToScratch t data pos) (decodeDynamicFieldLine ownBuffer t data pos) := by
  refine (clips_byteAt data pos).bind fun first => .ite _ ?_ (.ite _ ?_ (.ite _ (clips_literal data pos)
    (.throw nofun)))
  · refine (clips_decodeInteger ..).bind fun index => ?_
    exact (clips_referencedEntry ..).bind fun _ => .pure _
  · refine (clips_decodeInteger ..).bind fun index => ?_
    refine (clips_referencedEntry ..).bind fun _ => ?_
    exact (clips_decodeStringWith ..).bind fun _ => .pure _

theorem clips_decodeDynamicFieldLines (t : DynamicTable) (outLen rounds pos : Nat) (fields : List HeaderField) :
    Clips (decodeDynamicFieldLines decodeToScratch t data outLen rounds pos fields)
      (decodeDynamicFieldLines ownBuffer t data outLen rounds pos fields) := by
  induction rounds generalizing pos fields with
  | zero => exact .pure _
  | succ rounds ih =>
    refine .ite _ ((clips_decodeDynamicFieldLine ..).bind fun line => ?_) (.pure _)
    exact .guard nofun (.ite _ (.pure _) (ih _ _))

theorem clips_decodeEncoderInstruction :
    Clips (decodeEncoderInstruction decodeToScratch data) (decodeEncoderInstruction ownBuffer data) := by
  refine .guard nofun ((clips_byteAt data 0).bind fun first => ?_)
  refine .ite _ ?_ (.ite _ ?_ (.ite _ ?_ ?_))
  · refine (clips_decodeInteger ..).bind fun _ => ?_
    exact (clips_decodeStringWith ..).bind fun _ => .pure _
  · refine .guard nofun ((clips_decodeInteger ..).bind fun _ => ?_)
    refine (clips_sumU64 ..).bind fun _ => .guard nofun ?_
    exact (clips_decodeStringWith ..).bind fun _ => .pure _
  · exact (clips_decodeInteger ..).bind fun _ => .pure _
  · exact (clips_decodeInteger ..).bind fun _ => .pure _

inductive Decode
  | headerBlock (data : Bytes) (outLen : Nat)
  | headerBlockWithDynamicInfo (t : DynamicTable) (data : Bytes) (outLen : Nat)
  | encoderInstruction (data : Bytes)

inductive Decoded
  | fields (fields : List HeaderField)
  | dynamicFields (fields : List HeaderField) (requiredInsertCount : Nat)
  | instruction (i : EncoderInstruction) (consumed : Nat)
deriving DecidableEq

def Decode.runWith {σ : Type} (unhuffman : Bytes → EStateM Failure σ Bytes) : Decode → EStateM Failure σ Decoded
  | .headerBlock data outLen => do return .fields (← decodeHeaderBlock unhuffman data outLen)
  | .headerBlockWithDynamicInfo t data outLen => do
    let decoded ← decodeHeaderBlockWithDynamicInfo unhuffman t data outLen
    return .dynamicFields decoded.1 decoded.2
  | .encoderInstruction data => do
    let decoded ← decodeEncoderInstruction unhuffman data
    return .instruction decoded.1 decoded.2

variable (d : Decode)

def Decode.run : EStateM Failure Scratch Decoded := d.runWith decodeToScratch

/-- The bytes that the Huffman-coded strings of the input decode to, as far as they are read. -/
def Decode.demand : Nat := after (d.runWith ownBuffer) 0

theorem Decode.clips : Clips d.run (d.runWith ownBuffer) := by
  cases d with
  | headerBlock data outLen =>
    refine Clips.bind ?_ fun _ => .pure _
    exact .guard nofun (clips_decodeFieldLines ..)
  | headerBlockWithDynamicInfo t data outLen =>
    refine Clips.bind ?_ fun _ => .pure _
    refine .guard nofun ((clips_decodeInteger ..).bind fun required => ?_)
    refine .guard nofun ((clips_decodeInteger ..).bind fun base => .guard nofun ?_)
    exact (clips_decodeDynamicFieldLines ..).bind fun _ => .pure _
  | encoderInstruction data => exact (clips_decodeEncoderInstruction data).bind fun _ => .pure _

variable (history : List Decode)

def scratchAfter : Scratch :=
  history.foldl (fun s d => after d.run s) fresh

theorem later_foldl (s : Scratch) : s.Later (history.foldl (fun s d => after d.run s) s) := by
  induction history generalizing s with
  | nil => exact refl_of Scratch.Later s
  | cons d history ih => exact trans_of Scratch.Later (d.clips.frame.after s) (ih _)

theorem scratchAfter_later (history later : List Decode) :
    (scratchAfter history).Later (scratchAfter (history ++ later)) := by
  rw [scratchAfter, scratchAfter, foldl_append]
  exact later_foldl later _

theorem scratchAfter_valid : (scratchAfter history).Valid ∧ (scratchAfter history).buf.length = huffmanScratchLen ∧
      (scratchAfter history).Keeps := by
  have later := later_foldl history fresh
  exact ⟨later.valid fresh_valid, later.length.trans length_replicate, later.keeps nofun⟩

theorem Decode.outcome_eq {s : Scratch} (valid : s.Valid) : outcome d.run s =
      if s.pos + d.demand ≤ s.buf.length then outcome (d.runWith ownBuffer) 0 else .error tooSmall := by
  have agree := wp_and (d.clips.agree s 0 valid) (wp_self (d.runWith ownBuffer) 0)
  have ends := wp_run agree
  simp only [wp] at ends
  cases alone : d.runWith ownBuffer 0 with
  | ok a total =>
    simp only [alone] at ends
    obtain ⟨-, ⟨-, fits, runs_out⟩, demand⟩ := ends
    rw [outcome_ok alone, Decode.demand, ← demand]
    split_ifs with room
    · obtain ⟨t, run, -⟩ := fits room
      exact outcome_ok run
    · obtain ⟨t, run⟩ := runs_out (not_le.mp room)
      exact outcome_error run
  | error e total =>
    simp only [alone] at ends
    obtain ⟨-, ⟨-, -, fits, runs_out⟩, demand⟩ := ends
    rw [outcome_error alone, Decode.demand, ← demand]
    split_ifs with room
    · obtain ⟨t, run⟩ := fits room
      exact outcome_error run
    · obtain ⟨t, run⟩ := runs_out (not_le.mp room)
      exact outcome_error run

theorem Decode.alone_roomy : outcome (d.runWith ownBuffer) 0 ≠ .error tooSmall := by
  have agree := d.clips.agree fresh 0 fresh_valid
  simp only [wp] at agree
  cases alone : d.runWith ownBuffer 0 with
  | ok a total =>
    rw [outcome_ok alone]
    simp
  | error e total =>
    simp only [alone] at agree
    rw [outcome_error alone]
    exact fun same => agree.2.1 (Except.error.inj same)

/-- A decode after any history comes out as it would first, and slices handed out keep what they
hold, exactly when what it writes fits behind what earlier decodes have written (or would not fit
in the empty buffer either). -/
theorem decode_independent (history : List Decode) (d : Decode) :
    (outcome d.run (scratchAfter history) = outcome d.run Scratch.fresh ∧
      ∀ later slice, slice ∈ (scratchAfter history).handed →
        ((scratchAfter (history ++ later)).buf.drop slice.1).take slice.2.length = slice.2) ↔
    (scratchAfter history).pos + d.demand ≤ huffmanScratchLen ∨ huffmanScratchLen < d.demand := by
  obtain ⟨valid, size, -⟩ := scratchAfter_valid history
  have first : outcome d.run fresh =
      if d.demand ≤ huffmanScratchLen then outcome (d.runWith ownBuffer) 0 else .error tooSmall := by
    have eq := d.outcome_eq fresh_valid
    rwa [show fresh.pos = 0 from rfl, zero_add,
      show fresh.buf.length = huffmanScratchLen from length_replicate] at eq
  have now := d.outcome_eq valid
  rw [size] at now
  rw [now, first]
  constructor
  · rintro ⟨same, -⟩
    by_contra! short
    rw [if_neg (by omega), if_pos (by omega)] at same
    exact d.alone_roomy same.symm
  · intro fits
    refine ⟨?_, fun later slice handed => ?_⟩
    · by_cases alone : d.demand ≤ huffmanScratchLen
      · rw [if_pos (by omega), if_pos alone]
      · rw [if_neg (by omega), if_neg alone]
    · have logged := (scratchAfter_later history later).logged handed
      exact ((scratchAfter_valid (history ++ later)).2.2 slice logged).2

theorem pos_replicate {d : Decode} (ends : failsWith (d.runWith ownBuffer) 0 = none) (times : Nat)
    (fits : times * d.demand ≤ huffmanScratchLen) : (scratchAfter (replicate times d)).pos = times * d.demand := by
  induction times with
  | zero => simp [scratchAfter, fresh]
  | succ times ih =>
    rw [Nat.succ_mul] at fits ⊢
    have before := ih (by omega)
    obtain ⟨valid, size, -⟩ := scratchAfter_valid (replicate times d)
    have agree := d.clips.agree (scratchAfter (replicate times d)) 0 valid
    have last : scratchAfter (replicate (times + 1) d) = after d.run (scratchAfter (replicate times d)) := by
      rw [scratchAfter, scratchAfter, replicate_succ', foldl_append]
      rfl
    rw [wp] at agree
    cases alone : d.runWith ownBuffer 0 with
    | error e total => simp [failsWith, alone] at ends
    | ok a total =>
      simp only [alone, Nat.sub_zero] at agree
      have need : d.demand = total := after_ok alone
      obtain ⟨t, run, pos⟩ := agree.2.1 (by omega)
      rw [last, after_ok run, pos, before, need]

def insertDigits : Decode := .encoderInstruction [0xc0, 0x85, 0, 0, 0, 0, 0]

theorem decode_depends : outcome insertDigits.run (scratchAfter (List.replicate 2048 insertDigits)) ≠
      outcome insertDigits.run Scratch.fresh := by
  have demand : insertDigits.demand = 8 := by decide +kernel
  have ends : failsWith (insertDigits.runWith ownBuffer) 0 = none := by decide +kernel
  have full := pos_replicate ends 2048 (by rw [demand]; decide)
  obtain ⟨valid, size, -⟩ := scratchAfter_valid (replicate 2048 insertDigits)
  rw [insertDigits.outcome_eq valid, insertDigits.outcome_eq fresh_valid, full, size, demand,
    if_neg (by decide), if_pos]
  · exact insertDigits.alone_roomy.symm
  · exact (show 0 + 8 ≤ 16384 by decide).trans_eq length_replicate.symm

end Quicz.H3
