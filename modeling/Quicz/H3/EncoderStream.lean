import Quicz.H3.TableSound

/-! The peer's encoder stream: what each instruction does to the table, and what holds at every
instruction boundary of every batch. -/
namespace Quicz.H3

open Proc Fitting DynamicTable Decoder HeaderField

def EncoderInstruction.field (t : DynamicTable) : EncoderInstruction → Option HeaderField
  | .insertNameRef true nameIndex value => staticTable[nameIndex]?.map fun entry => ⟨entry.name, value⟩
  | .insertNameRef false nameIndex value => t.entries[nameIndex]?.map fun entry => ⟨entry.name, value⟩
  | .insertLiteral name value => some ⟨name, value⟩
  | .setCapacity _ => none
  | .duplicate index => t.entries[index]?

def EncoderInstruction.capacity (t : DynamicTable) : EncoderInstruction → Nat
  | .setCapacity capacity => capacity
  | _ => t.maxCapacity

structure Applied (t : DynamicTable) (i : EncoderInstruction) (u : DynamicTable) : Prop where
  inserts : ∀ field, i.field t = some field → field.size ≤ t.maxCapacity →
    u.entries = field :: t.kept field.size ∧ u.insertCount = t.insertCount + 1
  empties : ∀ field, i.field t = some field → t.maxCapacity < field.size →
    u.entries = [] ∧ u.insertCount = t.insertCount
  evicts : i.field t = none → u.entries = keep size (i.capacity t) t.entries ∧ u.insertCount = t.insertCount
  limits : u.maxCapacity = i.capacity t

/-- A name is taken from an entry that exists in the static table, or from one of the dynamic table
that the insertion does not evict. -/
def EncoderInstruction.NamesLive (t : DynamicTable) : EncoderInstruction → Prop
  | .insertNameRef true nameIndex _ => nameIndex < staticTable.length
  | .insertNameRef false nameIndex value => ∀ entry, t.entries[nameIndex]? = some entry →
    size ⟨entry.name, value⟩ ≤ t.maxCapacity →
    nameIndex < (t.kept (size ⟨entry.name, value⟩)).length
  | _ => True

/-- An instruction that ends without an error has been applied to a table that stays sound; one that
fails has no field to add. -/
def Settles (t : DynamicTable) (i : EncoderInstruction) (m : EStateM Failure DynamicTable Unit) : Prop :=
  wp m (fun _ u => u.Sound ∧ Applied t i u)
    (fun e u => u.Sound ∧ (i.NamesLive t → ¬ e.IsPanic ∧ i.field t = none)) t

variable {t : DynamicTable} {i : EncoderInstruction}

theorem settles_insert (sound : t.Sound) {name value : Bytes} (lender : Option Nat)
    (adds : i.field t = some ⟨name, value⟩) (limit : i.capacity t = t.maxCapacity)
    (live : i.NamesLive t → size ⟨name, value⟩ ≤ t.maxCapacity →
      (t.withEntries (t.kept (size ⟨name, value⟩))).holdsLender lender) :
    Settles t i (DynamicTable.insert lender name value) := by
  have only : ∀ field, i.field t = some field → field = ⟨name, value⟩ := fun field same =>
    Option.some.inj (same.symm.trans adds)
  have some_field : i.field t ≠ none := by simp [adds]
  rw [Settles, wp, insert_eq lender name value sound.size]
  split_ifs with large held
  · refine ⟨sound.clearEntries, ?_, ?_, fun none => absurd none some_field, limit.symm⟩
    · intro field same small
      obtain rfl := only field same
      omega
    · exact fun _ _ _ => ⟨rfl, rfl⟩
  · refine ⟨sound.insert (Nat.not_lt.mp large), ?_, ?_, fun none => absurd none some_field, limit.symm⟩
    · intro field same _
      obtain rfl := only field same
      exact ⟨rfl, rfl⟩
    · intro field same big
      obtain rfl := only field same
      omega
  · exact ⟨sound.withEntries (keep_isPrefix _ _), fun names => absurd (live names (Nat.not_lt.mp large)) held⟩

theorem applyEncoderInstruction_settles (sound : t.Sound) (i : EncoderInstruction) :
    Settles t i (applyEncoderInstruction i) := by
  cases i with
  | insertNameRef isStatic nameIndex value =>
    cases isStatic with
    | true =>
      simp only [applyEncoderInstruction, Settles, wp_bind, wp_orThrow]
      refine ⟨fun entry found => ?_, fun none => ⟨sound, fun live => ?_⟩⟩
      · exact settles_insert sound none (by simp [EncoderInstruction.field, found]) rfl fun _ _ => rfl
      · exact absurd live (Nat.not_lt.mpr (List.getElem?_eq_none_iff.mp none))
    | false =>
      simp only [applyEncoderInstruction, Settles, wp_bind, wp_get, lookup, wp_orThrow]
      refine ⟨fun entry found => ?_, fun gone => ⟨sound, fun _ => ⟨id, by simp [EncoderInstruction.field, gone]⟩⟩⟩
      refine settles_insert sound _ (by simp [EncoderInstruction.field, found]) rfl fun live small => ?_
      exact decide_eq_true (live entry found small)
  | insertLiteral name value => exact settles_insert sound none rfl rfl fun _ _ => rfl
  | setCapacity capacity =>
    refine ⟨sound.setCapacity capacity, by rintro _ ⟨⟩, by rintro _ ⟨⟩, fun _ => ?_, ?_⟩
    · rw [setCapacity_eq capacity sound.size]
      exact ⟨rfl, rfl⟩
    · rw [setCapacity_eq capacity sound.size]
      rfl
  | duplicate index =>
    simp only [applyEncoderInstruction, DynamicTable.duplicate, Settles, wp_bind, wp_get, lookup, wp_orThrow]
    refine ⟨fun entry found => ?_, fun gone => ⟨sound, fun _ => ⟨id, gone⟩⟩⟩
    exact settles_insert sound none found rfl fun _ _ => rfl

theorem applyEncoderInstruction_field (sound : t.Sound) {field : HeaderField}
    (adds : i.field t = some field) (live : i.NamesLive t) :
    ∃ u, applyEncoderInstruction i t = .ok () u ∧ u.Sound ∧ Applied t i u := by
  have settles := applyEncoderInstruction_settles sound i
  rw [Settles, wp] at settles
  cases run : applyEncoderInstruction i t with
  | ok _ u =>
    rw [run] at settles
    exact ⟨u, rfl, settles⟩
  | error e u =>
    rw [run] at settles
    cases adds.symm.trans (settles.2 live).2

variable {data : Bytes} {d : Decoder}

theorem decodeEncoderInstruction_bounds (slice : data.length < maxSlice) {s : Scratch} (valid : s.Valid) :
    wp (decodeEncoderInstruction decodeToScratch data) (fun r t => t.Valid ∧ 0 < r.2 ∧ r.2 ≤ data.length)
      (fun e t => t.Valid ∧ ¬ e.IsPanic) s := by
  have number : ∀ {bits : Nat} {Q : Nat × Nat → Scratch → Prop}, bits ≤ 8 → 0 < data.length →
      (∀ r : Nat × Nat, r.1 < 2 ^ 63 + 2 ^ 8 → 0 < r.2 → r.2 ≤ data.length → Q r s) →
      wp (decodeInteger bits data 0) Q (fun e t => t.Valid ∧ ¬ e.IsPanic) s := by
    intro bits Q narrow inside next
    refine wp_mono (decodeInteger_bounds narrow inside) ?_ ?_
    · rintro r t ⟨rfl, small, past, within⟩
      exact next r small past within
    · rintro e t ⟨rfl, quiet⟩
      exact ⟨valid, quiet⟩
  rw [decodeEncoderInstruction, wp_failIf_bind]
  refine ⟨fun _ => ⟨valid, id⟩, fun filled => ?_⟩
  have inside : 0 < data.length := by omega
  have top : maxU64 = 2 ^ 64 - 1 := rfl
  have widest : maxSlice = 2 ^ 62 := rfl
  have string := decodeStringWith_bounds decodeToScratch_quiet (fun _ _ => .intro) (show 7 ≤ 8 by decide) (.inl slice) valid
  simp only [wp_bind, wp_byteAt inside, wp_ite, wp_pure]
  refine ⟨fun _ => ?_, fun _ => ⟨fun _ => ?_, fun _ => ⟨fun _ => ?_, fun _ => ?_⟩⟩⟩
  · refine number (by decide) inside fun index _ past within => ?_
    exact wp_mono (string index.2) (fun _ _ h => ⟨h.1, by omega, h.2.2⟩)
  · rw [wp_failIf]
    refine ⟨fun _ => ⟨valid, id⟩, fun _ => number (by decide) inside fun len small past within => ?_⟩
    rw [wp_sumU64]
    refine ⟨fun _ => ?_, fun large => absurd large (by omega)⟩
    rw [wp_failIf]
    refine ⟨fun _ => ⟨valid, id⟩, fun _ => ?_⟩
    exact wp_mono (string _) (fun _ _ h => ⟨h.1, by omega, h.2.2⟩)
  · exact number (by decide) inside fun _ _ past within => ⟨valid, past, within⟩
  · exact number (by decide) inside fun _ _ past within => ⟨valid, past, within⟩

structure Decoder.Valid (d : Decoder) : Prop where
  scratch : d.scratch.Valid
  table : d.table.Sound

def Decoder.Reads (d : Decoder) (data : Bytes) (pos : Nat) (i : EncoderInstruction) (consumed : Nat) : Prop :=
  ∃ scratch, decodeEncoderInstruction decodeToScratch (data.drop pos) d.scratch = .ok (i, consumed) scratch

/-- One instruction: it lies in the input and has been applied to a sound table. -/
theorem encoderStreamStep_spec {pos : Nat} (slice : data.length < maxSlice) (inside : pos < data.length)
    (valid : d.Valid) : wp (encoderStreamStep data pos)
      (fun consumed t => t.Valid ∧ 0 < consumed ∧ pos + consumed ≤ data.length ∧
        ∃ i, d.Reads data pos i consumed ∧ Applied d.table i t.table)
      (fun e t => t.Valid ∧ ((∀ i consumed, d.Reads data pos i consumed → i.NamesLive d.table) → ¬ e.IsPanic))
      d := by
  have shorter : (data.drop pos).length = data.length - pos := List.length_drop
  simp only [encoderStreamStep, onScratch, onTable, wp_bind, wp_zoom, wp_pure]
  have read : wp (decodeEncoderInstruction decodeToScratch (data.drop pos)) _ _ d.scratch :=
    decodeEncoderInstruction_bounds (by omega) valid.scratch
  refine wp_mono (wp_run read) ?_ (fun _ _ h => ⟨⟨h.2.1, valid.table⟩, fun _ => h.2.2⟩)
  rintro decoded scratch ⟨run, ok, some_byte, within⟩
  have reads : d.Reads data pos decoded.1 decoded.2 := ⟨scratch, run⟩
  refine wp_mono (applyEncoderInstruction_settles valid.table decoded.1) ?_ ?_
  · rintro _ u ⟨sound, applied⟩
    exact ⟨⟨ok, sound⟩, some_byte, by omega, decoded.1, reads, applied⟩
  · rintro e u ⟨sound, quiet⟩
    exact ⟨⟨ok, sound⟩, fun live => (quiet (live _ _ reads)).1⟩

inductive Boundary (data : Bytes) (d : Decoder) : Nat → Decoder → Prop
  | start : Boundary data d 0 d
  | next {pos consumed : Nat} {s t : Decoder} : Boundary data d pos s → pos < data.length →
    encoderStreamStep data pos s = .ok consumed t → Boundary data d (pos + consumed) t

/-- No insertion of the batch names a static entry that does not exist or a dynamic one that it
evicts. -/
def LiveNames (data : Bytes) (d : Decoder) : Prop :=
  ∀ pos s, Boundary data d pos s → ∀ i consumed, s.Reads data pos i consumed → i.NamesLive s.table

theorem Boundary.valid (slice : data.length < maxSlice) (valid : d.Valid) {pos : Nat} {s : Decoder}
    (boundary : Boundary data d pos s) : s.Valid ∧ pos ≤ data.length := by
  induction boundary with
  | start => exact ⟨valid, Nat.zero_le _⟩
  | next _ inside step ih =>
    have spec := wp_returns step (encoderStreamStep_spec slice inside ih.1)
    exact ⟨spec.1, spec.2.2.1⟩

theorem encoderStreamLoop_spec (slice : data.length < maxSlice) (valid : d.Valid) (rounds : Nat) {pos : Nat}
    {s : Decoder} (boundary : Boundary data d pos s) (enough : data.length - pos ≤ rounds) :
    wp (encoderStreamLoop data rounds pos) (fun n t => n = data.length ∧ Boundary data d n t)
      (fun e t => t.Valid ∧ (LiveNames data d → ¬ e.IsPanic)) s := by
  induction rounds generalizing pos s with
  | zero =>
    have within := (boundary.valid slice valid).2
    exact ⟨by omega, boundary⟩
  | succ rounds ih =>
    obtain ⟨ok, within⟩ := boundary.valid slice valid
    rw [encoderStreamLoop, wp_ite]
    refine ⟨fun inside => ?_, fun out => ⟨by omega, boundary⟩⟩
    rw [wp_bind]
    refine wp_mono (wp_run (encoderStreamStep_spec slice inside ok)) ?_ ?_
    · rintro consumed t ⟨run, -, some_byte, ends, -⟩
      rw [if_neg (by omega)]
      exact ih (boundary.next inside run) (by omega)
    · rintro e t ⟨-, kept, quiet⟩
      exact ⟨kept, fun live => quiet (live pos s boundary)⟩

theorem decodeEncoderStreamInstructions_spec (slice : data.length < maxSlice) (valid : d.Valid) :
    wp (decodeEncoderStreamInstructions data) (fun n t => n = data.length ∧ Boundary data d n t)
      (fun e t => t.Valid ∧ (LiveNames data d → ¬ e.IsPanic)) d :=
  encoderStreamLoop_spec slice valid data.length .start (Nat.sub_le _ _)

/-- The decoders that a connection's encoder stream can lead to: from an empty table with the
advertised capacity, batch after batch, while other connections use the shared buffer. -/
inductive Reached (localQpackMaxTableCapacity : Nat) : Decoder → Prop
  | start {scratch : Scratch} : scratch.Valid →
    Reached localQpackMaxTableCapacity ⟨scratch, DynamicTable.setCapacity localQpackMaxTableCapacity {}⟩
  | elsewhere {d : Decoder} {scratch : Scratch} : Reached localQpackMaxTableCapacity d → scratch.Valid →
    Reached localQpackMaxTableCapacity { d with scratch := scratch }
  | boundary {d s : Decoder} {data : Bytes} {pos : Nat} : Reached localQpackMaxTableCapacity d →
    data.length < maxSlice → Boundary data d pos s → Reached localQpackMaxTableCapacity s
  | failed {d : Decoder} {data : Bytes} : Reached localQpackMaxTableCapacity d → data.length < maxSlice →
    Reached localQpackMaxTableCapacity (after (decodeEncoderStreamInstructions data) d)

theorem Reached.valid {limit : Nat} (reached : Reached limit d) : d.Valid := by
  induction reached with
  | start scratch =>
    have empty : ({} : DynamicTable).Sound := ⟨rfl, Nat.zero_le _, Nat.zero_le _⟩
    exact ⟨scratch, empty.setCapacity limit⟩
  | elsewhere _ scratch ih => exact ⟨scratch, ih.table⟩
  | boundary _ slice boundary ih => exact (boundary.valid slice ih).1
  | failed _ slice ih =>
    exact wp_after (wp_mono (decodeEncoderStreamInstructions_spec slice ih)
      (fun _ _ h => (h.2.valid slice ih).1) (fun _ _ h => h.1))

def Decoder.empty (localQpackMaxTableCapacity : Nat) : Decoder :=
  ⟨Scratch.fresh, DynamicTable.setCapacity localQpackMaxTableCapacity {}⟩

end Quicz.H3
