import Quicz.Lib.Trace
import Quicz.H3.EncoderStream
import Quicz.H3.RoundTrip

/-! A QPACK encoder and a decoder joined by an encoder stream, which keeps its order, and by header
blocks, which arrive whenever their own streams deliver them. -/
namespace Quicz.H3

open Proc Fitting Trace DynamicTable List HeaderField Scratch

variable {capacity : Nat} {log : List HeaderField} {t : DynamicTable} {field : HeaderField}

structure SentBlock where
  fields : List HeaderField
  block : Bytes
  requiredInsertCount : Nat
  table : DynamicTable

def SentBlock.representations (sent : SentBlock) : List FieldRepresentation :=
  sent.fields.map fun field => selectFieldRepresentation field sent.table

/-- The two ends, what the encoder has written to its stream, how much of it has arrived, and the
blocks it has made. -/
structure Link where
  encoder : Encoder
  emitted : List EncoderInstruction
  delivered : Nat
  blocks : List SentBlock
  decoder : Decoder

inductive LinkEvent
  | encode (streamId : Nat) (fields : List HeaderField)
  | feedback (data : Bytes)
  | deliver (count : Nat)
  | decode (index outLen : Nat)
  | elsewhere (scratch : Scratch)

namespace Link

def start (capacity : Nat) (scratch : Scratch) : Link :=
  { encoder := ⟨{ maxCapacity := capacity }, []⟩, emitted := [], delivered := 0, blocks := [],
    decoder := ⟨scratch, { maxCapacity := capacity }⟩ }

variable (l : Link) (streamId : Nat) (fields : List HeaderField)

/-- What startResponse (server.zig) does with an encoded block. -/
def send (r : DynamicEncodeResult) (t : DynamicTable) : Link :=
  { l with
    encoder := if r.requiredInsertCount > 0 then
        { l.encoder with table := t }.addPending streamId r.requiredInsertCount
      else { l.encoder with table := t }
    emitted := l.emitted ++ r.instructions
    blocks := l.blocks ++ [⟨fields, r.headerBlock, r.requiredInsertCount, t⟩] }

def batch (count : Nat) : List EncoderInstruction := (l.emitted.drop l.delivered).take count

/-- They arrive whole: the runtime driver holds back a part of one. -/
def batchBytes (count : Nat) : Bytes := (l.batch count).flatMap encodeEncoderInstruction

def decodeBlock (sent : SentBlock) (outLen : Nat) : EStateM Failure Scratch (List HeaderField × Nat) :=
  decodeHeaderBlockWithDynamicInfo decodeToScratch l.decoder.table sent.block outLen

def step : LinkEvent → Link
  | .encode streamId fields =>
    match encodeHeaderBlockWithDynamicInserting fields l.encoder.table with
    | .ok r t => l.send streamId fields r t
    | .error _ t => { l with encoder := { l.encoder with table := t } }
  | .feedback data => { l with encoder := after (decodeDecoderStreamInstructions data) l.encoder }
  | .deliver count =>
    { l with decoder := after (decodeEncoderStreamInstructions (l.batchBytes count)) l.decoder,
             delivered := l.delivered + (l.batch count).length }
  | .decode index outLen =>
    match l.blocks[index]? with
    | none => l
    | some sent =>
      { l with decoder := { l.decoder with scratch := after (l.decodeBlock sent outLen) l.decoder.scratch } }
  | .elsewhere scratch => { l with decoder := { l.decoder with scratch := scratch } }

theorem step_encode_decoder : (l.step (.encode streamId fields)).decoder = l.decoder := by
  simp only [step]
  split <;> rfl

end Link

def mirror (capacity : Nat) (log : List HeaderField) : List HeaderField :=
  log.foldl (fun entries field => field :: keep size (capacity - field.size) entries) []

theorem mirror_concat (capacity : Nat) (log : List HeaderField) (field : HeaderField) :
    mirror capacity (log ++ [field]) = field :: keep size (capacity - field.size) (mirror capacity log) := by
  simp [mirror, foldl_append]

structure Holds (capacity : Nat) (log : List HeaderField) (t : DynamicTable) : Prop where
  sound : t.Sound
  capacity_eq : t.maxCapacity = capacity
  count : t.insertCount = log.length
  front : t.entries <+: mirror capacity log

structure EncoderInstruction.Adds (capacity : Nat) (entries : List HeaderField) (i : EncoderInstruction)
    (field : HeaderField) : Prop where
  field_eq : i.field { entries := entries } = some field
  fits : field.size ≤ capacity
  small : i.Small

inductive Scripted (capacity : Nat) : List HeaderField → List EncoderInstruction → List HeaderField → Prop
  | nil {log : List HeaderField} : Scripted capacity log [] log
  | cons {log log' : List HeaderField} {i : EncoderInstruction} {rest : List EncoderInstruction}
    {field : HeaderField} : i.Adds capacity (mirror capacity log) field →
    Scripted capacity (log ++ [field]) rest log' → Scripted capacity log (i :: rest) log'

theorem Scripted.append {a b c : List HeaderField} {xs ys : List EncoderInstruction}
    (first : Scripted capacity a xs b) (next : Scripted capacity b ys c) : Scripted capacity a (xs ++ ys) c := by
  induction first with
  | nil => exact next
  | cons adds _ ih => exact .cons adds (ih next)

theorem Scripted.split {a c : List HeaderField} (xs : List EncoderInstruction) {ys : List EncoderInstruction}
    (all : Scripted capacity a (xs ++ ys) c) : ∃ b, Scripted capacity a xs b ∧ Scripted capacity b ys c := by
  induction xs generalizing a with
  | nil => exact ⟨a, .nil, all⟩
  | cons x xs ih =>
    cases all with
    | cons adds rest =>
      obtain ⟨b, front, back⟩ := ih rest
      exact ⟨b, .cons adds front, back⟩

theorem Scripted.log_eq {a b : List HeaderField} {xs : List EncoderInstruction}
    (script : Scripted capacity a xs b) : a <+: b ∧ b.length = a.length + xs.length := by
  induction script with
  | nil => exact ⟨prefix_refl _, rfl⟩
  | cons _ _ ih =>
    refine ⟨(prefix_append _ _).trans ih.1, ?_⟩
    rw [ih.2, length_append, length_singleton, length_cons]
    omega

theorem Holds.shrink (holds : Holds capacity log t) {left : List HeaderField} (front : left <+: t.entries) :
    Holds capacity log (t.withEntries left) :=
  ⟨holds.sound.withEntries front, holds.capacity_eq, holds.count, front.trans holds.front⟩

theorem Holds.insert (holds : Holds capacity log t) (fits : field.size ≤ t.maxCapacity) :
    Holds capacity (log ++ [field]) ((t.withEntries (t.kept field.size)).push field) where
  sound := holds.sound.insert fits
  capacity_eq := holds.capacity_eq
  count := by
    rw [length_append, length_singleton, ← holds.count]
    rfl
  front := by
    rw [mirror_concat, ← holds.capacity_eq]
    exact cons_prefix_cons.mpr ⟨rfl, keep_mono _ (holds.capacity_eq ▸ holds.front)⟩

/-- An entry takes 32 bytes at least. -/
theorem Holds.few (holds : Holds capacity log t) : t.entries.length ≤ capacity := by
  have each : ∀ entries : List HeaderField, entries.length ≤ held entries := by
    intro entries
    induction entries with
    | nil => exact Nat.zero_le _
    | cons entry rest ih =>
      simp only [held, total_cons, size, dynamicEntryOverhead, length_cons] at ih ⊢
      omega
  exact (each _).trans (holds.sound.size ▸ holds.capacity_eq ▸ holds.sound.fits)

theorem tryInsertProtected_spec (holds : Holds capacity log t) (name value : Bytes) :
    wp (tryInsertProtected name value) (fun inserted u => (inserted = true ∧ size ⟨name, value⟩ ≤ capacity ∧
        Holds capacity (log ++ [⟨name, value⟩]) u) ∨ (inserted = false ∧ Holds capacity log u))
      (fun _ _ => False) t := by
  simp only [tryInsertProtected, insertInternal, wp_bind, wp_get, wp_ite, wp_set, wp_pure, wp_failIf]
  refine ⟨fun _ => .inr ⟨trivial, holds.shrink nil_prefix⟩, fun small => ?_⟩
  obtain ⟨left, after, front, -, whole⟩ := evictFor_evicted (size ⟨name, value⟩) true
    t.entries.length holds.sound.size le_rfl (Nat.not_lt.mp small)
  refine ⟨fun ended => ⟨fun gone => absurd gone (by simp [holdsLender]), fun _ => .inl ⟨trivial, ?_, ?_⟩⟩,
    fun _ => .inr ⟨trivial, ?_⟩⟩
  · exact holds.capacity_eq ▸ Nat.not_lt.mp small
  · rw [after, whole ended]
    exact holds.insert (Nat.not_lt.mp small)
  · rw [after]
    exact holds.shrink front

variable {rep : FieldRepresentation} {index : Nat} {entries : List HeaderField}

theorem findIdx_name {name : Bytes} (found : entries.findIdx? (fun entry => entry.name = name) = some index) :
    ∃ entry, entries[index]? = some entry ∧ entry.name = name := by
  obtain ⟨inside, same, -⟩ := findIdx?_eq_some_iff_getElem.mp found
  exact ⟨_, getElem?_eq_getElem inside, by simpa using same⟩

theorem findIdx_exact
    (found : entries.findIdx? (fun entry => entry.name = field.name ∧ entry.value = field.value) = some index) :
    entries[index]? = some field := by
  obtain ⟨inside, same, -⟩ := findIdx?_eq_some_iff_getElem.mp found
  rw [getElem?_eq_getElem inside]
  simp only [decide_eq_true_eq] at same
  exact congrArg some (by cases h : entries[index]; cases field; simp_all)

theorem getElem_of_front {xs ys : List HeaderField} (front : xs <+: ys) {entry : HeaderField}
    (found : xs[index]? = some entry) : ys[index]? = some entry := by
  obtain ⟨rest, rfl⟩ := front
  obtain ⟨inside, -⟩ := List.getElem?_eq_some_iff.mp found
  rw [getElem?_append_left inside, found]

/-- The instruction for a field adds just that field to the decoder's table. -/
theorem insertInstruction_adds (holds : Holds capacity log t) (bound : capacity ≤ maxQuicVarint)
    (fits : field.size ≤ capacity) : (insertInstruction field t).Adds capacity (mirror capacity log) field := by
  have quic : maxQuicVarint = 2 ^ 62 - 1 := rfl
  unfold insertInstruction
  split
  · rename_i index found
    obtain ⟨entry, at_index, name⟩ := findIdx_name found
    have inside := (List.getElem?_eq_some_iff.mp at_index).1
    have few := holds.few
    refine ⟨?_, fits, show index < 2 ^ 63 by omega⟩
    simp [EncoderInstruction.field, getElem_of_front holds.front at_index, name]
  · split
    · rename_i index found
      obtain ⟨entry, at_index, name⟩ := findIdx_name found
      exact ⟨by simp [EncoderInstruction.field, at_index, name], fits, static_index_small at_index⟩
    · refine ⟨rfl, fits, show field.name.length < 2 ^ 63 from ?_⟩
      simp only [size] at fits
      omega

theorem insertFields_spec (holds : Holds capacity log t) (bound : capacity ≤ maxQuicVarint)
    (fields : List HeaderField) : wp (insertFields fields)
      (fun instructions u => ∃ log', Scripted capacity log instructions log' ∧ Holds capacity log' u)
      (fun _ _ => False) t := by
  induction fields generalizing log t with
  | nil => exact ⟨log, .nil, holds⟩
  | cons field fields ih =>
    simp only [insertFields, wp_bind, wp_get, wp_ite]
    refine ⟨fun _ => ih holds, fun _ => ⟨fun _ => ih holds, fun _ => ?_⟩⟩
    refine wp_mono (tryInsertProtected_spec holds field.name field.value) ?_
    rintro inserted u (⟨rfl, fits, next⟩ | ⟨rfl, next⟩)
    · refine wp_mono (ih next) ?_
      rintro instructions v ⟨log', script, last⟩
      exact ⟨log', .cons (insertInstruction_adds holds bound fits) script, last⟩
    · refine wp_mono (ih next) ?_
      rintro instructions v ⟨log', script, last⟩
      exact ⟨log', script, last⟩

theorem selectFieldRepresentation_denotes (holds : Holds capacity log t) (bound : capacity ≤ maxQuicVarint)
    (field : HeaderField) : (selectFieldRepresentation field t).Denotes t field := by
  have few := holds.few
  have quic : maxQuicVarint = 2 ^ 62 - 1 := rfl
  have small : ∀ {index : Nat} {entry : HeaderField}, t.entries[index]? = some entry → index < 2 ^ 63 := by
    intro index entry found
    have inside := (List.getElem?_eq_some_iff.mp found).1
    omega
  unfold selectFieldRepresentation
  split
  · rename_i index found
    have at_index := findIdx_exact (Option.filter_eq_some_iff.mp found).1
    exact ⟨small at_index, at_index⟩
  · split
    · rename_i index found
      exact findIdx_exact found
    · split
      · rename_i index found
        obtain ⟨entry, at_index, name⟩ := findIdx_name (Option.filter_eq_some_iff.mp found).1
        exact ⟨small at_index, entry, at_index, by rw [name]⟩
      · split
        · rename_i index found
          obtain ⟨entry, at_index, name⟩ := findIdx_name found
          exact ⟨entry, at_index, by rw [name]⟩
        · rfl

theorem FieldRepresentation.Denotes.inside (denotes : rep.Denotes t field)
    (refers : rep.dynamicIndex = some index) : index < t.entries.length := by
  cases rep with
  | dynamicIndexed relativeIndex =>
    cases refers
    exact (List.getElem?_eq_some_iff.mp denotes.2).1
  | dynamicNameRef relativeIndex value =>
    cases refers
    obtain ⟨-, entry, found, -⟩ := denotes
    exact (List.getElem?_eq_some_iff.mp found).1
  | staticIndexed _ | staticNameRef _ _ | literal _ _ => cases refers

theorem FieldRepresentation.Denotes.mono {u : DynamicTable} (front : t.entries <+: u.entries)
    (denotes : rep.Denotes t field) : rep.Denotes u field := by
  cases rep with
  | dynamicIndexed relativeIndex => exact ⟨denotes.1, getElem_of_front front denotes.2⟩
  | dynamicNameRef relativeIndex value =>
    obtain ⟨small, entry, found, same⟩ := denotes
    exact ⟨small, entry, getElem_of_front front found, same⟩
  | staticIndexed _ | staticNameRef _ _ | literal _ _ => exact denotes

theorem FieldRepresentation.Denotes.anywhere (own : rep.dynamicIndex = none) (denotes : rep.Denotes t field)
    (u : DynamicTable) : rep.Denotes u field := by
  cases rep with
  | dynamicIndexed _ | dynamicNameRef _ _ => cases own
  | staticIndexed _ | staticNameRef _ _ | literal _ _ => exact denotes

theorem requiredInsertCount_spec {σ : Type} (s : σ) (counted : t.entries.length ≤ t.insertCount)
    {reps : List FieldRepresentation}
    (inside : ∀ rep ∈ reps, ∀ index, rep.dynamicIndex = some index → index < t.entries.length)
    {count : Nat} (bound : count ≤ t.insertCount) :
    ∃ required, requiredInsertCount t count reps s = .ok required s ∧ count ≤ required ∧
      required ≤ t.insertCount ∧ ∀ rep ∈ reps, rep.dynamicIndex ≠ none → 0 < required := by
  induction reps generalizing count with
  | nil => exact ⟨count, rfl, le_rfl, bound, nofun⟩
  | cons rep reps ih =>
    have rest := fun r member => inside r (mem_cons_of_mem _ member)
    cases refers_to : rep.dynamicIndex with
    | none =>
      simp only [requiredInsertCount, refers_to]
      obtain ⟨required, run, least, most, refers⟩ := ih rest bound
      refine ⟨required, run, least, most, fun r member some_index => ?_⟩
      rcases mem_cons.mp member with rfl | member
      · exact absurd refers_to some_index
      · exact refers r member some_index
    | some index =>
      simp only [requiredInsertCount, refers_to]
      have held := inside rep mem_cons_self index refers_to
      have absolute : t.getAbsoluteIndex index s = .ok (t.insertCount - 1 - index) s :=
        (run_bind_ok (run_failIf (show ¬ index ≥ t.entries.length by omega) _) _).trans rfl
      have below : max count (t.insertCount - 1 - index + 1) ≤ t.insertCount := by omega
      obtain ⟨required, run, least, most, -⟩ := ih rest below
      exact ⟨required, (run_bind_ok absolute _).trans run, by omega, most, fun _ _ _ => by omega⟩

structure SentBlock.Meant (sent : SentBlock) : Prop where
  block_eq : sent.block = encodeInteger 0 8 sent.requiredInsertCount ++ [0x00] ++
    sent.representations.flatMap encodeFieldRepresentation
  known : sent.requiredInsertCount ≤ sent.table.insertCount
  counts : ∀ rep ∈ sent.representations, rep.dynamicIndex ≠ none → 0 < sent.requiredInsertCount
  denotes : ∀ field ∈ sent.fields, (selectFieldRepresentation field sent.table).Denotes sent.table field

theorem encodeHeaderBlockWithDynamicInserting_spec (holds : Holds capacity log t)
    (bound : capacity ≤ maxQuicVarint) (fields : List HeaderField) :
    wp (encodeHeaderBlockWithDynamicInserting fields)
      (fun r u => ∃ log', Scripted capacity log r.instructions log' ∧ Holds capacity log' u ∧
        SentBlock.Meant ⟨fields, r.headerBlock, r.requiredInsertCount, u⟩) (fun _ _ => False) t := by
  rw [encodeHeaderBlockWithDynamicInserting, wp_bind]
  refine wp_mono (insertFields_spec holds bound fields) ?_
  rintro instructions u ⟨log', script, next⟩
  have denotes := selectFieldRepresentation_denotes next bound
  have inside : ∀ rep ∈ fields.map fun field => selectFieldRepresentation field u,
      ∀ index, rep.dynamicIndex = some index → index < u.entries.length := by
    intro rep member index refers
    obtain ⟨field, -, rfl⟩ := mem_map.mp member
    exact (denotes field).inside refers
  obtain ⟨required, run, -, most, refers⟩ :=
    requiredInsertCount_spec u next.sound.counted inside (Nat.zero_le _)
  simp only [encodeHeaderBlockWithDynamicInfo, wp_bind, wp_get, wp_pure]
  rw [wp, run]
  exact ⟨log', script, next, rfl, most, refers, fun field _ => denotes field⟩

structure Mirrors (capacity : Nat) (log : List HeaderField) (t : DynamicTable) : Prop extends
    Holds capacity log t where
  whole : t.entries = mirror capacity log

theorem Mirrors.field_eq (mirrors : Mirrors capacity log t) (i : EncoderInstruction) :
    i.field t = i.field { entries := mirror capacity log } := by
  rw [← mirrors.whole]
  cases i with
  | insertNameRef isStatic nameIndex value => cases isStatic <;> rfl
  | insertLiteral _ _ | setCapacity _ | duplicate _ => rfl

variable {i : EncoderInstruction}

theorem Mirrors.insert {t u : DynamicTable} (mirrors : Mirrors capacity log t)
    (adds : i.Adds capacity (mirror capacity log) field) (applied : Applied t i u) (sound : u.Sound) :
    Mirrors capacity (log ++ [field]) u := by
  have same := (mirrors.field_eq i).trans adds.field_eq
  obtain ⟨entries, count⟩ := applied.inserts field same (mirrors.capacity_eq ▸ adds.fits)
  have whole : u.entries = mirror capacity (log ++ [field]) := by
    rw [entries, mirror_concat, ← mirrors.whole, ← mirrors.capacity_eq]
    rfl
  have limit : i.capacity t = t.maxCapacity := by
    cases i with
    | setCapacity _ => cases same
    | insertNameRef _ _ _ | insertLiteral _ _ | duplicate _ => rfl
  exact { sound := sound, capacity_eq := (applied.limits.trans limit).trans mirrors.capacity_eq,
          count := by rw [count, mirrors.count, length_append, length_singleton],
          front := whole ▸ prefix_rfl, whole := whole }

inductive BatchReadsBack (data : Bytes) : Nat → List EncoderInstruction → Scratch → Scratch → Prop
  | nil {pos : Nat} {s : Scratch} : BatchReadsBack data pos [] s s
  | cons {pos : Nat} {i : EncoderInstruction} {rest : List EncoderInstruction} {s mid u : Scratch} :
    i.ReadsBack (data.drop pos) s mid →
    BatchReadsBack data (pos + (encodeEncoderInstruction i).length) rest mid u →
    BatchReadsBack data pos (i :: rest) s u

/-- No insertion evicts the entry it takes its name from. -/
def NamesLast (capacity : Nat) : List HeaderField → List EncoderInstruction → Prop
  | _, [] => True
  | entries, i :: rest => i.NamesLive { entries := entries, maxCapacity := capacity } ∧
    ∀ field, i.field { entries := entries } = some field →
      NamesLast capacity (field :: keep size (capacity - field.size) entries) rest

theorem EncoderInstruction.NamesLive.congr {t u : DynamicTable} (entries : u.entries = t.entries)
    (limit : u.maxCapacity = t.maxCapacity) (live : i.NamesLive t) : i.NamesLive u := by
  cases i with
  | insertNameRef isStatic nameIndex value =>
    cases isStatic with
    | true => exact live
    | false =>
      simp only [NamesLive, kept, entries, limit]
      exact live
  | insertLiteral _ _ | setCapacity _ | duplicate _ => trivial

theorem encoderStreamStep_encode {data rest : Bytes} {pos : Nat} {d : Decoder} {mid : Scratch}
    (mirrors : Mirrors capacity log d.table)
    (adds : i.Adds capacity (mirror capacity log) field)
    (live : i.NamesLive { entries := mirror capacity log, maxCapacity := capacity })
    (here : data.drop pos = encodeEncoderInstruction i ++ rest) (slice : data.length < maxSlice)
    (back : i.ReadsBack (data.drop pos) d.scratch mid) :
    ∃ u, encoderStreamStep data pos d = .ok (encodeEncoderInstruction i).length ⟨mid, u⟩ ∧
      Mirrors capacity (log ++ [field]) u := by
  have within : (data.drop pos).length ≤ maxU64 := by
    have top : maxU64 = 2 ^ 64 - 1 := rfl
    have widest : maxSlice = 2 ^ 62 := rfl
    rw [length_drop]
    omega
  have read := decodeEncoderInstruction_encode i here adds.small within back
  obtain ⟨u, run, sound, applied⟩ := applyEncoderInstruction_field mirrors.sound
    ((mirrors.field_eq i).trans adds.field_eq) (live.congr mirrors.whole mirrors.capacity_eq)
  refine ⟨u, ?_, mirrors.insert adds applied sound⟩
  simp only [encoderStreamStep, Decoder.onScratch, Decoder.onTable]
  refine run_ok ?_
  simp only [wp_bind, wp_zoom]
  rw [wp, read]
  simp only
  rw [wp, run]
  exact ⟨rfl, rfl⟩

theorem encoderStreamLoop_encode {data : Bytes} (slice : data.length < maxSlice)
    {batch : List EncoderInstruction} {log' : List HeaderField} (script : Scripted capacity log batch log')
    {pos rounds : Nat} {d : Decoder} {u : Scratch} (mirrors : Mirrors capacity log d.table)
    (here : data.drop pos = batch.flatMap encodeEncoderInstruction)
    (back : BatchReadsBack data pos batch d.scratch u) (last : NamesLast capacity (mirror capacity log) batch)
    (enough : data.length - pos ≤ rounds) :
    ∃ n t, encoderStreamLoop data rounds pos d = .ok n t ∧ Mirrors capacity log' t.table := by
  induction script generalizing pos rounds d with
  | nil =>
    have ended : ¬ pos < data.length := Nat.not_lt.mpr (drop_eq_nil_iff.mp here)
    cases rounds with
    | zero => exact ⟨pos, d, rfl, mirrors⟩
    | succ rounds =>
      rw [encoderStreamLoop, if_neg ended]
      exact ⟨pos, d, rfl, mirrors⟩
  | @cons log log' i rest field adds script ih =>
    cases back with
    | cons i_back rest_back =>
    have some_byte := encodeEncoderInstruction_pos i
    rw [flatMap_cons] at here
    have inside : pos < data.length := by
      have sizes := congrArg length here
      rw [length_drop, length_append] at sizes
      omega
    obtain ⟨rounds, rfl⟩ : ∃ n, rounds = n + 1 := ⟨rounds - 1, by omega⟩
    obtain ⟨t, step, next⟩ := encoderStreamStep_encode mirrors adds last.1 here slice i_back
    have later := last.2 field adds.field_eq
    rw [← mirror_concat] at later
    have enough : data.length - (pos + (encodeEncoderInstruction i).length) ≤ rounds := by omega
    obtain ⟨n, end_state, run, reached⟩ := ih (d := ⟨_, t⟩) next (drop_append here) rest_back later enough
    refine ⟨n, end_state, ?_, reached⟩
    rw [encoderStreamLoop, if_pos inside, run_bind_ok step, if_neg (by omega), run]

structure DynamicTable.SameEntries (t u : DynamicTable) : Prop where
  entries : u.entries = t.entries
  size : u.currentSize = t.currentSize
  limit : u.maxCapacity = t.maxCapacity
  count : u.insertCount = t.insertCount

def Encoder.SameEntries (e f : Encoder) : Prop := e.table.SameEntries f.table

instance : IsPreorder Encoder Encoder.SameEntries where
  refl _ := ⟨rfl, rfl, rfl, rfl⟩
  trans _ _ _ h k := ⟨k.1.trans h.1, k.2.trans h.2, k.3.trans h.3, k.4.trans h.4⟩

theorem Holds.same {t u : DynamicTable} (holds : Holds capacity log t)
    (same : t.SameEntries u) : Holds capacity log u where
  sound := ⟨by rw [same.size, same.entries, holds.sound.size], by rw [same.size, same.limit]; exact holds.sound.fits,
    by rw [same.entries, same.count]; exact holds.sound.counted⟩
  capacity_eq := same.limit.trans holds.capacity_eq
  count := same.count.trans holds.count
  front := same.entries ▸ holds.front

variable {σ : Type} {T : σ → σ → Prop} [IsPreorder σ T]

theorem decodeVarintLoop_steps (data : Bytes) (p result shift : Nat) :
    Steps T (decodeVarintLoop (σ := σ) data p result shift) := by
  induction data generalizing p result shift with
  | nil => exact .throw _
  | cons byte rest ih => exact .ite _ (.pure _) (.ite _ (.throw _) (ih _ _ _))

theorem decodeInteger_steps (bits : Nat) (data : Bytes) (pos : Nat) :
    Steps T (decodeInteger (σ := σ) bits data pos) := by
  refine (Steps.orThrow _ _).bind fun first => .ite _ ?_ (.pure _)
  exact (decodeVarintLoop_steps _ _ _ _).bind fun rest => (Steps.orThrow _ _).bind fun _ => .pure _

theorem decodeDecoderInstruction_steps (data : Bytes) : Steps T (decodeDecoderInstruction (σ := σ) data) := by
  refine (Steps.failIf _ _).bind fun _ => (Steps.orThrow _ _).bind fun first => .ite _ ?_ (.ite _ ?_ ?_)
  · exact (decodeInteger_steps _ _ _).bind fun _ => .pure _
  · exact (decodeInteger_steps _ _ _).bind fun _ => .pure _
  · exact (decodeInteger_steps _ _ _).bind fun _ => .pure _

theorem acknowledge_same (count : Nat) :
    Steps Encoder.SameEntries (Encoder.onTable (DynamicTable.acknowledgeReceived count)) := by
  intro e
  simp only [Encoder.onTable, wp_zoom, DynamicTable.acknowledgeReceived, wp_bind, wp_get, wp_failIf, wp_set]
  exact ⟨fun _ => ⟨rfl, rfl, rfl, rfl⟩, fun _ => ⟨rfl, rfl, rfl, rfl⟩⟩

theorem applyDecoderInstruction_same (i : DecoderInstruction) :
    Steps Encoder.SameEntries (applyDecoderInstruction i) := by
  cases i with
  | sectionAck streamId =>
    refine .read fun e => (Steps.orThrow _ _).bind fun pending => ?_
    refine Steps.bind (.modify fun _ => ⟨rfl, rfl, rfl, rfl⟩) fun _ => ?_
    exact (acknowledge_same _).bind fun _ => .modify fun _ => ⟨rfl, rfl, rfl, rfl⟩
  | streamCancellation streamId => exact .modify fun _ => ⟨rfl, rfl, rfl, rfl⟩
  | insertCountIncrement increment =>
    refine (Steps.failIf _ _).bind fun _ => .read fun e => (Steps.orThrow _ _).bind fun _ => acknowledge_same _

theorem decodeDecoderStreamInstructions_same (data : Bytes) :
    Steps Encoder.SameEntries (decodeDecoderStreamInstructions data) := by
  have loop : ∀ rounds pos, Steps Encoder.SameEntries (decoderStreamLoop data rounds pos) := by
    intro rounds
    induction rounds with
    | zero => exact fun _ => .pure _
    | succ rounds ih =>
      refine fun pos => .ite _ ?_ (.pure _)
      refine (decodeDecoderInstruction_steps _).bind fun decoded => ?_
      exact (applyDecoderInstruction_same _).bind fun _ => .ite _ (.pure _) (ih _)
  exact loop _ _

/-- The answer is the list that was encoded, unless the block needs insertions that have not arrived. -/
def Link.Agrees (l : Link) : LinkEvent → Prop
  | .decode index outLen => ∀ sent, l.blocks[index]? = some sent →
    outcome (l.decodeBlock sent outLen) l.decoder.scratch = .ok (sent.fields, sent.requiredInsertCount) ∨
    l.decoder.table.insertCount < sent.requiredInsertCount ∧
      outcome (l.decodeBlock sent outLen) l.decoder.scratch = .error (.error .blockedByQpack)
  | _ => True

/-- A block with references is decoded before any later insertion arrives, insertions do not evict
the entry they are named after, and literals are read back. -/
def Link.Meets (l : Link) : LinkEvent → Prop
  | .decode index outLen => ∀ sent, l.blocks[index]? = some sent →
    sent.fields.length ≤ outLen ∧ sent.requiredInsertCount < 2 ^ 63 ∧
    (0 < sent.requiredInsertCount → sent.requiredInsertCount ≤ l.decoder.table.insertCount →
      l.decoder.table.insertCount = sent.table.insertCount) ∧
    ∃ u, LinesReadBack sent.block ((encodeInteger 0 8 sent.requiredInsertCount).length + 1)
      sent.representations l.decoder.scratch u
  | .deliver count => (l.batchBytes count).length < maxSlice ∧
    NamesLast l.decoder.table.maxCapacity l.decoder.table.entries (l.batch count) ∧
    ∃ u, BatchReadsBack (l.batchBytes count) 0 (l.batch count) l.decoder.scratch u
  | _ => True

structure Link.Inv (capacity : Nat) (log : List HeaderField) (l : Link) : Prop where
  encoder : Holds capacity log l.encoder.table
  script : Scripted capacity [] l.emitted log
  decoder : Mirrors capacity (log.take l.delivered) l.decoder.table
  arrived : l.delivered ≤ log.length
  blocks : ∀ sent ∈ l.blocks, sent.Meant ∧ sent.table.insertCount ≤ log.length ∧
    Holds capacity (log.take sent.table.insertCount) sent.table

variable {l : Link}

theorem Link.Inv.start (capacity : Nat) (scratch : Scratch) : (Link.start capacity scratch).Inv capacity [] where
  encoder := ⟨⟨rfl, Nat.zero_le _, le_rfl⟩, rfl, rfl, prefix_rfl⟩
  script := .nil
  decoder := ⟨⟨⟨rfl, Nat.zero_le _, le_rfl⟩, rfl, rfl, prefix_rfl⟩, rfl⟩
  arrived := le_rfl
  blocks := nofun

theorem Link.Inv.encode (inv : l.Inv capacity log) (bound : capacity ≤ maxQuicVarint) (streamId : Nat)
    (fields : List HeaderField) : ∃ log', (l.step (.encode streamId fields)).Inv capacity log' := by
  have spec := encodeHeaderBlockWithDynamicInserting_spec inv.encoder bound fields
  simp only [Link.step]
  rw [wp] at spec
  split
  · rename_i r t run
    rw [run] at spec
    obtain ⟨log', script, holds, meant⟩ := spec
    have longer := script.log_eq.1
    have shorter := longer.length_le
    have same : ∀ n ≤ log.length, log'.take n = log.take n := by
      intro n short
      obtain ⟨more, rfl⟩ := longer
      exact take_append_of_le_length short
    refine ⟨log', ?_, inv.script.append script, ?_, inv.arrived.trans shorter, fun sent member => ?_⟩
    · show Holds capacity log' (ite _ _ _ : Encoder).table
      split_ifs
      · exact holds.same ⟨rfl, rfl, rfl, rfl⟩
      · exact holds
    · show Mirrors capacity (log'.take l.delivered) l.decoder.table
      rw [same _ inv.arrived]
      exact inv.decoder
    · rcases mem_append.mp member with old | new
      · obtain ⟨means, known, was⟩ := inv.blocks sent old
        exact ⟨means, known.trans shorter, by rwa [same _ known]⟩
      · obtain rfl := mem_singleton.mp new
        refine ⟨meant, holds.count.le, ?_⟩
        rwa [holds.count, take_length]
  · rename_i e t run
    rw [run] at spec
    exact spec.elim

theorem Scripted.between {emitted : List EncoderInstruction} (script : Scripted capacity [] emitted log)
    (start count : Nat) (within : start ≤ log.length) :
    Scripted capacity (log.take start) ((emitted.drop start).take count)
      (log.take (start + ((emitted.drop start).take count).length)) := by
  have upto : ∀ {a c : List HeaderField} (xs ys : List EncoderInstruction), Scripted capacity a (xs ++ ys) c →
      Scripted capacity a xs (c.take (a.length + xs.length)) ∧
        Scripted capacity (c.take (a.length + xs.length)) ys c := by
    intro a c xs ys all
    obtain ⟨b, front, back⟩ := all.split
    have size := front.log_eq.2
    obtain ⟨more, rfl⟩ := back.log_eq.1
    rw [← size, take_left]
    exact ⟨front, back⟩
  have size := script.log_eq.2
  rw [length_nil, Nat.zero_add] at size
  have first := (upto (emitted.take start) (emitted.drop start) (by rwa [take_append_drop])).2
  rw [length_nil, Nat.zero_add, length_take, Nat.min_eq_left (by omega)] at first
  have second := (upto ((emitted.drop start).take count) ((emitted.drop start).drop count)
    (by rwa [take_append_drop])).1
  rwa [length_take, Nat.min_eq_left within] at second

theorem Link.Inv.deliver (inv : l.Inv capacity log) {count : Nat} (meets : l.Meets (.deliver count)) :
    (l.step (.deliver count)).Inv capacity log := by
  obtain ⟨slice, last, u, back⟩ := meets
  have script := inv.script.between l.delivered count inv.arrived
  rw [inv.decoder.capacity_eq, inv.decoder.whole] at last
  obtain ⟨n, t, run, mirrors⟩ := encoderStreamLoop_encode slice script inv.decoder
    (drop_zero (l := l.batchBytes count)) back last (Nat.sub_le _ _)
  have size := inv.script.log_eq.2
  have ends : l.delivered + (l.batch count).length ≤ log.length := by
    rw [size, Link.batch, length_take, length_drop]
    have := inv.arrived
    rw [size] at this
    simp only [length_nil, Nat.zero_add] at this ⊢
    omega
  refine ⟨inv.encoder, inv.script, ?_, ends, inv.blocks⟩
  show Mirrors capacity (log.take (l.delivered + (l.batch count).length))
    (after (decodeEncoderStreamInstructions (l.batchBytes count)) l.decoder).table
  rw [decodeEncoderStreamInstructions, after_ok run]
  exact mirrors

theorem Link.Inv.step (inv : l.Inv capacity log) (bound : capacity ≤ maxQuicVarint) {event : LinkEvent}
    (meets : l.Meets event) : ∃ log', (l.step event).Inv capacity log' := by
  cases event with
  | encode streamId fields => exact inv.encode bound streamId fields
  | feedback data =>
    refine ⟨log, ?_, inv.script, inv.decoder, inv.arrived, inv.blocks⟩
    exact inv.encoder.same ((decodeDecoderStreamInstructions_same data).after l.encoder)
  | deliver count => exact ⟨log, inv.deliver meets⟩
  | decode index outLen =>
    simp only [Link.step]
    split
    · exact ⟨log, inv⟩
    · exact ⟨log, inv.encoder, inv.script, inv.decoder, inv.arrived, inv.blocks⟩
  | elsewhere scratch => exact ⟨log, inv.encoder, inv.script, inv.decoder, inv.arrived, inv.blocks⟩

theorem Link.Inv.agrees (inv : l.Inv capacity log) {event : LinkEvent} (meets : l.Meets event) : l.Agrees event := by
  cases event with
  | decode index outLen =>
    intro sent found
    obtain ⟨room, small, timely, u, back⟩ := meets sent found
    obtain ⟨meant, -, holds⟩ := inv.blocks sent (mem_of_getElem? found)
    by_cases ready : sent.requiredInsertCount ≤ l.decoder.table.insertCount
    · refine .inl (outcome_ok (decodeHeaderBlockWithDynamicInfo_encode ?_ meant.block_eq small ready back room))
      rw [SentBlock.representations, forall₂_map_left_iff, forall₂_same]
      intro field member
      have denotes := meant.denotes field member
      by_cases refers : 0 < sent.requiredInsertCount
      · -- the decoder has made the same insertions as the encoder
        have count := inv.decoder.count
        rw [length_take, Nat.min_eq_left inv.arrived, timely refers ready] at count
        refine denotes.mono ?_
        rw [inv.decoder.whole, ← count]
        exact holds.front
      · -- no field refers to the table at all
        refine denotes.anywhere (not_not.mp fun own => ?_) _
        exact refers (meant.counts _ (mem_map_of_mem member) own)
    · exact .inr ⟨Nat.not_le.mp ready, outcome_error
        (decodeHeaderBlockWithDynamicInfo_blocked outLen meant.block_eq small (Nat.not_le.mp ready))⟩
  | encode _ _ | feedback _ | deliver _ | elsewhere _ => trivial

/-- Along every run whose events meet the condition, both ends agree on every block. -/
theorem header_blocks_agree {capacity : Nat} (bound : capacity ≤ maxQuicVarint) {scratch : Scratch}
    {events : List LinkEvent} (meets : Along Link.step Link.Meets (Link.start capacity scratch) events) :
    Along Link.step Link.Agrees (Link.start capacity scratch) events :=
  Along.of_invariant (fun l => ∃ log, l.Inv capacity log) (fun _ _ ⟨_, inv⟩ now => inv.step bound now)
    (fun _ _ ⟨_, inv⟩ now => inv.agrees now) ⟨[], .start capacity scratch⟩ meets

def timelyReference : List LinkEvent :=
  [.encode 0 [⟨[97], [98]⟩], .deliver 1, .feedback [0x01], .encode 4 [⟨[97], [98]⟩]]

theorem header_blocks_agree_timelyReference :
    Along Link.step Link.Meets (Link.start 200 Scratch.fresh) (timelyReference ++ [.decode 1 4]) ∧
      Along Link.step Link.Agrees (Link.start 200 Scratch.fresh) (timelyReference ++ [.decode 1 4]) := by
  have meets : Along Link.step Link.Meets (Link.start 200 fresh) (timelyReference ++ [.decode 1 4]) := by
    rw [along_append]
    refine ⟨?_, fun sent found => ?_, trivial⟩
    · have batch : ((Link.start 200 fresh).step (.encode 0 [⟨[97], [98]⟩])).batch 1 =
        [.insertLiteral [97] [98]] := by decide +kernel
      simp only [timelyReference, Along, Link.Meets, Link.batchBytes, batch, Link.step_encode_decoder,
        and_true, true_and]
      exact ⟨by decide +kernel, ⟨trivial, fun _ _ => trivial⟩, fresh, .cons rfl .nil⟩
    · have states : (fun l : Link => (l.decoder.table.insertCount, l.blocks[1]?.map fun sent =>
          (sent.fields.length, sent.requiredInsertCount, sent.table.insertCount, sent.representations)))
          (timelyReference.foldl Link.step (Link.start 200 fresh)) =
          (1, some (1, 1, 1, [.dynamicIndexed 0])) := by decide +kernel
      simp only [found, Option.map_some, Option.some.injEq, Prod.mk.injEq] at states
      obtain ⟨count, one, required, inserted, reps⟩ := states
      refine ⟨by omega, by omega, fun _ _ => count.trans inserted.symm, ?_⟩
      rw [reps]
      exact ⟨_, .cons rfl .nil⟩
  exact ⟨meets, header_blocks_agree (by decide) meets⟩

/-- Then the next entry is inserted, before the reference is read. -/
def lateReference : List LinkEvent := timelyReference ++ [.encode 8 [⟨[99], [100]⟩], .deliver 1]

theorem header_blocks_disagree :
    ¬ Along Link.step Link.Agrees (Link.start 200 Scratch.fresh) (lateReference ++ [.decode 1 4]) := by
  intro all
  have agrees := (along_append.mp all).2.1
  have states : (fun l : Link => (l.decoder.table.insertCount, l.blocks[1]?.map fun sent =>
      (sent.fields, sent.requiredInsertCount, (outcome (l.decodeBlock sent 4) l.decoder.scratch).toOption)))
      (lateReference.foldl Link.step (Link.start 200 fresh)) =
      (2, some ([⟨[97], [98]⟩], 1, some ([⟨[99], [100]⟩], 1))) := by decide +kernel
  generalize lateReference.foldl Link.step (Link.start 200 fresh) = l at agrees states
  cases found : l.blocks[1]? with
  | none =>
    simp only [found] at states
    cases congrArg Prod.snd states
  | some block =>
    simp only [found, Option.map_some, Option.some.injEq, Prod.mk.injEq] at states
    obtain ⟨count, fields, required, read⟩ := states
    rcases agrees block found with same | ⟨early, -⟩
    · rw [same, fields, required] at read
      exact absurd read (by decide)
    · omega

end Quicz.H3
