import Quicz.H3.Huffman
import Mathlib.Data.List.Induction
import Mathlib.Data.List.TakeWhile

/-! The Huffman code as a whole. The trie holds the codes of the table and no other path, so every
string of bits falls into codes and a rest, and what the decoder does can be read off these. -/
namespace Quicz.H3

open Proc List Nat UInt8

def tooSmall : Failure := .error .outputBufferTooSmall

namespace Huffman

def code (symbol : Nat) : List Bool :=
  match huffmanTable[symbol]? with
  | some entry => codeBits entry.code entry.bitLen
  | none => []

namespace TrieNode

def descend (n : TrieNode) : List Bool → Option TrieNode
  | [] => some n
  | bit :: rest => if n.isLeaf bit then none else (n.child bit).descend rest

def places : TrieNode → List (List Bool × TrieNode)
  | unallocated => []
  | node index child0 child1 leaf0 leaf1 =>
    let n := node index child0 child1 leaf0 leaf1
    ([], n) :: ((if n.isLeaf false then [] else child0.places.map fun place => (false :: place.1, place.2)) ++
        if n.isLeaf true then [] else child1.places.map fun place => (true :: place.1, place.2))

theorem allocated_of_not_isLeaf {n : TrieNode} {bit : Bool} (inner : ¬ n.isLeaf bit = true) :
    (n.child bit).isUnallocated = false := by
  simp only [isLeaf, Bool.or_eq_true, not_or, Bool.not_eq_true] at inner
  exact inner.2

theorem mem_places {n m : TrieNode} {path : List Bool} (allocated : n.isUnallocated = false)
    (leads : n.descend path = some m) : (path, m) ∈ n.places := by
  induction path generalizing n with
  | nil =>
    obtain rfl := Option.some.inj leads
    cases n with
    | unallocated => cases allocated
    | node => exact mem_cons_self
  | cons bit rest ih =>
    rw [descend] at leads
    split_ifs at leads with leaf
    have below := ih (allocated_of_not_isLeaf leaf) leads
    cases n with
    | unallocated => cases allocated
    | node index child0 child1 leaf0 leaf1 =>
      refine mem_cons_of_mem _ (mem_append.mpr ?_)
      cases bit with
      | false => exact .inl (by rw [if_neg leaf]; exact mem_map_of_mem below)
      | true => exact .inr (by rw [if_neg leaf]; exact mem_map_of_mem below)

theorem descend_concat {n m : TrieNode} {path : List Bool} {bit : Bool} (leads : n.descend path = some m)
    (inner : ¬ m.isLeaf bit = true) : n.descend (path ++ [bit]) = some (m.child bit) := by
  induction path generalizing n with
  | nil =>
    obtain rfl := Option.some.inj leads
    rw [nil_append, descend, if_neg inner, descend]
  | cons first rest ih =>
    rw [descend] at leads
    split_ifs at leads with leaf
    rw [cons_append, descend, if_neg leaf, ih leads]

end TrieNode

def ones (count : Nat) : List Bool := replicate count true

/-- What is to be known of each node: no code is longer than 30 bits, only the root has the index
0, a leaf stands at the end of its symbol's code, and of the nodes that padding can lead to the
index tells the path of ones. -/
def Placed (path : List Bool) (n : TrieNode) : Prop :=
  path.length < 30 ∧ (n.index = 0 → path = []) ∧
  (∀ bit, n.isLeaf bit = true → code (n.leafSymbol bit) = path ++ [bit] ∧ n.leafSymbol bit ≤ eosSymbol) ∧
  (path.length < 8 → ∀ m ∈ decodeTrie.descend (ones path.length), m.index = n.index → path = ones path.length)

instance (path : List Bool) (n : TrieNode) : Decidable (Placed path n) :=
  inferInstanceAs (Decidable (_ ∧ _ ∧ _ ∧ _))

theorem trie_facts : (∀ place ∈ decodeTrie.places, Placed place.1 place.2) ∧
    (∀ symbol < 257, ∃ m ∈ decodeTrie.descend (code symbol).dropLast, ∃ bit ∈ (code symbol).getLast?,
      m.isLeaf bit = true ∧ m.leafSymbol bit = symbol) ∧ ∀ count < 8, (decodeTrie.descend (ones count)).isSome := by
  decide +kernel

theorem placed_of_descend {path : List Bool} {n : TrieNode} (leads : decodeTrie.descend path = some n) :
    Placed path n :=
  trie_facts.1 (path, n) (TrieNode.mem_places (by decide +kernel) leads)

variable (room : Nat)

theorem decodeBit_eq (bit : Bool) (w : Walk) : decodeBit room bit w =
      if w.bitsInCode + 1 < 2 ^ 8 then
        if w.node.isLeaf bit then
          if w.node.leafSymbol bit = eosSymbol then .error (.error .eosSymbolDecoded) w
          else if w.written.length ≥ room then .error tooSmall w
          else .ok () { written := w.written ++ [ofNat (w.node.leafSymbol bit)] }
        else if (w.node.child bit).isUnallocated then .error (.error .invalidHuffmanEncoding) w
        else .ok () { w with node := w.node.child bit, bitsInCode := w.bitsInCode + 1 }
      else .error (.panic .integerOverflow) w := by
  by_cases small : w.bitsInCode + 1 < 2 ^ 8
  · have counted : addBit w.bitsInCode = pure (w.bitsInCode + 1) := if_pos small
    rw [if_pos small]
    split_ifs with leaf eos full missing
    · exact run_error (by simp [decodeBit, counted, leaf, eos])
    · exact run_error (by simp [decodeBit, counted, leaf, eos, full, tooSmall])
    · exact run_ok (by simp [decodeBit, counted, leaf, eos, not_le.mp full])
    · exact run_error (by simp [decodeBit, counted, leaf, missing])
    · exact run_ok (by simp [decodeBit, counted, leaf, missing])
  · have counted : addBit w.bitsInCode = throw (.panic .integerOverflow) := if_neg small
    rw [if_neg small]
    exact run_error (by simp [decodeBit, counted])

variable {count : Nat}

theorem forM_descend {n m : TrieNode} {path : List Bool} (leads : n.descend path = some m)
    (short : count + path.length < 2 ^ 8) (written : Bytes) (rest : List Bool) :
    (path ++ rest).forM (decodeBit room) ⟨n, count, written⟩ =
      rest.forM (decodeBit room) ⟨m, count + path.length, written⟩ := by
  induction path generalizing n count with
  | nil =>
    obtain rfl := Option.some.inj leads
    rfl
  | cons bit path ih =>
    rw [TrieNode.descend] at leads
    split_ifs at leads with leaf
    rw [length_cons] at short ⊢
    have step : decodeBit room bit ⟨n, count, written⟩ = .ok () ⟨n.child bit, count + 1, written⟩ := by
      rw [decodeBit_eq, if_pos (show count + 1 < 2 ^ 8 by omega), if_neg leaf,
        if_neg (by simp [TrieNode.allocated_of_not_isLeaf leaf])]
    refine (run_bind_ok step _).trans ((ih leads (by omega)).trans ?_)
    rw [add_assoc, add_comm 1]

/-- A code in front of other bits. -/
theorem forM_code {symbol : Nat} (known : symbol ≤ eosSymbol) (written : Bytes) :
    ∃ w : Walk, w.written = written ∧ ∀ room rest,
      (code symbol ++ rest).forM (decodeBit room) { written := written } =
        if symbol = eosSymbol then .error (.error .eosSymbolDecoded) w
        else if written.length ≥ room then .error tooSmall w
        else rest.forM (decodeBit room) { written := written ++ [ofNat symbol] } := by
  obtain ⟨m, leads, bit, last, leaf, spelled⟩ := trie_facts.2.1 symbol (lt_succ_of_le known)
  have short := (placed_of_descend leads).1
  refine ⟨⟨m, 0 + (code symbol).dropLast.length, written⟩, rfl, fun room rest => ?_⟩
  have whole : code symbol ++ rest = (code symbol).dropLast ++ bit :: rest := by
    conv => lhs; rw [← dropLast_append_getLast? bit last]
    rw [append_assoc, singleton_append]
  rw [whole, forM_descend room leads (by omega)]
  have step := decodeBit_eq room bit ⟨m, 0 + (code symbol).dropLast.length, written⟩
  rw [if_pos (show 0 + (code symbol).dropLast.length + 1 < 2 ^ 8 by omega), if_pos leaf, spelled] at step
  split_ifs at step ⊢ with eos full
  · exact run_bind_error step _
  · exact run_bind_error step _
  · exact run_bind_ok step _

/-- The bytes that symbols stand for, up to the first end of string. -/
def text (symbols : List Nat) : Bytes := (symbols.takeWhile fun symbol => symbol ≠ eosSymbol).map ofNat

theorem forM_codes {symbols : List Nat} (known : ∀ symbol ∈ symbols, symbol ≤ eosSymbol) (written : Bytes) :
    ∃ ended : Walk, ended.written = written ++ text symbols ∧ ∀ room rest, written.length ≤ room →
      ∃ short : Walk, short.written.length ≤ room ∧
        (symbols.flatMap code ++ rest).forM (decodeBit room) { written := written } =
          if room < (written ++ text symbols).length then .error tooSmall short
          else if eosSymbol ∈ symbols then .error (.error .eosSymbolDecoded) ended
          else rest.forM (decodeBit room) { written := written ++ text symbols } := by
  induction symbols generalizing written with
  | nil =>
    refine ⟨{ written := written }, by simp [text], fun room rest fits => ⟨{}, zero_le _, ?_⟩⟩
    rw [if_neg (by simpa [text] using fits), if_neg not_mem_nil]
    simp [text]
  | cons symbol symbols ih =>
    obtain ⟨w, same, step⟩ := forM_code (known symbol mem_cons_self) written
    simp only [flatMap_cons, append_assoc, step]
    by_cases eos : symbol = eosSymbol
    · refine ⟨w, by simp [text, eos, same], fun room rest fits => ⟨{}, zero_le _, ?_⟩⟩
      rw [if_pos eos, if_neg (by simpa [text, eos] using fits), if_pos (by simp [eos])]
    · obtain ⟨ended, all, runs⟩ := ih (fun s mem => known s (mem_cons_of_mem _ mem))
        (written ++ [ofNat symbol])
      have longer : text (symbol :: symbols) = ofNat symbol :: text symbols := by simp [text, eos]
      rw [append_assoc, singleton_append] at all runs
      refine ⟨ended, by rw [all, longer], fun room rest fits => ?_⟩
      rw [if_neg eos, longer]
      by_cases full : written.length ≥ room
      · refine ⟨w, same ▸ fits, ?_⟩
        rw [if_pos full, if_pos]
        rw [length_append, length_cons]
        omega
      · obtain ⟨short, small, run⟩ := runs room rest (by
          rw [length_append, length_singleton]
          omega)
        refine ⟨short, small, ?_⟩
        rw [if_neg full, run]
        simp only [mem_cons, Ne.symm eos, false_or]

theorem followOnes_eq {n m : TrieNode} (leads : n.descend (ones count) = some m) (w : Walk) :
    followOnes count n w = .ok m w := by
  induction count generalizing n with
  | zero =>
    obtain rfl := Option.some.inj leads
    rfl
  | succ count ih =>
    rw [ones, replicate_succ, TrieNode.descend] at leads
    split_ifs at leads with leaf
    rw [followOnes, run_bind_ok (run_failIf leaf _),
      run_bind_ok (run_failIf (by simp [TrieNode.allocated_of_not_isLeaf leaf]) _), ih leads]

variable {rest : List Bool}

theorem checkPadding_eq {n : TrieNode} (leads : decodeTrie.descend rest = some n)
    (written : Bytes) : checkPadding ⟨n, rest.length, written⟩ =
      if rest.length < 8 ∧ rest = ones rest.length then .ok () ⟨n, rest.length, written⟩
      else .error (.error .invalidPadding) ⟨n, rest.length, written⟩ := by
  obtain ⟨-, root, -, told⟩ := placed_of_descend leads
  by_cases start : rest = []
  · subst start
    obtain rfl := Option.some.inj leads
    exact run_ok (by simp [checkPadding, show decodeTrie.index = 0 by decide +kernel])
  have inner : n.index ≠ 0 := fun index => start (root index)
  by_cases long : rest.length > 7
  · rw [if_neg (by omega)]
    exact run_error (by simp [checkPadding, inner, long])
  obtain ⟨m, padding⟩ := Option.isSome_iff_exists.mp (trie_facts.2.2 rest.length (by omega))
  have followed : followOnes rest.length decodeTrie ⟨n, rest.length, written⟩ = .ok m _ :=
    followOnes_eq padding _
  split_ifs with padded
  · have same : m = n := Option.some.inj (padding.symm.trans (padded.2 ▸ leads))
    refine run_ok ?_
    simp only [checkPadding, wp_bind, wp_get, wp_ite, wp_failIf, long]
    simp [wp, followed, same, inner]
  · have other : m.index ≠ n.index := fun index => padded ⟨by omega, told (by omega) m padding index⟩
    refine run_error ?_
    simp only [checkPadding, wp_bind, wp_get, wp_ite, wp_failIf, long]
    simp [wp, followed, other, inner]

variable (data : Bytes)

def bitsOf : List Bool := data.flatMap fun byte => codeBits byte.toNat 8

/-- Every string of bits is a row of codes and a rest that leads to a node. -/
theorem parse (bits : List Bool) : ∃ (symbols : List Nat) (rest : List Bool) (n : TrieNode),
    bits = symbols.flatMap code ++ rest ∧ (∀ symbol ∈ symbols, symbol ≤ eosSymbol) ∧
      decodeTrie.descend rest = some n := by
  induction bits using reverseRecOn with
  | nil => exact ⟨[], [], decodeTrie, rfl, nofun, rfl⟩
  | append_singleton bits bit ih =>
    obtain ⟨symbols, rest, n, rfl, known, leads⟩ := ih
    by_cases leaf : n.isLeaf bit = true
    · obtain ⟨spelled, small⟩ := (placed_of_descend leads).2.2.1 bit leaf
      refine ⟨symbols ++ [n.leafSymbol bit], [], decodeTrie, by simp [spelled], ?_, rfl⟩
      rw [forall_mem_append, forall_mem_singleton]
      exact ⟨known, small⟩
    · exact ⟨symbols, rest ++ [bit], _, by simp, known, TrieNode.descend_concat leads leaf⟩

variable {symbols : List Nat}

/-- What decoding does, by the codes and the rest that the input falls into. -/
theorem decode_eq {data : Bytes} {n : TrieNode}
    (cut : bitsOf data = symbols.flatMap code ++ rest) (known : ∀ symbol ∈ symbols, symbol ≤ eosSymbol)
    (leads : decodeTrie.descend rest = some n) :
    ∃ ended : Walk, ended.written = text symbols ∧ ∀ room, ∃ short : Walk, short.written.length ≤ room ∧
      decode room data {} = if room < (text symbols).length then .error tooSmall short
        else if eosSymbol ∈ symbols then .error (.error .eosSymbolDecoded) ended
        else if rest.length < 8 ∧ rest = ones rest.length then .ok () ⟨n, rest.length, text symbols⟩
        else .error (.error .invalidPadding) ⟨n, rest.length, text symbols⟩ := by
  obtain ⟨ended, all, runs⟩ := forM_codes known []
  refine ⟨ended, all, fun room => ?_⟩
  obtain ⟨short, small, run⟩ := runs room rest (zero_le _)
  have depth := (placed_of_descend leads).1
  have last := forM_descend room leads (show 0 + rest.length < 2 ^ 8 by omega) (text symbols) []
  rw [append_nil, zero_add] at last
  refine ⟨short, small, ?_⟩
  rw [← cut, nil_append, last] at run
  rw [← checkPadding_eq leads]
  change ((bitsOf data).forM (decodeBit room) >>= fun _ => checkPadding) {} = _
  split_ifs at run ⊢
  · exact run_bind_error run _
  · exact run_bind_error run _
  · exact run_bind_ok run _

/-- Decoding writes no more than it has room for, and its counter of bits does not overflow. -/
theorem decode_bounds (encoded : Bytes) : wp (decode room encoded) (fun _ t => t.written.length ≤ room)
      (fun e t => t.written.length ≤ room ∧ ¬ e.IsPanic) {} := by
  obtain ⟨symbols, rest, n, cut, known, leads⟩ := parse (bitsOf encoded)
  obtain ⟨ended, all, runs⟩ := decode_eq cut known leads
  obtain ⟨short, small, run⟩ := runs room
  rw [wp, run]
  split_ifs with full eos padded
  · exact ⟨small, id⟩
  · exact ⟨all ▸ not_lt.mp full, id⟩
  · exact not_lt.mp full
  · exact ⟨not_lt.mp full, id⟩

theorem length_bitsOf : (bitsOf data).length = 8 * data.length := by
  simp [bitsOf, codeBits, length_flatMap, mul_comm]

theorem length_text_le (known : ∀ symbol ∈ symbols, symbol ≤ eosSymbol) :
    (text symbols).length ≤ (symbols.flatMap code).length := by
  have each : symbols.length ≤ (symbols.flatMap code).length := by
    induction symbols with
    | nil => exact le_rfl
    | cons symbol symbols ih =>
      obtain ⟨-, -, bit, last, -, -⟩ := trie_facts.2.1 symbol (lt_succ_of_le (known symbol mem_cons_self))
      have filled := length_pos_of_mem (mem_of_getLast? last)
      have later := ih fun s mem => known s (mem_cons_of_mem _ mem)
      rw [flatMap_cons, length_append, length_cons]
      omega
  rw [text, length_map]
  exact (takeWhile_sublist _).length_le.trans each

/-- What a run with little room does, given one with enough that ends as told. -/
def Cut (room written : Nat) (short full : EStateM.Result Failure Walk PUnit) : Prop :=
  (written ≤ room → short = full) ∧ (room < written → ∃ u, short = .error tooSmall u)

/-- With room for a symbol per bit no string fails for want of room. -/
theorem decode_cut (encoded : Bytes) : wp (decode (8 * encoded.length) encoded)
      (fun _ t => Cut room t.written.length (decode room encoded {}) (decode (8 * encoded.length) encoded {}))
      (fun e t => e ≠ tooSmall ∧
        Cut room t.written.length (decode room encoded {}) (decode (8 * encoded.length) encoded {})) {} := by
  obtain ⟨symbols, rest, n, cut, known, leads⟩ := parse (bitsOf encoded)
  obtain ⟨ended, all, runs⟩ := decode_eq cut known leads
  obtain ⟨short, -, run⟩ := runs room
  obtain ⟨_, -, full⟩ := runs (8 * encoded.length)
  have ample : ¬ 8 * encoded.length < (text symbols).length := by
    rw [← length_bitsOf, cut, length_append]
    have least := length_text_le known
    omega
  rw [if_neg ample] at full
  have same : Cut room (text symbols).length (decode room encoded {}) (decode (8 * encoded.length) encoded {}) := by
    refine ⟨fun fits => ?_, fun more => ⟨short, by rw [run, if_pos more]⟩⟩
    rw [run, full, if_neg (not_lt.mpr fits)]
  rw [wp, full] at *
  split_ifs at same ⊢ with eos padded
  · exact ⟨by rintro ⟨⟩, all ▸ same⟩
  · exact same
  · exact ⟨by rintro ⟨⟩, same⟩

end Huffman

end Quicz.H3
