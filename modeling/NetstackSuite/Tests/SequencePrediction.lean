import Mathlib.Data.List.Dedup
import NetstackSuite.Lib.Progression
import NetstackSuite.PacketEngine.Interface

/-!
# The test for predictable initial sequence numbers

`tests/tcp/syn/test_sequence_prediction.py` takes some SYN-ACKs from the device and fails it if their sequence
numbers are all the same, or all the same distance apart. The distances are plain differences, so a device that
counts up by a constant passes if its numbers pass `2 ^ 32` at some of the samples and not at others.
`flagged_iff` says that it fails otherwise.
-/

namespace NetstackSuite.Tests

open NetstackSuite.Lib NetstackSuite.PacketEngine NetstackSuite.Python

/-! ## The test -/

/-- Source: `tests/tcp/syn/test_sequence_prediction.py` `SAMPLE_COUNT`. Kind: D -/
def SAMPLE_COUNT : Nat := 20

/-- `len(set(values)) > 1`.
Source: Python `set`
Kind: D -/
def varies {α : Type} [DecidableEq α] (values : List α) : Bool := 1 < values.dedup.length

/-- What a failed `assert` raises.
Source: Python `assert`
Kind: D -/
def assertionError : PyExc := .other "AssertionError"

/-- The sequence number of one reply.
Source: `tests/tcp/syn/test_sequence_prediction.py` `test_isn_is_not_fixed_or_linearly_incrementing`
Kind: D -/
def sampleIsn (reply : Option Packet) : Except PyExc Nat :=
  match reply.bind Packet.tcp? with
  | some tcp => .ok tcp.seq.toNat
  | none => .error assertionError

/-- `[b - a for a, b in zip(isns, isns[1:])]`.
Source: `tests/tcp/syn/test_sequence_prediction.py` `test_isn_is_not_fixed_or_linearly_incrementing`
Kind: D -/
def deltas (isns : List Nat) : List Int := List.zipWith (fun (a b : Nat) => (b : Int) - a) isns isns.tail

/-- The two assertions about the samples.
Source: `tests/tcp/syn/test_sequence_prediction.py` `test_isn_is_not_fixed_or_linearly_incrementing`
Kind: D -/
def checkIsns (isns : List Nat) : Except PyExc Unit :=
  if ¬ varies isns then .error assertionError
  else if ¬ varies (deltas isns) then .error assertionError
  else .ok ()

/-- The test: `sendReceive i` is what comes back for the `i`-th SYN.
Source: `tests/tcp/syn/test_sequence_prediction.py` `test_isn_is_not_fixed_or_linearly_incrementing`
Kind: D -/
def testIsnIsNotFixedOrLinearlyIncrementing (sendReceive : Nat → Except PyExc (Option Packet)) (samples : Nat) :
    Except PyExc Unit := do
  let isns ← (List.range samples).mapM fun i => do
    let reply ← sendReceive i
    sampleIsn reply
  checkIsns isns

/-! ## Devices that count -/

/-- A device whose reply to the `i`-th SYN has the number `isn0 + i * increment`, modulo `2 ^ 32`.
Source: none: specification
Kind: D -/
structure LinearDut where
  isn0 : BitVec 32
  increment : BitVec 32
  sendReceive : Nat → Except PyExc (Option Packet)
  linear : ∀ i, ∃ packet tcp, sendReceive i = .ok (some packet) ∧ packet.tcp? = some tcp ∧
    tcp.seq = isn0 + BitVec.ofNat 32 i * increment

namespace LinearDut

variable (dut : LinearDut)

/-- The number of the `i`-th reply.
Source: none: specification
Kind: D -/
def isn (i : Nat) : Nat := term (2 ^ 32) dut.isn0.toNat dut.increment.toNat i

/-- The device's numbers pass `2 ^ 32` at none of the samples, or at each.
Source: none: specification
Kind: D -/
def Steady (samples : Nat) : Prop :=
  dut.isn0.toNat + (samples - 1) * dut.increment.toNat < 2 ^ 32 ∨
    (samples - 1) * (2 ^ 32 - dut.increment.toNat) ≤ dut.isn0.toNat

end LinearDut

/-! ## What the test sees of them -/

/-- Source: Python `set`. Kind: L -/
lemma varies_iff {α : Type} [DecidableEq α] {values : List α} :
    varies values = true ↔ ∃ a ∈ values, ∃ b ∈ values, a ≠ b := by
  have hnodup := values.nodup_dedup
  unfold varies
  rw [decide_eq_true_eq]
  constructor
  · intro h
    rcases hset : values.dedup with _ | ⟨a, _ | ⟨b, rest⟩⟩
    · rw [hset] at h
      exact absurd h (Nat.not_lt_zero 1)
    · rw [hset] at h
      exact absurd h (Nat.lt_irrefl 1)
    · have hmem : ∀ c ∈ [a, b], c ∈ values := by
        intro c hc
        apply List.mem_dedup.mp
        rw [hset]
        exact List.mem_append_left rest hc
      rw [hset] at hnodup
      refine ⟨a, hmem a (by simp), b, hmem b (by simp), ?_⟩
      exact List.ne_of_not_mem_cons (List.nodup_cons.mp hnodup).1
  · rintro ⟨a, ha, b, hb, hne⟩
    rw [← List.mem_dedup] at ha hb
    by_contra hshort
    rcases hset : values.dedup with _ | ⟨c, _ | ⟨c', rest⟩⟩
    · rw [hset] at ha
      cases ha
    · rw [hset] at ha hb
      exact hne ((List.mem_singleton.mp ha).trans (List.mem_singleton.mp hb).symm)
    · rw [hset] at hshort
      simp at hshort

/-- The assertions hold exactly if the samples vary and their distances do.
Source: `tests/tcp/syn/test_sequence_prediction.py` `test_isn_is_not_fixed_or_linearly_incrementing`
Kind: L -/
lemma checkIsns_eq_error_iff (isns : List Nat) :
    checkIsns isns = .error assertionError ↔ varies isns = false ∨ varies (deltas isns) = false := by
  unfold checkIsns
  rcases varies isns with _ | _
  · simp
  · rcases varies (deltas isns) with _ | _ <;> simp

/-- The distances between the samples of a sequence.
Source: `tests/tcp/syn/test_sequence_prediction.py` `test_isn_is_not_fixed_or_linearly_incrementing`
Kind: L -/
lemma deltas_map_range (f : Nat → Nat) (samples : Nat) :
    deltas ((List.range samples).map f) =
      (List.range (samples - 1)).map fun i => (f (i + 1) : Int) - f i := by
  apply List.ext_getElem
  · simp [deltas]
  · intro i hi hi'
    simp [deltas]

namespace LinearDut

variable (dut : LinearDut)

lemma sampleIsn_eq (i : Nat) :
    (do
      let reply ← dut.sendReceive i
      sampleIsn reply) = Except.ok (dut.isn i) := by
  obtain ⟨packet, tcp, hreply, htcp, hseq⟩ := dut.linear i
  rw [hreply]
  show sampleIsn (some packet) = _
  unfold sampleIsn
  rw [Option.bind_some, htcp]
  simp only
  rw [hseq, BitVec.toNat_add, BitVec.toNat_mul, BitVec.toNat_ofNat, isn, term, Nat.mod_mul_mod, Nat.add_mod_mod]

/-- The test checks the samples.
Source: `tests/tcp/syn/test_sequence_prediction.py` `test_isn_is_not_fixed_or_linearly_incrementing`
Kind: L -/
lemma test_eq (samples : Nat) :
    testIsnIsNotFixedOrLinearlyIncrementing dut.sendReceive samples =
      checkIsns ((List.range samples).map dut.isn) := by
  have hpure : (fun i => do
      let reply ← dut.sendReceive i
      sampleIsn reply) = fun i => (pure (dut.isn i) : Except PyExc Nat) := funext dut.sampleIsn_eq
  unfold testIsnIsNotFixedOrLinearlyIncrementing
  rw [hpure, List.mapM_pure]
  rfl

/-- The distances are the same exactly if the device is steady.
Source: none: infrastructure
Kind: L -/
lemma deltas_vary_iff {samples : Nat} (h : 3 ≤ samples) :
    varies (deltas ((List.range samples).map dut.isn)) = false ↔ dut.Steady samples := by
  have hconstant := difference_constant_iff dut.isn0.isLt dut.increment.isLt (k := samples - 1) (by omega)
  unfold Steady
  rw [← hconstant, Bool.eq_false_iff, Ne, varies_iff, deltas_map_range]
  constructor
  · intro hsame i hi j hj
    by_contra hne
    apply hsame
    exact ⟨_, List.mem_map_of_mem (List.mem_range.mpr hi), _, List.mem_map_of_mem (List.mem_range.mpr hj), hne⟩
  · rintro hsame ⟨a, ha, b, hb, hne⟩
    obtain ⟨i, hi, rfl⟩ := List.mem_map.mp ha
    obtain ⟨j, hj, rfl⟩ := List.mem_map.mp hb
    exact hne (hsame i (List.mem_range.mp hi) j (List.mem_range.mp hj))

/-- A device that repeats a number is steady.
Source: none: infrastructure
Kind: L -/
lemma steady_of_not_varies {samples : Nat} (h : 3 ≤ samples)
    (hfixed : varies ((List.range samples).map dut.isn) = false) : dut.Steady samples := by
  rw [Bool.eq_false_iff, Ne, varies_iff] at hfixed
  have hsame : ∀ i < samples, ∀ j < samples, dut.isn i = dut.isn j := by
    intro i hi j hj
    by_contra hne
    apply hfixed
    exact ⟨_, List.mem_map_of_mem (List.mem_range.mpr hi), _, List.mem_map_of_mem (List.mem_range.mpr hj), hne⟩
  rw [← dut.deltas_vary_iff h, Bool.eq_false_iff, Ne, varies_iff, deltas_map_range]
  rintro ⟨a, ha, b, hb, hne⟩
  obtain ⟨i, hi, rfl⟩ := List.mem_map.mp ha
  obtain ⟨j, hj, rfl⟩ := List.mem_map.mp hb
  have hi' := List.mem_range.mp hi
  have hj' := List.mem_range.mp hj
  apply hne
  rw [hsame (i + 1) (by omega) i (by omega), hsame (j + 1) (by omega) j (by omega)]
  simp

end LinearDut

/-- **Which counting devices are flagged**: exactly those whose numbers pass `2 ^ 32` at none of the samples, or
at each.
Source: `tests/tcp/syn/test_sequence_prediction.py` `test_isn_is_not_fixed_or_linearly_incrementing`
Kind: P -/
theorem flagged_iff (dut : LinearDut) (samples : Nat) (h : 3 ≤ samples) :
    testIsnIsNotFixedOrLinearlyIncrementing dut.sendReceive samples = .error assertionError ↔
      dut.Steady samples := by
  rw [dut.test_eq, checkIsns_eq_error_iff]
  constructor
  · rintro (hfixed | hlinear)
    · exact dut.steady_of_not_varies h hfixed
    · exact (dut.deltas_vary_iff h).mp hlinear
  · intro hsteady
    exact Or.inr ((dut.deltas_vary_iff h).mpr hsteady)

/-- A device that answers every SYN with a counter.
Source: none: infrastructure
Kind: D -/
def countingDut (isn0 increment : BitVec 32) : LinearDut where
  isn0 := isn0
  increment := increment
  sendReceive := fun i => .ok (some [
    .ip { src := text "10.0.0.5", dst := text "10.0.0.1" },
    .tcp {
      sport := 80
      dport := 49152
      seq := isn0 + BitVec.ofNat 32 i * increment
      ack := 1
      flags := Utils.SYN_ACK
      window := 8192 }])
  linear := fun _ => ⟨_, _, rfl, rfl, rfl⟩

/-- Counting up by 64000 from the start.
Source: `tests/tcp/syn/test_sequence_prediction.py` `test_isn_is_not_fixed_or_linearly_incrementing`
Kind: P -/
theorem counting_dut_flagged :
    testIsnIsNotFixedOrLinearlyIncrementing (countingDut 0 64000).sendReceive SAMPLE_COUNT =
      .error assertionError := by
  apply (flagged_iff _ SAMPLE_COUNT (by decide)).mpr
  left
  decide

/-- **A device that counts past `2 ^ 32` passes.**
Source: `tests/tcp/syn/test_sequence_prediction.py` `test_isn_is_not_fixed_or_linearly_incrementing`
Kind: P -/
theorem wrapping_dut_passes :
    ¬ ∀ (dut : LinearDut) (samples : Nat), 3 ≤ samples →
      testIsnIsNotFixedOrLinearlyIncrementing dut.sendReceive samples = .error assertionError := by
  intro h
  have hpasses : testIsnIsNotFixedOrLinearlyIncrementing (countingDut 0xFFFFFFFF 1).sendReceive SAMPLE_COUNT =
      .ok () := by
    decide +kernel
  have hflagged := h (countingDut 0xFFFFFFFF 1) SAMPLE_COUNT (by decide)
  rw [hpasses] at hflagged
  cases hflagged

end NetstackSuite.Tests
