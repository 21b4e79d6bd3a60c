import Mathlib.Logic.Relation
import RegisterMap.Proofs.Device.DerivedMembers

/-!
# Lengths of chains between registers

How far the references of a register go on depends on the device alone, and whether the register is
completed depends on that and on the number of references that may be followed. The register that
ends a chain needs no reference of its own, so that a budget of `n` serves chains of `n` references,
whereas the peripheral that ends a chain is counted like the others.

## Main definitions

* `RefersTo` : a register refers to another.
* `ChainLength` : the number of references from a register to the one that is not derived.

## Main results

* `ChainLength.unique` : a chain has one length.
* `ChainLength.not_transGen_self` : a register with a chain of some length does not come back to
  itself.
* `exists_resolveRegister_iff` : the registers that are completed.
* `ChainLength.exists_fault` : a chain that is too long is blamed on one of its registers.
* `Contents.CompletesTo.exists_chainLength` : the chains in a node that is completed.
-/

namespace RegisterMap

open Relation (ReflTransGen TransGen)

/-- A register in a node refers to another register, which may be in another node. -/
def RefersTo (ps : List Peripheral) (a b : Contents × Register) : Prop :=
  ∃ reference, a.2.derivedFrom = some reference ∧
    findReference ps reference a.1 = .ok (.register b.2, b.1)

/-- The references from a register in a node lead through registers, and after `n` of them to one
that is not derived. -/
inductive ChainLength (ps : List Peripheral) : Contents × Register → Nat → Prop
  | own {a : Contents × Register} (own : a.2.derivedFrom = none) : ChainLength ps a 0
  | step {a b : Contents × Register} {n : Nat} (refers : RefersTo ps a b)
      (rest : ChainLength ps b n) : ChainLength ps a (n + 1)

section Lengths

variable {ps : List Peripheral} {a b c : Contents × Register} {n m budget : Nat}
  {home home' : Contents} {r r' : Register}

/-- A register refers to one register. -/
theorem RefersTo.unique (hb : RefersTo ps a b) (hc : RefersTo ps a c) : b = c := by
  obtain ⟨reference, derived, found⟩ := hb
  obtain ⟨_, derived', found'⟩ := hc
  cases derived.symm.trans derived'
  obtain ⟨base, home⟩ := Prod.mk.inj (Except.ok.inj (found.symm.trans found'))
  exact Prod.ext home (Member.register.inj base)

theorem RefersTo.derivedFrom_ne_none (h : RefersTo ps a b) : a.2.derivedFrom ≠ none := by
  obtain ⟨reference, derived, -⟩ := h
  rw [derived]
  exact nofun

namespace ChainLength

/-- The chain of a register goes on with that of the register it refers to. -/
theorem of_refersTo (h : ChainLength ps a n) (refers : RefersTo ps a b) :
    ∃ m, n = m + 1 ∧ ChainLength ps b m := by
  cases h with
  | own own => exact absurd own refers.derivedFrom_ne_none
  | step refers' rest => exact ⟨_, rfl, refers'.unique refers ▸ rest⟩

/-- A chain has one length. -/
theorem unique (h : ChainLength ps a n) (h' : ChainLength ps a m) : n = m := by
  induction h generalizing m with
  | own own =>
    cases h' with
    | own _ => rfl
    | step refers _ => exact absurd own refers.derivedFrom_ne_none
  | step refers _ ih =>
    obtain ⟨k, rfl, rest⟩ := h'.of_refersTo refers
    rw [ih rest]

/-- Further on in a chain fewer references are left. -/
theorem exists_lt_of_transGen (h : ChainLength ps a n) (path : TransGen (RefersTo ps) a b) :
    ∃ m < n, ChainLength ps b m := by
  induction path with
  | single refers =>
    obtain ⟨m, rfl, rest⟩ := h.of_refersTo refers
    exact ⟨m, Nat.lt_succ_self m, rest⟩
  | tail _ refers ih =>
    obtain ⟨k, hk, rest⟩ := ih
    obtain ⟨m, rfl, shorter⟩ := rest.of_refersTo refers
    exact ⟨m, Nat.lt_of_succ_lt hk, shorter⟩

/-- A register whose references come to one with a chain that ends has such a chain. -/
theorem exists_of_reflTransGen (h : ChainLength ps b n) (path : ReflTransGen (RefersTo ps) a b) :
    ∃ m, ChainLength ps a m := by
  induction path using ReflTransGen.head_induction_on with
  | refl => exact ⟨n, h⟩
  | head refers _ ih =>
    obtain ⟨m, rest⟩ := ih
    exact ⟨m + 1, .step refers rest⟩

/-- A chain that ends does not come back to its first register. -/
theorem not_transGen_self (h : ChainLength ps a n) : ¬TransGen (RefersTo ps) a a := by
  intro path
  obtain ⟨m, hm, again⟩ := h.exists_lt_of_transGen path
  exact absurd (h.unique again) (Nat.ne_of_gt hm)

end ChainLength

/-! ### Following a chain -/

/-- A register that is completed has a chain that ends. -/
theorem MemberChain.exists_chainLength (h : RegisterChain ps home r r') :
    ∃ n, ChainLength ps (home, r) n := by
  induction h with
  | own own => exact ⟨0, .own own⟩
  | step derived found _ ih =>
    obtain ⟨n, rest⟩ := ih
    exact ⟨n + 1, .step ⟨_, derived, found⟩ rest⟩

theorem resolveRegister_of_refersTo (refers : RefersTo ps a b) :
    resolveRegister ps (budget + 1) a.2 a.1 =
      resolveRegister ps budget b.2 b.1 >>= fun base => pure (a.2.completedBy base) := by
  obtain ⟨reference, derived, found⟩ := refers
  rw [resolveRegister]
  simp only [derived, found]
  rfl

/-- A chain within the budget is followed. -/
theorem ChainLength.resolve (h : ChainLength ps a n) (enough : n ≤ budget) :
    ∃ r', resolveRegister ps budget a.2 a.1 = .ok r' := by
  induction h generalizing budget with
  | @own a own =>
    unfold resolveRegister
    exact ⟨a.2, by rw [own]⟩
  | @step a b n refers _ ih =>
    obtain _ | budget := budget
    · cases enough
    · obtain ⟨base, hbase⟩ := ih (Nat.le_of_succ_le_succ enough)
      rw [resolveRegister_of_refersTo refers]
      exact ⟨a.2.completedBy base, bind_eq_ok_iff.2 ⟨base, hbase, rfl⟩⟩

/-- A chain beyond the budget is blamed on the register at which the budget ends. -/
theorem ChainLength.exists_fault (h : ChainLength ps a n) (short : budget < n) :
    ∃ b, ReflTransGen (RefersTo ps) a b ∧
      resolveRegister ps budget a.2 a.1 = .error (.chainTooDeep b.2.name) := by
  induction budget generalizing a n with
  | zero =>
    cases h with
    | own _ => cases short
    | step refers _ =>
      obtain ⟨reference, derived, -⟩ := refers
      unfold resolveRegister
      exact ⟨a, .refl, by rw [derived]⟩
  | succ budget ih =>
    cases h with
    | own _ => cases short
    | step refers rest =>
      obtain ⟨b, path, fault⟩ := ih rest (Nat.lt_of_succ_lt_succ short)
      exact ⟨b, .head refers path, by rw [resolveRegister_of_refersTo refers, fault]; rfl⟩

/-- A register is completed when its chain ends within the budget. -/
theorem exists_resolveRegister_iff : (∃ r', resolveRegister ps budget r home = .ok r') ↔
    ∃ n ≤ budget, ChainLength ps (home, r) n := by
  constructor
  · rintro ⟨r', resolved⟩
    obtain ⟨n, chain⟩ := (resolveRegister_sound resolved).exists_chainLength
    refine ⟨n, Nat.not_lt.1 fun short => ?_, chain⟩
    obtain ⟨b, -, fault⟩ := chain.exists_fault short
    cases resolved.symm.trans fault
  · rintro ⟨n, enough, chain⟩
    exact chain.resolve enough

/-- In a node that is completed every register has a chain of at most one reference more than the
limit. -/
theorem Contents.CompletesTo.exists_chainLength (h : home.CompletesTo ps home')
    (hr : r ∈ home.registers) : ∃ n ≤ derivationLimit + 1, ChainLength ps (home, r) n := by
  obtain ⟨depth, name, h⟩ := h
  cases depth with
  | zero => cases h
  | succ depth =>
    obtain ⟨registers, resolved, -⟩ := bind_eq_ok_iff.1 h
    obtain ⟨r', -, resolved⟩ := exists_of_mem_mapM resolved hr
    exact exists_resolveRegister_iff.1 ⟨r', resolved⟩

end Lengths

end RegisterMap
