import Mathlib.Data.List.Nodup
import Mathlib.Data.List.Perm.Subperm
import RegisterMap.Nim.TypeNames
import RegisterMap.Proofs.Numeral.Spellings
import RegisterMap.Proofs.Outcome

/-!
# Unique names

A registry holds each owner with one name and each name with one owner. A new owner takes a numbered
variant of the name that it asks for. There are more variants to try than names in the registry, so
one of them is free.

## Main definitions

* `Owner.requested` : the name that an owner asks for.
* `Registry.IsOneToOne` : owners and names of a registry determine each other.
* `Registry.IsUnique` : besides, every name is a variant of the one that its owner asks for.

## Main results

* `variant_injective` : the variants of a stem are different.
* `Registry.isTaken_firstFree` : the variant that a new owner takes is free.
* `Registry.isTaken_of_lt_firstFree` : it is the first of them.
* `Registry.IsOneToOne.claim`, `Registry.IsUnique.claim` : a claim keeps the registry unique.
-/

namespace RegisterMap

namespace Nim

/-! ### Variants -/

/-- The variants of a stem are different names. -/
theorem variant_injective (stem : String) : Function.Injective (variant stem) := by
  have numbered : ∀ n : Nat, variant stem 0 ≠ variant stem (n + 1) := by
    intro n h
    simp only [variant] at h
    rw [String.append_left_inj, String.append_assoc] at h
    have lengths := congrArg String.length h
    simp only [String.length_append] at lengths
    have mark : "_".length = 1 := rfl
    omega
  intro m n h
  cases m with
  | zero =>
    cases n with
    | zero => rfl
    | succ n => exact absurd h (numbered n)
  | succ m =>
    cases n with
    | zero => exact absurd h.symm (numbered m)
    | succ n =>
      simp only [variant] at h
      rw [String.append_left_inj, String.append_right_inj] at h
      exact Int.natCast_inj.1 (Numeral.decimal_injective h)

namespace Registry

variable {κ : Type}

theorem isTaken_eq_true {reg : Registry κ} {name : String} :
    reg.isTaken name = true ↔ name ∈ reg.claims.map Prod.snd := by
  rw [isTaken, List.any_eq_true, List.mem_map]
  simp only [beq_iff_eq]

/-- The variant that a new owner takes is free. -/
theorem isTaken_firstFree (reg : Registry κ) (stem : String) :
    reg.isTaken (variant stem (reg.firstFree stem)) = false := by
  unfold firstFree
  cases h : (List.range (reg.claims.length + 1)).find? fun n => !reg.isTaken (variant stem n) with
  | some n => simpa using List.find?_some h
  | none =>
    -- otherwise more variants would be taken than there are claims
    have taken : (List.range (reg.claims.length + 1)).map (variant stem) ⊆
        reg.claims.map Prod.snd := by
      intro name hname
      obtain ⟨n, hn, rfl⟩ := List.mem_map.1 hname
      exact isTaken_eq_true.1 (by simpa using List.find?_eq_none.1 h n hn)
    have different : ((List.range (reg.claims.length + 1)).map (variant stem)).Nodup :=
      List.nodup_range.map (variant_injective stem)
    have few := (List.subperm_of_subset different taken).length_le
    simp only [List.length_map, List.length_range] at few
    omega

/-- The variants before it are taken. -/
theorem isTaken_of_lt_firstFree {reg : Registry κ} {stem : String} {m : Nat}
    (h : m < reg.firstFree stem) : reg.isTaken (variant stem m) = true := by
  unfold firstFree at h
  cases hf : (List.range (reg.claims.length + 1)).find? fun n => !reg.isTaken (variant stem n) with
  | none =>
    rw [hf] at h
    cases h
  | some n =>
    rw [hf] at h
    simpa using (List.find?_range_eq_some.1 hf).2.2 m h

end Registry

/-! ### Owners -/

/-- The name that an owner asks for. -/
def Owner.requested : Owner → String
  | peripheral base => base
  | layout name => name
  | part parentType baseName => TypeName.append parentType baseName

theorem requested_peripheralClaim (p : Peripheral) :
    (peripheralClaim p).2.requested = (peripheralClaim p).1 := rfl

theorem requested_memberClaim (parentType : String) (m : Member) :
    (memberClaim parentType m).2.requested = (memberClaim parentType m).1 := by
  unfold memberClaim
  split <;> rfl

namespace Registry

/-! ### Owners and names of a registry -/

section

variable {κ : Type} {reg : Registry κ}

/-- No owner has two names, and no name has two owners. -/
structure IsOneToOne (reg : Registry κ) : Prop where
  owners : (reg.claims.map Prod.fst).Nodup
  names : (reg.claims.map Prod.snd).Nodup

theorem isOneToOne_empty : IsOneToOne ({} : Registry κ) := ⟨.nil, .nil⟩

/-- Two claims have one owner exactly if they have one name. -/
theorem IsOneToOne.name_eq_iff (h : reg.IsOneToOne) {o o' : κ} {name name' : String}
    (hc : (o, name) ∈ reg.claims) (hc' : (o', name') ∈ reg.claims) : name = name' ↔ o = o' :=
  ⟨fun same => congrArg Prod.fst (List.inj_on_of_nodup_map h.names hc hc' same),
    fun same => congrArg Prod.snd (List.inj_on_of_nodup_map h.owners hc hc' same)⟩

variable [BEq κ] [LawfulBEq κ]

/-- The registry after a claim has the claims from before and the owner with the name that the claim
returns. -/
theorem mem_claims_claim (reg : Registry κ) (base : String) (owner : κ) {c : κ × String} :
    c ∈ (reg.claim base owner).2.claims ↔
      c ∈ reg.claims ∨ c = (owner, (reg.claim base owner).1) := by
  cases h : reg.nameOf? owner with
  | some name =>
    rw [claim_of_nameOf? h]
    exact ⟨.inl, fun known => known.elim id fun new => new ▸ mem_of_lookup_eq_some h⟩
  | none =>
    rw [claim, h]
    exact List.mem_cons.trans or_comm

/-- A claim keeps what was claimed and enters the owner with the name that it returns. -/
theorem claim_mem (reg : Registry κ) (base : String) (owner : κ) :
    (owner, (reg.claim base owner).1) ∈ (reg.claim base owner).2.claims ∧
      reg.claims ⊆ (reg.claim base owner).2.claims :=
  ⟨(reg.mem_claims_claim base owner).2 (.inr rfl),
    fun _ known => (reg.mem_claims_claim base owner).2 (.inl known)⟩

/-- An owner has no name if no claim is its own. -/
theorem nameOf?_eq_none_iff {owner : κ} :
    reg.nameOf? owner = none ↔ owner ∉ reg.claims.map Prod.fst :=
  lookup_eq_none_iff_notMem

/-- A new owner gets a name that no other has. -/
theorem IsOneToOne.claim (h : reg.IsOneToOne) (base : String) (owner : κ) :
    (reg.claim base owner).2.IsOneToOne := by
  cases hn : reg.nameOf? owner with
  | some name =>
    rw [claim_of_nameOf? hn]
    exact h
  | none =>
    rw [Registry.claim, hn]
    refine ⟨List.nodup_cons.2 ⟨nameOf?_eq_none_iff.1 hn, h.owners⟩,
      List.nodup_cons.2 ⟨fun mem => ?_, h.names⟩⟩
    have free := reg.isTaken_firstFree (Ident.ofText base)
    rw [isTaken_eq_true.2 mem] at free
    cases free

end

/-- Owners and names determine each other, and every name is a variant of the one that its owner
asks for. -/
structure IsUnique (reg : Registry Owner) : Prop where
  owners : (reg.claims.map Prod.fst).Nodup
  names : (reg.claims.map Prod.snd).Nodup
  variants : ∀ c ∈ reg.claims, ∃ n, c.2 = variant (Ident.ofText c.1.requested) n

theorem isUnique_empty : IsUnique {} := ⟨.nil, .nil, fun _ h => absurd h List.not_mem_nil⟩

variable {reg : Registry Owner}

theorem IsUnique.isOneToOne (h : reg.IsUnique) : reg.IsOneToOne := ⟨h.owners, h.names⟩

/-- Two claims have one owner exactly if they have one name. -/
theorem IsUnique.name_eq_iff (h : reg.IsUnique) {o o' : Owner} {name name' : String}
    (hc : (o, name) ∈ reg.claims) (hc' : (o', name') ∈ reg.claims) : name = name' ↔ o = o' :=
  h.isOneToOne.name_eq_iff hc hc'

/-- A claim keeps the registry unique. -/
theorem IsUnique.claim (h : reg.IsUnique) {base : String} {owner : Owner}
    (hb : owner.requested = base) : (reg.claim base owner).2.IsUnique := by
  obtain ⟨owners, names⟩ := h.isOneToOne.claim base owner
  refine ⟨owners, names, ?_⟩
  cases hn : reg.nameOf? owner with
  | some name =>
    rw [claim_of_nameOf? hn]
    exact h.variants
  | none =>
    rw [Registry.claim, hn]
    exact List.forall_mem_cons.2 ⟨⟨_, by rw [hb]⟩, h.variants⟩

end Registry

end Nim

end RegisterMap
