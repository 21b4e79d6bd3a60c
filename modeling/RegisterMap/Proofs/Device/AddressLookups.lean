import RegisterMap.Proofs.Device.MapPaths

/-!
# Looking up addresses

The bits of a register lie in as many bytes as its size begins. An entry of an address map covers
only the whole bytes among them, or one byte if there is none. So the last byte of a register of
twelve bits belongs to the register and is not covered, and its address leads to another entry or to
none. All other addresses lead to the first entry that has them.

## Main definitions

* `AddressMap.Entry.Occupies` : the bytes in which the bits of a register lie.
* `AddressMap.Entry.HasPartialByte`, `AddressMap.Entry.lastByte` : the byte that is not covered.
* `AddressMap.IsFirstAt` : the first entry that occupies an address, or none.

## Main results

* `AddressMap.Entry.occupies_iff_bit` : the occupied bytes are those of the bits.
* `AddressMap.Entry.occupies_iff` : an entry covers what it occupies but for a partial byte.
* `AddressMap.isFirstAt_at?_iff` : which addresses lead to the first entry that occupies them.
* `Device.isFirstAt_addressMap_iff` : so they do in the address map of a device, which is sorted.
-/

namespace RegisterMap

namespace AddressMap

variable {e : Entry} {m : AddressMap} {address : Int}

/-! ### Bytes of a register -/

namespace Entry

/-- The address is in the register: from the register's own on as many bytes are as its size begins,
and at least one. -/
def Occupies (e : Entry) (address : Int) : Prop :=
  e.address ≤ address ∧ address < e.address + max (-(-e.size / 8)) 1

instance (e : Entry) (address : Int) : Decidable (e.Occupies address) :=
  inferInstanceAs (Decidable (e.address ≤ address ∧ address < e.address + max (-(-e.size / 8)) 1))

/-- The size is more than a byte and not a whole number of bytes. -/
def HasPartialByte (e : Entry) : Prop := 8 < e.size ∧ e.size % 8 ≠ 0

instance (e : Entry) : Decidable e.HasPartialByte :=
  inferInstanceAs (Decidable (8 < e.size ∧ e.size % 8 ≠ 0))

/-- Address of the byte after the whole bytes. -/
def lastByte (e : Entry) : Int := e.address + e.size / 8

theorem covers_iff : e.covers address = true ↔
    e.address ≤ address ∧ address < e.address + max (e.size / 8) 1 := by
  rw [covers, bytes, Int.fdiv_eq_ediv_of_nonneg _ (by decide), Bool.and_eq_true, decide_eq_true_iff,
    decide_eq_true_iff]

/-- A register occupies the bytes of its bits, and the byte at its address. -/
theorem occupies_iff_bit : e.Occupies address ↔
    address = e.address ∨ ∃ bit, 0 ≤ bit ∧ bit < e.size ∧ address = e.address + bit / 8 := by
  constructor
  · rintro ⟨start, stop⟩
    by_cases first : address = e.address
    · exact .inl first
    · exact .inr ⟨(address - e.address) * 8, by omega, by omega, by omega⟩
  · rintro (rfl | ⟨bit, start, stop, rfl⟩)
    · exact ⟨Int.le_refl _, by omega⟩
    · exact ⟨by omega, by omega⟩

/-- An entry covers what it occupies, but for a partial byte at the end. -/
theorem occupies_iff : e.Occupies address ↔
    e.covers address = true ∨ e.HasPartialByte ∧ address = e.lastByte := by
  rw [covers_iff, Occupies, HasPartialByte, lastByte]
  omega

theorem not_covers_lastByte (partialByte : e.HasPartialByte) : e.covers e.lastByte = false := by
  have large := partialByte.1
  rw [← Bool.not_eq_true, covers_iff, lastByte]
  omega

end Entry

/-! ### Look-ups -/

/-- The first entry of the map that occupies an address, or none if no entry does. -/
inductive IsFirstAt (m : AddressMap) (address : Int) : Option Entry → Prop
  | found {before after : List Entry} {e : Entry} (split : m.entries = before ++ e :: after)
      (own : e.Occupies address) (others : ∀ f ∈ before, ¬f.Occupies address) :
      IsFirstAt m address (some e)
  | missed (others : ∀ e ∈ m.entries, ¬e.Occupies address) : IsFirstAt m address none

theorem at?_eq_some_iff : m.at? address = some e ↔ e.covers address = true ∧
    ∃ before after, m.entries = before ++ e :: after ∧ ∀ f ∈ before, f.covers address = false := by
  simp [at?, List.find?_eq_some_iff_append]

/-- What is found occupies the address. -/
theorem occupies_of_at? (found : m.at? address = some e) : e.Occupies address :=
  Entry.occupies_iff.2 (.inl (at?_eq_some_iff.1 found).1)

theorem IsFirstAt.isSome {found : Option Entry} (h : m.IsFirstAt address found)
    (mem : e ∈ m.entries) (own : e.Occupies address) : found.isSome := by
  cases h with
  | found => rfl
  | missed others => exact absurd own (others e mem)

/-- Every register with a partial byte at the address comes after one that covers it. -/
def IsCoveredAt (m : AddressMap) (address : Int) : Prop :=
  ∀ before e after, m.entries = before ++ e :: after → e.HasPartialByte → address = e.lastByte →
    ∃ f ∈ before, f.covers address = true

/-- Then of the first entries some occupies the address only if some covers it. -/
theorem IsCoveredAt.not_occupies (h : m.IsCoveredAt address) {before after : List Entry}
    (split : m.entries = before ++ after) (others : ∀ f ∈ before, f.covers address = false) :
    ∀ f ∈ before, ¬f.Occupies address := by
  intro f hf own
  rcases Entry.occupies_iff.1 own with covered | ⟨partialByte, last⟩
  · exact absurd covered (Bool.eq_false_iff.1 (others f hf))
  · obtain ⟨front, back, rfl⟩ := List.append_of_mem hf
    rw [List.append_assoc, List.cons_append] at split
    obtain ⟨g, hg, covered⟩ := h front f (back ++ after) split partialByte last
    exact absurd covered (Bool.eq_false_iff.1 (others g (List.mem_append_left _ hg)))

/-- An address leads to the first entry that occupies it if and only if every register with a
partial byte there comes after one that covers it. -/
theorem isFirstAt_at?_iff : m.IsFirstAt address (m.at? address) ↔ m.IsCoveredAt address := by
  constructor
  · rintro first before e after split partialByte rfl
    have own : e.Occupies e.lastByte := Entry.occupies_iff.2 (.inr ⟨partialByte, rfl⟩)
    have mem : e ∈ m.entries := split ▸ List.mem_append_right _ List.mem_cons_self
    obtain ⟨f, hf⟩ := Option.isSome_iff_exists.1 (first.isSome mem own)
    have covered := (at?_eq_some_iff.1 hf).1
    have other : f ≠ e := by
      rintro rfl
      exact absurd covered (Bool.eq_false_iff.1 (Entry.not_covers_lastByte partialByte))
    rw [hf] at first
    cases first with
    | @found front _ _ split' _ others =>
      rcases List.append_eq_append_iff.1 (split.symm.trans split') with
        ⟨_ | ⟨g, between⟩, rfl, rest⟩ | ⟨_ | ⟨g, between⟩, rfl, rest⟩
      · exact absurd (List.cons.inj rest).1.symm other
      · -- the entry found comes after `e`, which occupies the address
        obtain rfl := (List.cons.inj rest).1
        exact absurd own (others e (List.mem_append_right _ List.mem_cons_self))
      · exact absurd (List.cons.inj rest).1 other
      · obtain rfl := (List.cons.inj rest).1
        exact ⟨f, List.mem_append_right _ List.mem_cons_self, covered⟩
  · intro h
    cases hf : m.at? address with
    | none =>
      refine .missed (h.not_occupies (List.append_nil _).symm fun f mem => ?_)
      exact Bool.eq_false_iff.2 (List.find?_eq_none.1 hf f mem)
    | some e =>
      obtain ⟨covered, before, after, split, others⟩ := at?_eq_some_iff.1 hf
      exact .found split (occupies_of_at? hf) (h.not_occupies split others)

end AddressMap

/-! ### Devices -/

/-- **Addresses lead to their registers.** In the address map of a device, which is sorted, an
address leads to the first entry that occupies it, and to none if no entry does, if and only if
every register with a partial byte there comes after one that covers it. Then every bit of a
register in that byte is found. What any address leads to occupies it. -/
theorem Device.isFirstAt_addressMap_iff {d : Device} {m : AddressMap}
    (made : d.addressMap = .ok m) :
    (entryAddresses m.entries).Pairwise (· ≤ ·) ∧ ∀ address,
      (m.IsFirstAt address (m.at? address) ↔ m.IsCoveredAt address) ∧
      (m.IsCoveredAt address → ∀ e ∈ m.entries, ∀ bit, 0 ≤ bit → bit < e.size →
        address = e.address + bit / 8 → (m.at? address).isSome) ∧
      ∀ e, m.at? address = some e → e.Occupies address := by
  have sorted := d.addressMap_succeedsIff
  rw [made] at sorted
  refine ⟨sorted.2.1, fun address => ⟨AddressMap.isFirstAt_at?_iff, ?_, ?_⟩⟩
  · intro covered e mem bit start stop at'
    have own : e.Occupies address :=
      AddressMap.Entry.occupies_iff_bit.2 (.inr ⟨bit, start, stop, at'⟩)
    exact (AddressMap.isFirstAt_at?_iff.2 covered).isSome mem own
  · intro e found
    exact AddressMap.occupies_of_at? found

/-- Two registers of sixteen and of twelve bits at one address, and another of twelve bits. -/
def digitizer : Device where
  name := "BOARD"
  peripherals := [{
    name := "ADC", baseAddress := 0x1000
    registers := [
      { name := "WORD", offset := 0, properties := { size := some 16 } },
      { name := "SAMPLE", offset := 0, properties := { size := some 12 } },
      { name := "LAST", offset := 4, properties := { size := some 12 } }] }]

theorem isFirstAt_addressMap_iff_digitizer : ∃ m, digitizer.addressMap = .ok m ∧
    m.entries.map (·.path) = ["ADC.WORD", "ADC.SAMPLE", "ADC.LAST"] ∧
    m.IsFirstAt 0x1001 (m.at? 0x1001) ∧ ¬m.IsFirstAt 0x1005 (m.at? 0x1005) := by
  obtain ⟨m, made, entries⟩ : ∃ m, digitizer.addressMap = .ok m ∧ m.entries = [
      ⟨"ADC.WORD", 0x1000, 16, { name := "WORD", offset := 0, properties := { size := some 16 } }⟩,
      ⟨"ADC.SAMPLE", 0x1000, 12,
        { name := "SAMPLE", offset := 0, properties := { size := some 12 } }⟩,
      ⟨"ADC.LAST", 0x1004, 12,
        { name := "LAST", offset := 4, properties := { size := some 12 } }⟩] :=
    ⟨_, rfl, List.mergeSort_of_pairwise (by decide)⟩
  obtain ⟨-, leads⟩ := Device.isFirstAt_addressMap_iff made
  refine ⟨m, made, entries ▸ rfl, (leads 0x1001).1.2 ?_, mt (leads 0x1005).1.1 fun covered => ?_⟩
  · intro before e after split partialByte last
    rw [entries] at split
    obtain _ | ⟨f, before⟩ := before
    · obtain ⟨rfl, -⟩ := List.cons.inj split
      exact absurd rfl partialByte.2
    · obtain ⟨rfl, -⟩ := List.cons.inj split
      exact ⟨_, List.mem_cons_self, rfl⟩
  · obtain ⟨f, hf, own⟩ := covered [_, _] _ [] entries (by decide) rfl
    revert f
    decide

/-- A register of twelve bits. -/
def sampler : Device where
  name := "BOARD"
  peripherals := [{
    name := "ADC", baseAddress := 0x1000
    registers := [{ name := "SAMPLE", offset := 0, properties := { size := some 12 } }] }]

theorem not_forall_isFirstAt_at? : ¬∀ (d : Device) (m : AddressMap), d.addressMap = .ok m →
    ∀ address, m.IsFirstAt address (m.at? address) := by
  intro all
  obtain ⟨m, made, entries⟩ : ∃ m, sampler.addressMap = .ok m ∧ m.entries = [
      ⟨"ADC.SAMPLE", 0x1000, 12,
        { name := "SAMPLE", offset := 0, properties := { size := some 12 } }⟩] :=
    ⟨_, rfl, List.mergeSort_singleton _⟩
  have nothing : m.at? 0x1001 = none := by
    rw [AddressMap.at?, entries]
    rfl
  have mem := entries ▸ List.mem_singleton_self _
  have first := (all sampler m made 0x1001).isSome mem (by decide)
  rw [nothing] at first
  cases first

end RegisterMap
