import Mathlib.Data.List.Nodup
import RegisterMap.Nim.FirstWins
import RegisterMap.Proofs.Outcome

/-!
# First definitions

A table in which the first definition wins keeps, of everything entered into it, the first item of
each key. This file describes that choice as a function on lists and shows that a run of entries
computes it. What holds of every item with regard to the keys before it still holds of the chosen
items: a later item is only dropped when its key is already there.

## Main definitions

* `firsts` : the items of a list that are the first of their keys.
* `Keeps` : what a run of entries adds to the items before it.
* `EachAfter` : every item of a list suits what stands before it.
* `FirstWins.Holds` : a table holds given items, each under its key.

## Main results

* `nodup_map_firsts`, `mem_keys_firsts` : each key that occurs is chosen once.
* `Keeps.append` : one run after the other.
* `Keeps.eachAfter` : the chosen items still suit what stands before them.
* `FirstWins.defineAll_eq_ok` : a run of entries keeps the first items, and in a strict table there
  are no others.
* `FirstWins.foldlM_eq_ok` : so does a run of steps that each enter some definitions.
-/

namespace RegisterMap.Nim

variable {α κ : Type}

/-! ### The first of each key -/

section Firsts

variable [DecidableEq κ] (key : α → κ)

/-- The items that are the first of their keys, apart from those whose key was seen before. -/
def firsts (seen : List κ) : List α → List α
  | [] => []
  | a :: as =>
    if key a ∈ seen then firsts seen as else a :: firsts (seen ++ [key a]) as

variable {key} {seen : List κ} {a : α}

theorem firsts_append (as bs : List α) : firsts key seen (as ++ bs) =
    firsts key seen as ++ firsts key (seen ++ (firsts key seen as).map key) bs := by
  induction as generalizing seen with
  | nil => simp [firsts]
  | cons a as ih =>
    rw [List.cons_append, firsts, firsts]
    split
    · exact ih
    · rw [ih, List.cons_append, List.map_cons, List.append_assoc]
      rfl

theorem firsts_sublist (seen : List κ) (as : List α) : (firsts key seen as).Sublist as := by
  induction as generalizing seen with
  | nil => exact .slnil
  | cons a as ih =>
    rw [firsts]
    split
    · exact (ih seen).cons a
    · exact (ih _).cons_cons a

theorem key_notMem_of_mem_firsts {as : List α} (h : a ∈ firsts key seen as) : key a ∉ seen := by
  induction as generalizing seen with
  | nil => exact absurd h List.not_mem_nil
  | cons b as ih =>
    rw [firsts] at h
    split at h
    · exact ih h
    · next hb =>
      rcases List.mem_cons.1 h with rfl | h
      · exact hb
      · exact fun hs => ih h (List.mem_append_left _ hs)

/-- The choice goes by keys alone: it is the same among the images of the items if they have
different keys exactly when the items have. -/
theorem firsts_map {β κ' : Type} [DecidableEq κ'] {key' : β → κ'} {f : α → β} {g : κ → κ'}
    (hf : ∀ a, key' (f a) = g (key a)) (hg : Function.Injective g) {seen' : List κ'}
    (hs : ∀ k, g k ∈ seen' ↔ k ∈ seen) (as : List α) :
    firsts key' seen' (as.map f) = (firsts key seen as).map f := by
  induction as generalizing seen seen' with
  | nil => rfl
  | cons a as ih =>
    have grown : ∀ k, g k ∈ seen' ++ [key' (f a)] ↔ k ∈ seen ++ [key a] := by
      intro k
      rw [List.mem_append, List.mem_append, List.mem_singleton, List.mem_singleton, hs, hf,
        hg.eq_iff]
    rw [List.map_cons, firsts, firsts, hf]
    by_cases hk : key a ∈ seen
    · rw [if_pos hk, if_pos ((hs _).2 hk)]
      exact ih hs
    · rw [if_neg hk, if_neg fun h => hk ((hs _).1 h), List.map_cons, ← hf, ih grown]

/-- No key is chosen twice. -/
theorem nodup_map_firsts (seen : List κ) (as : List α) : ((firsts key seen as).map key).Nodup := by
  induction as generalizing seen with
  | nil => exact List.nodup_nil
  | cons a as ih =>
    rw [firsts]
    split
    · exact ih seen
    · refine List.nodup_cons.2 ⟨fun h => ?_, ih _⟩
      obtain ⟨b, hb, same⟩ := List.mem_map.1 h
      exact key_notMem_of_mem_firsts hb (List.mem_append_right _ (same ▸ List.mem_singleton_self _))

/-- Every key that occurs was seen before or is chosen. -/
theorem mem_keys_firsts (seen : List κ) {as : List α} (h : a ∈ as) :
    key a ∈ seen ++ (firsts key seen as).map key := by
  induction as generalizing seen with
  | nil => exact absurd h List.not_mem_nil
  | cons b as ih =>
    rw [firsts]
    split
    · next hb =>
      rcases List.mem_cons.1 h with rfl | h
      · exact List.mem_append_left _ hb
      · exact ih seen h
    · rcases List.mem_cons.1 h with rfl | h
      · simp
      · simpa [or_assoc] using ih (seen ++ [key b]) h

example : firsts Prod.fst [2] [(1, 'a'), (2, 'b'), (1, 'c'), (3, 'd')] = [(1, 'a'), (3, 'd')] := by
  decide

/-- Of all items entered after given ones, the new ones are the first of their keys. If this is
strict, every item is among the given or the new ones. -/
structure Keeps (key : α → κ) (strict : Bool) (xs all new : List α) : Prop where
  new_eq : new = firsts key (xs.map key) all
  mem_of_strict : strict = true → ∀ a ∈ all, a ∈ xs ++ new

namespace Keeps

variable {strict : Bool} {xs all new all' new' : List α}

theorem nil : Keeps key strict xs [] [] := ⟨rfl, fun _ _ h => absurd h List.not_mem_nil⟩

theorem append (h : Keeps key strict xs all new) (h' : Keeps key strict (xs ++ new) all' new') :
    Keeps key strict xs (all ++ all') (new ++ new') := by
  refine ⟨?_, fun hs => List.forall_mem_append.2 ⟨fun a ha => ?_, fun a ha => ?_⟩⟩
  · rw [firsts_append, ← h.new_eq, ← List.map_append, ← h'.new_eq]
  · rw [← List.append_assoc]
    exact List.mem_append_left _ (h.mem_of_strict hs a ha)
  · rw [← List.append_assoc]
    exact h'.mem_of_strict hs a ha

theorem mem_all (h : Keeps key strict xs all new) (ha : a ∈ new) : a ∈ all := by
  rw [h.new_eq] at ha
  exact (firsts_sublist _ _).mem ha

theorem nodup (h : Keeps key strict xs all new) : (new.map key).Nodup := by
  rw [h.new_eq]
  exact nodup_map_firsts _ _

/-- Every key is there in the end. -/
theorem key_mem (h : Keeps key strict xs all new) (ha : a ∈ all) :
    key a ∈ (xs ++ new).map key := by
  rw [List.map_append, h.new_eq]
  exact mem_keys_firsts _ ha

/-- What is kept goes by keys alone. -/
theorem map {β κ' : Type} [DecidableEq κ'] {key' : β → κ'} {f : α → β} {g : κ → κ'} {ys : List β}
    (h : Keeps key strict xs all new) (hf : ∀ a, key' (f a) = g (key a))
    (hg : Function.Injective g) (hk : ∀ k, g k ∈ ys.map key' ↔ k ∈ xs.map key)
    (hm : ∀ a ∈ xs, f a ∈ ys) : Keeps key' strict ys (all.map f) (new.map f) := by
  refine ⟨?_, fun hs => List.forall_mem_map.2 fun a ha => ?_⟩
  · rw [firsts_map hf hg hk, ← h.new_eq]
  · rcases List.mem_append.1 (h.mem_of_strict hs a ha) with ha | ha
    · exact List.mem_append_left _ (hm a ha)
    · exact List.mem_append_right _ (List.mem_map_of_mem ha)

end Keeps

end Firsts

/-! ### Items after what they need -/

section EachAfter

variable {key : α → κ} {R : List κ → α → Prop} {seen : List κ}

/-- Every item of a list stands in a relation to the keys seen before the list and in front of the
item. -/
def EachAfter (key : α → κ) (R : List κ → α → Prop) (seen : List κ) (xs : List α) : Prop :=
  ∀ before a after, xs = before ++ a :: after → R (seen ++ before.map key) a

theorem eachAfter_nil : EachAfter key R seen [] := by
  intro before a after h
  simp at h

theorem eachAfter_cons {a : α} {as : List α} :
    EachAfter key R seen (a :: as) ↔ R seen a ∧ EachAfter key R (seen ++ [key a]) as := by
  constructor
  · intro h
    refine ⟨by simpa using h [] a as rfl, fun before b after hs => ?_⟩
    simpa using h (a :: before) b after (congrArg (a :: ·) hs)
  · rintro ⟨ha, has⟩ before b after hs
    cases before with
    | nil =>
      obtain ⟨rfl, rfl⟩ := List.cons.inj hs
      simpa using ha
    | cons c before =>
      obtain ⟨rfl, rest⟩ := List.cons.inj hs
      simpa using has before b after rest

theorem eachAfter_append {as bs : List α} : EachAfter key R seen (as ++ bs) ↔
    EachAfter key R seen as ∧ EachAfter key R (seen ++ as.map key) bs := by
  induction as generalizing seen with
  | nil => simp [eachAfter_nil]
  | cons a as ih =>
    rw [List.cons_append, eachAfter_cons, eachAfter_cons, ih, and_assoc, List.map_cons,
      List.append_assoc]
    rfl

variable (hR : ∀ s s' a, s ⊆ s' → R s a → R s' a)

include hR

theorem EachAfter.mono {seen' : List κ} {as : List α} (h : EachAfter key R seen as)
    (hs : seen ⊆ seen') : EachAfter key R seen' as := fun before a after split =>
  hR _ _ a (List.append_subset.2 ⟨fun _ hk => List.mem_append_left _ (hs hk),
    List.subset_append_right _ _⟩) (h before a after split)

/-- Items that suit what was seen before all of them. -/
theorem eachAfter_of_forall {as : List α} (h : ∀ a ∈ as, R seen a) : EachAfter key R seen as := by
  intro before a after split
  exact hR _ _ a (List.subset_append_left _ _)
    (h a (split ▸ List.mem_append_right _ List.mem_cons_self))

/-- Lists that each suit nothing before them, one after the other. -/
theorem eachAfter_flatten {parts : List (List α)} (h : ∀ as ∈ parts, EachAfter key R [] as) :
    EachAfter key R seen parts.flatten := by
  induction parts generalizing seen with
  | nil => exact eachAfter_nil
  | cons as parts ih =>
    obtain ⟨first, rest⟩ := List.forall_mem_cons.1 h
    exact eachAfter_append.2 ⟨first.mono hR (List.nil_subset _), ih rest⟩

/-- The chosen items suit what stands before them if all items do. -/
theorem eachAfter_firsts [DecidableEq κ] {seen' : List κ} {as : List α}
    (h : EachAfter key R seen as) (hs : seen ⊆ seen') :
    EachAfter key R seen' (firsts key seen' as) := by
  induction as generalizing seen seen' with
  | nil => exact eachAfter_nil
  | cons a as ih =>
    obtain ⟨ha, has⟩ := eachAfter_cons.1 h
    rw [firsts]
    split
    · next hk =>
      have known : [key a] ⊆ seen' := List.cons_subset.2 ⟨hk, List.nil_subset _⟩
      exact ih has (List.append_subset.2 ⟨hs, known⟩)
    · refine eachAfter_cons.2 ⟨hR _ _ a hs ha, ih has ?_⟩
      exact List.append_subset.2 ⟨fun _ hk => List.mem_append_left _ (hs hk),
        List.subset_append_right _ _⟩

/-- What is kept suits what stands before it if everything does. -/
theorem Keeps.eachAfter [DecidableEq κ] {strict : Bool} {xs all new : List α}
    (h : Keeps key strict xs all new) (ha : EachAfter key R [] all) :
    EachAfter key R (xs.map key) new := by
  rw [h.new_eq]
  exact eachAfter_firsts hR ha (List.nil_subset _)

end EachAfter

/-! ### Runs of entries -/

namespace FirstWins

/-- The table is strict or not, and holds given items, each under its key, and nothing else. -/
structure Holds (key : α → String) (strict : Bool) (t : FirstWins α) (xs : List α) : Prop where
  isStrict : t.strict = strict
  entries : t.entries = xs.map fun a => (key a, some a)

namespace Holds

variable {key : α → String} {strict : Bool} {t : FirstWins α} {xs : List α}

theorem find?_eq_none (h : t.Holds key strict xs) {k : String} (hk : k ∉ xs.map key) :
    t.find? k = none := by
  have absent : t.entries.lookup k = none := by
    rwa [h.entries, lookup_eq_none_iff_notMem, List.map_map]
  rw [find?, absent]
  rfl

theorem exists_find? (h : t.Holds key strict xs) {k : String} (hk : k ∈ xs.map key) :
    ∃ a ∈ xs, key a = k ∧ t.find? k = some a := by
  cases hf : t.entries.lookup k with
  | none =>
    rw [h.entries, lookup_eq_none_iff_notMem, List.map_map] at hf
    exact absurd hk hf
  | some item =>
    have mem := mem_of_lookup_eq_some hf
    rw [h.entries] at mem
    obtain ⟨a, ha, same⟩ := List.mem_map.1 mem
    obtain ⟨rfl, rfl⟩ := Prod.mk.inj same
    exact ⟨a, ha, rfl, by rw [find?, hf]; rfl⟩

theorem definitions_eq (h : t.Holds key strict xs) : t.definitions = xs := by
  rw [definitions, values, h.entries, List.map_map, List.filterMap_map]
  exact List.filterMap_some

/-- A new key is entered at the end. -/
theorem set (h : t.Holds key strict xs) {a : α} (ha : key a ∉ xs.map key) :
    (t.set (key a) (some a)).Holds key strict (xs ++ [a]) := by
  have absent : t.contains (key a) = false := by
    rw [contains, h.entries, List.any_map, List.any_eq_false]
    intro b hb
    have other : key b ≠ key a := fun e => ha (e ▸ List.mem_map_of_mem hb)
    simpa using other
  refine ⟨h.isStrict, ?_⟩
  simp [FirstWins.set, absent, h.entries]

end Holds

variable {key : α → String} {strict : Bool} {t t' : FirstWins α} {xs : List α}

/-- A run of steps that each enter some definitions. -/
theorem foldlM_eq_ok {β : Type} (made : β → Except Fault (List α))
    {step : FirstWins α → β → Logged (FirstWins α)}
    (hstep : ∀ {t t' : FirstWins α} {xs : List α} {b : β}, t.Holds key strict xs →
      (step t b).outcome = .ok t' → ∃ all new, made b = .ok all ∧ Keeps key strict xs all new ∧
        t'.Holds key strict (xs ++ new)) {bs : List β} (ht : t.Holds key strict xs)
    (h : (bs.foldlM step t).outcome = .ok t') :
    ∃ parts new, bs.mapM made = .ok parts ∧ Keeps key strict xs parts.flatten new ∧
      t'.Holds key strict (xs ++ new) := by
  induction bs generalizing t xs with
  | nil =>
    cases Except.ok.inj h
    exact ⟨[], [], rfl, .nil, by rwa [List.append_nil]⟩
  | cons b bs ih =>
    rw [List.foldlM_cons] at h
    obtain ⟨t₁, h₁, h⟩ := Logged.outcome_bind_eq_ok_iff.1 h
    obtain ⟨all, new, hall, first, held⟩ := hstep ht h₁
    obtain ⟨parts, rest, hparts, others, held⟩ := ih held h
    refine ⟨all :: parts, new ++ rest, ?_, first.append others, by rwa [← List.append_assoc]⟩
    rw [List.mapM_cons, hall, hparts]
    rfl

variable [DecidableEq α]

/-- Definitions are entered one after the other. -/
theorem outcome_defineAll_cons {name : String} {item : α} {items : List (String × α)}
    {kept : List α} : (t.defineAll ((name, item) :: items)).outcome = .ok (kept, t') ↔
      ∃ isFirst t₁ rest, (t.define name (some item)).outcome = .ok (isFirst, t₁) ∧
        (t₁.defineAll items).outcome = .ok (rest, t') ∧
        kept = if isFirst then item :: rest else rest := by
  rw [defineAll, Logged.outcome_bind, bind_eq_ok_iff]
  constructor
  · rintro ⟨⟨isFirst, t₁⟩, h₁, h⟩
    obtain ⟨⟨rest, t₂⟩, h₂, h⟩ := Logged.outcome_bind_eq_ok_iff.1 h
    cases Except.ok.inj h
    exact ⟨isFirst, t₁, rest, h₁, h₂, rfl⟩
  · rintro ⟨isFirst, t₁, rest, h₁, h₂, rfl⟩
    refine ⟨(isFirst, t₁), h₁, ?_⟩
    exact Logged.outcome_bind_eq_ok_iff.2 ⟨(rest, t'), h₂, rfl⟩

/-- A definition is entered if its key is new. Otherwise nothing changes, and in a strict table the
definition is there already. -/
theorem define_eq_ok (ht : t.Holds key strict xs) {a : α} {isFirst : Bool}
    (h : (t.define (key a) (some a)).outcome = .ok (isFirst, t')) :
    Keeps key strict xs [a] (if isFirst then [a] else []) ∧
      t'.Holds key strict (xs ++ if isFirst then [a] else []) := by
  by_cases hk : key a ∈ xs.map key
  · obtain ⟨b, hb, -, hf⟩ := ht.exists_find? hk
    have old : (strict = true → a ∈ xs) → Keeps key strict xs [a] [] := fun known =>
      ⟨by rw [firsts, if_pos hk, firsts], fun hs c hc => by
        rw [List.mem_singleton.1 hc, List.append_nil]
        exact known hs⟩
    rw [define, hf] at h
    dsimp only at h
    split at h
    · next same =>
      cases Except.ok.inj h
      exact ⟨old fun _ => Option.some.inj same ▸ hb, by simpa using ht⟩
    · split at h
      · cases h
      · next lax =>
        cases Except.ok.inj h
        exact ⟨old fun hs => absurd (ht.isStrict.trans hs) lax, by simpa using ht⟩
  · rw [define_of_fresh (ht.find?_eq_none hk)] at h
    cases Except.ok.inj h
    refine ⟨⟨by rw [firsts, if_neg hk, firsts]; rfl, fun _ c hc => ?_⟩, ht.set hk⟩
    exact List.mem_append_right _ hc

/-- A run of entries keeps the first item of each key and returns those that are new. In a strict
table every item is among them. -/
theorem defineAll_eq_ok (ht : t.Holds key strict xs) {items kept : List α}
    (h : (t.defineAll (items.map fun a => (key a, a))).outcome = .ok (kept, t')) :
    Keeps key strict xs items kept ∧ t'.Holds key strict (xs ++ kept) := by
  induction items generalizing t t' xs kept with
  | nil =>
    cases Except.ok.inj h
    exact ⟨.nil, by rwa [List.append_nil]⟩
  | cons a items ih =>
    obtain ⟨isFirst, t₁, rest, h₁, h₂, rfl⟩ := outcome_defineAll_cons.1 h
    obtain ⟨first, held⟩ := define_eq_ok ht h₁
    obtain ⟨others, held⟩ := ih held h₂
    have kept : (if isFirst then a :: rest else rest) = (if isFirst then [a] else []) ++ rest := by
      cases isFirst <;> rfl
    rw [kept, ← List.append_assoc]
    exact ⟨first.append others, held⟩

end FirstWins

end RegisterMap.Nim
