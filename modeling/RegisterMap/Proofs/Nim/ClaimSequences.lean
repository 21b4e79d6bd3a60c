import Mathlib.Order.Bounds.Defs
import RegisterMap.Proofs.Nim.UniqueNames

/-!
# Sequences of claims

Owners claim names one after the other, and an owner may claim again. What a claim is answered can
be told from the answers before it: an owner that was answered is answered the same, and a new one
tries the variants of its stem in order until it meets one that was not given. Variants of one stem
can be the plain names of another, so what a claim meets depends on all claims before it, whatever
their stems. The names in use are the answers given so far, of which there are finitely many, and
therefore trying comes to an end.

## Main definitions

* `TriesEndAt` : trying the variants of a stem, one step after the other.
* `Registry.Remembers` : a registry holds the answers given so far, and nothing else.
* `Registry.afterAll`, `Registry.answers` : a registry after a sequence of claims, and the answers.

## Main results

* `triesEndAt_iff` : trying ends at the first variant that is not used.
* `Registry.Remembers.claim_new` : the name of a new owner.
* `Registry.Remembers.claim`, `Registry.Remembers.afterAll` : what one claim and what a sequence of
  claims leaves behind.
* `Registry.claimAll_answers` : the answers to a sequence of claims.
-/

namespace RegisterMap.Nim

/-! ### Trying the variants of a stem -/

/-- Trying the variants of a stem from a number on, one after the other, comes to an end at a number
whose variant is not used. -/
inductive TriesEndAt (used : List String) (stem : String) : Nat → Nat → Prop
  | unused {n : Nat} (h : variant stem n ∉ used) : TriesEndAt used stem n n
  | next {n m : Nat} (h : variant stem n ∈ used) (rest : TriesEndAt used stem (n + 1) m) :
      TriesEndAt used stem n m

/-- Trying ends at the first variant that is not used. -/
theorem triesEndAt_iff {used : List String} {stem : String} {n m : Nat} :
    TriesEndAt used stem n m ↔
      n ≤ m ∧ variant stem m ∉ used ∧ ∀ k, n ≤ k → k < m → variant stem k ∈ used := by
  constructor
  · intro h
    induction h with
    | unused h => exact ⟨le_rfl, h, fun k above below => absurd below (by omega)⟩
    | @next n m h _ ih =>
      obtain ⟨above, free, before⟩ := ih
      refine ⟨by omega, free, fun k hk hm => ?_⟩
      rcases Nat.eq_or_lt_of_le hk with rfl | later
      · exact h
      · exact before k later hm
  · rintro ⟨above, free, before⟩
    -- by induction on the number of variants that are still to be tried
    induction k : m - n generalizing n with
    | zero =>
      obtain rfl : n = m := by omega
      exact .unused free
    | succ k ih =>
      have rest := ih (n := n + 1) (by omega) (fun i hi => before i (by omega)) (by omega)
      exact .next (before n le_rfl (by omega)) rest

/-- So it ends at the least number of all whose variants are not used. -/
theorem TriesEndAt.isLeast {used : List String} {stem : String} {n : Nat}
    (h : TriesEndAt used stem 0 n) : IsLeast {n | variant stem n ∉ used} n := by
  obtain ⟨-, free, before⟩ := triesEndAt_iff.1 h
  refine ⟨free, fun k unused => ?_⟩
  by_contra below
  exact unused (before k (Nat.zero_le _) (by omega))

namespace Registry

/-! ### What a registry remembers -/

section

variable {κ : Type} {reg : Registry κ} {past : List (κ × String)}

/-- A registry in which each owner has one name and each name one owner, and that holds the answers
given so far and nothing else. -/
structure Remembers (reg : Registry κ) (past : List (κ × String)) : Prop where
  isOneToOne : reg.IsOneToOne
  mem_claims : ∀ c, c ∈ reg.claims ↔ c ∈ past

theorem remembers_empty : Remembers ({} : Registry κ) [] := ⟨isOneToOne_empty, fun _ => .rfl⟩

namespace Remembers

theorem mem_names (h : reg.Remembers past) {name : String} :
    name ∈ reg.claims.map Prod.snd ↔ name ∈ past.map Prod.snd := by
  simp only [List.mem_map, h.mem_claims]

theorem mem_owners (h : reg.Remembers past) {owner : κ} :
    owner ∈ reg.claims.map Prod.fst ↔ owner ∈ past.map Prod.fst := by
  simp only [List.mem_map, h.mem_claims]

/-- Two answers are one name exactly if they are given to one owner. -/
theorem name_eq_iff (h : reg.Remembers past) {o o' : κ} {name name' : String}
    (hp : (o, name) ∈ past) (hp' : (o', name') ∈ past) : name = name' ↔ o = o' :=
  h.isOneToOne.name_eq_iff ((h.mem_claims _).2 hp) ((h.mem_claims _).2 hp')

/-- The variant that a new owner takes is the one at which trying ends. -/
theorem triesEndAt (h : reg.Remembers past) (stem : String) :
    TriesEndAt (past.map Prod.snd) stem 0 (reg.firstFree stem) := by
  refine triesEndAt_iff.2 ⟨Nat.zero_le _, fun used => ?_, fun k _ before => ?_⟩
  · have free := reg.isTaken_firstFree stem
    rw [isTaken_eq_true.2 (h.mem_names.2 used)] at free
    cases free
  · exact h.mem_names.1 (isTaken_eq_true.1 (isTaken_of_lt_firstFree before))

variable [BEq κ] [LawfulBEq κ]

/-- One claim: its answer is remembered besides what was. -/
theorem claim (h : reg.Remembers past) (base : String) (owner : κ) :
    (reg.claim base owner).2.Remembers (past ++ [(owner, (reg.claim base owner).1)]) :=
  ⟨h.isOneToOne.claim base owner, fun c => by
    rw [mem_claims_claim, h.mem_claims, List.mem_append, List.mem_singleton]⟩

/-- The name of a new owner is the variant at which trying ends. -/
theorem claim_new (h : reg.Remembers past) {owner : κ} (new : owner ∉ past.map Prod.fst)
    (base : String) : ∃ n, TriesEndAt (past.map Prod.snd) (Ident.ofText base) 0 n ∧
      (reg.claim base owner).1 = variant (Ident.ofText base) n := by
  have unknown : reg.nameOf? owner = none :=
    nameOf?_eq_none_iff.2 fun mem => new (h.mem_owners.1 mem)
  exact ⟨_, h.triesEndAt (Ident.ofText base), by rw [Registry.claim, unknown]⟩

end Remembers

end

/-! ### Claims one after the other -/

section

variable {κ : Type} [BEq κ]

/-- The registry after a sequence of claims. -/
def afterAll (reg : Registry κ) : List (String × κ) → Registry κ
  | [] => reg
  | (base, owner) :: rest => (reg.claim base owner).2.afterAll rest

theorem length_claimAll (reg : Registry κ) (asked : List (String × κ)) :
    (reg.claimAll asked).length = asked.length := by
  induction asked generalizing reg with
  | nil => rfl
  | cons a asked ih => exact congrArg (· + 1) (ih _)

/-- The first answers are those to the first claims. -/
theorem take_claimAll (reg : Registry κ) (asked : List (String × κ)) (i : Nat) :
    (reg.claimAll asked).take i = reg.claimAll (asked.take i) := by
  induction asked generalizing reg i with
  | nil => rw [List.take_nil, claimAll, List.take_nil]
  | cons a asked ih =>
    cases i with
    | zero => rfl
    | succ i => exact congrArg (_ :: ·) (ih _ i)

/-- A claim is answered by the registry that the claims before it leave behind. -/
theorem getElem?_claimAll {reg : Registry κ} {asked : List (String × κ)} {i : Nat} {base : String}
    {owner : κ} (h : asked[i]? = some (base, owner)) :
    (reg.claimAll asked)[i]? = some ((reg.afterAll (asked.take i)).claim base owner).1 := by
  induction asked generalizing reg i with
  | nil => cases h
  | cons a asked ih =>
    cases i with
    | zero =>
      cases h
      rfl
    | succ i => exact ih h

/-- The owners that ask, each with its answer. -/
def answers (reg : Registry κ) (asked : List (String × κ)) : List (κ × String) :=
  (asked.map Prod.snd).zip (reg.claimAll asked)

theorem map_fst_answers (reg : Registry κ) (asked : List (String × κ)) :
    (reg.answers asked).map Prod.fst = asked.map Prod.snd :=
  List.map_fst_zip (by rw [List.length_map, length_claimAll])

theorem map_snd_answers (reg : Registry κ) (asked : List (String × κ)) :
    (reg.answers asked).map Prod.snd = reg.claimAll asked :=
  List.map_snd_zip (by rw [List.length_map, length_claimAll])

/-- Every claim is answered. -/
theorem exists_mem_answers (reg : Registry κ) {asked : List (String × κ)} {i : Nat} {base : String}
    {owner : κ} (h : asked[i]? = some (base, owner)) :
    ∃ name, (reg.claimAll asked)[i]? = some name ∧ (owner, name) ∈ reg.answers asked := by
  refine ⟨_, getElem?_claimAll h, List.mem_of_getElem? (i := i) ?_⟩
  rw [answers, List.getElem?_zip_eq_some, List.getElem?_map, h]
  exact ⟨rfl, getElem?_claimAll h⟩

/-- A sequence of claims: all answers are remembered. -/
theorem Remembers.afterAll [LawfulBEq κ] {reg : Registry κ} {past : List (κ × String)}
    (h : reg.Remembers past) (asked : List (String × κ)) :
    (reg.afterAll asked).Remembers (past ++ reg.answers asked) := by
  induction asked generalizing reg past with
  | nil => rwa [answers, List.map_nil, List.zip_nil_left, List.append_nil]
  | cons a asked ih =>
    obtain ⟨base, owner⟩ := a
    have rest := ih (h.claim base owner)
    rwa [List.append_assoc] at rest

end

/-- **Answers.** In any sequence of claims on a fresh registry, every claim is answered. Two claims
get one name exactly if they have one owner. Where an owner is new, trying the variants of what it
asks for comes to an end, at the least number whose variant was not given before, and the owner gets
that variant. -/
theorem claimAll_answers {κ : Type} [DecidableEq κ] (asked : List (String × κ)) :
    (claimAll {} asked).length = asked.length ∧
      (∀ (i j : Nat) (base base' : String) (owner owner' : κ),
        asked[i]? = some (base, owner) → asked[j]? = some (base', owner') →
          ((claimAll {} asked)[i]? = (claimAll {} asked)[j]? ↔ owner = owner')) ∧
      ∀ (i : Nat) (base : String) (owner : κ), asked[i]? = some (base, owner) →
        owner ∉ (asked.take i).map Prod.snd →
          ∃ n, TriesEndAt ((claimAll {} asked).take i) (Ident.ofText base) 0 n ∧
            IsLeast {n | variant (Ident.ofText base) n ∉ (claimAll {} asked).take i} n ∧
            (claimAll {} asked)[i]? = some (variant (Ident.ofText base) n) := by
  refine ⟨length_claimAll {} asked, fun i j _ _ _ _ hi hj => ?_, fun i base owner h new => ?_⟩
  · obtain ⟨name, answer, mem⟩ := exists_mem_answers {} hi
    obtain ⟨name', answer', mem'⟩ := exists_mem_answers {} hj
    rw [answer, answer', Option.some_inj]
    exact (remembers_empty.afterAll asked).name_eq_iff mem mem'
  · have before := remembers_empty.afterAll (asked.take i)
    rw [List.nil_append] at before
    rw [← map_fst_answers {} (asked.take i)] at new
    obtain ⟨n, ends, name⟩ := before.claim_new new base
    rw [map_snd_answers, ← take_claimAll] at ends
    exact ⟨n, ends, ends.isLeast, by rw [getElem?_claimAll h, name]⟩

-- the third claim finds the plain name taken, and its first variant, which is a plain name, too
theorem claimAll_answers_plainVariant :
    let asked := [("A", 1), ("A-1", 2), ("A", 3), ("A", 1)]
    claimAll {} asked = ["A_Type", "A_1_Type", "A_2_Type", "A_Type"] ∧
      asked[2]? = some ("A", 3) ∧ 3 ∉ (asked.take 2).map Prod.snd ∧
      ∃ n, TriesEndAt ["A_Type", "A_1_Type"] "A" 0 n ∧ variant "A" n = "A_2_Type" := by
  intro asked
  have names : claimAll {} asked = ["A_Type", "A_1_Type", "A_2_Type", "A_Type"] := by
    decide +kernel
  have stem : Ident.ofText "A" = "A" := by decide +kernel
  have new : 3 ∉ (asked.take 2).map Prod.snd := by decide
  obtain ⟨-, -, named⟩ := claimAll_answers asked
  obtain ⟨n, ends, -, name⟩ := named 2 "A" 3 rfl new
  rw [names, stem] at ends name
  exact ⟨names, rfl, new, n, ends, (Option.some.inj name).symm⟩

end Registry

end RegisterMap.Nim
