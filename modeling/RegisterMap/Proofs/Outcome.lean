import Mathlib.Data.List.Forall2
import Mathlib.Data.List.Nodup
import RegisterMap.Diagnostic.Logged

/-!
# Outcomes of computations

Most steps of the generator are chains and traversals of smaller steps that may fail. This file
reads off a successful chain or traversal what each of its steps returned, puts the results of a
traversal together, and describes a step that succeeds exactly under a condition and otherwise
blames the model of the device.

## Main definitions

* `SucceedsIff` : a step succeeds exactly under a condition, with a result of a given kind.
* `SucceedsUnless` : a step succeeds under a condition and otherwise fails for a given fault.
* `FailsOnlyFor` : a step does not fail for any fault but those with a property.
* `AgreeUnless` : two steps end alike, unless one fails for a fault with a property.

## Main results

* `bind_eq_ok_iff`, `Logged.outcome_bind_eq_ok_iff`, `mapM_eq_ok_iff` : success of a chain and of a
  traversal.
* `map_flatten_mapM`, `flatMapM_append` : traversals whose results are put together.
* `SucceedsIff.bind`, `SucceedsIff.mapM` : the conditions of chains and traversals.
* `SucceedsIff.agree` : two steps with one condition succeed or fail together.
* `AgreeUnless.bind`, `AgreeUnless.mapM` : chains and traversals of steps that end alike.
-/

namespace RegisterMap

/-! ### Results -/

section Results

variable {ε α β : Type} {x : Except ε α} {b : β}

theorem bind_eq_ok_iff {f : α → Except ε β} :
    x >>= f = .ok b ↔ ∃ a, x = .ok a ∧ f a = .ok b := by
  cases x <;> simp [bind, Except.bind]

/-- Success of two steps in a row, whatever they write. -/
theorem Logged.outcome_bind_eq_ok_iff {x : Logged α} {b : β} {f : α → Logged β} :
    (x >>= f).outcome = .ok b ↔ ∃ a, x.outcome = .ok a ∧ (f a).outcome = .ok b := by
  rw [outcome_bind, bind_eq_ok_iff]

theorem map_eq_ok_iff {f : α → β} : x.map f = .ok b ↔ ∃ a, x = .ok a ∧ f a = b := by
  cases x <;> simp [Except.map]

theorem exists_of_mem_left {R : α → β → Prop} {xs : List α} {ys : List β} {a : α}
    (h : List.Forall₂ R xs ys) (ha : a ∈ xs) : ∃ b ∈ ys, R a b := by
  induction h with
  | nil => exact absurd ha List.not_mem_nil
  | cons hab _ ih =>
    rcases List.mem_cons.1 ha with rfl | ha
    · exact ⟨_, List.mem_cons_self, hab⟩
    · obtain ⟨b, hb, hab⟩ := ih ha
      exact ⟨b, List.mem_cons_of_mem _ hb, hab⟩

theorem exists_of_mem_right {R : α → β → Prop} {xs : List α} {ys : List β} {b : β}
    (h : List.Forall₂ R xs ys) (hb : b ∈ ys) : ∃ a ∈ xs, R a b :=
  exists_of_mem_left h.flip hb

/-- What stands at a position corresponds to what stands there in the other list. -/
theorem exists_getElem?_of_forall₂ {R : α → β → Prop} {xs : List α} {ys : List β} {i : Nat} {a : α}
    (h : List.Forall₂ R xs ys) (ha : xs[i]? = some a) : ∃ b, ys[i]? = some b ∧ R a b := by
  obtain ⟨hi, rfl⟩ := List.getElem?_eq_some_iff.1 ha
  have hi' : i < ys.length := h.length_eq ▸ hi
  exact ⟨ys[i], List.getElem?_eq_getElem hi', (List.forall₂_iff_get.1 h).2 i hi hi'⟩

theorem exists_eq_some_of_rel {R : α → β → Prop} {x : Option α} {b : β}
    (h : Option.Rel R x (some b)) : ∃ a, x = some a ∧ R a b := by
  cases h with
  | some hab => exact ⟨_, rfl, hab⟩

/-- What is found first corresponds to what is found in the other list, if anything. -/
theorem rel_find?_of_forall₂ {R : α → β → Prop} {xs : List α} {ys : List β} {f : α → Bool}
    {g : β → Bool} (h : List.Forall₂ R xs ys) (same : ∀ a b, R a b → g b = f a) :
    Option.Rel R (xs.find? f) (ys.find? g) := by
  induction h with
  | nil => exact .none
  | @cons x y xs ys hxy _ ih =>
    rw [List.find?_cons, List.find?_cons, same x y hxy]
    split
    · exact .some hxy
    · exact ih

theorem exists_find?_of_forall₂ {R : α → β → Prop} {xs : List α} {ys : List β} {f : α → Bool}
    {g : β → Bool} {a : α} (h : List.Forall₂ R xs ys) (same : ∀ a b, R a b → g b = f a)
    (ha : xs.find? f = some a) : ∃ b, ys.find? g = some b ∧ R a b := by
  have found := rel_find?_of_forall₂ h same
  rw [ha] at found
  generalize ys.find? g = y at found ⊢
  cases found with
  | some hab => exact ⟨_, rfl, hab⟩

/-- What is found under a key stands there. -/
theorem mem_of_lookup_eq_some {κ : Type} [BEq κ] [LawfulBEq κ] {entries : List (κ × β)} {key : κ}
    {b : β} (h : entries.lookup key = some b) : (key, b) ∈ entries := by
  obtain ⟨front, back, rfl, -⟩ := List.lookup_eq_some_iff.1 h
  exact List.mem_append_right _ List.mem_cons_self

/-- Nothing is found under the keys that do not occur. -/
theorem lookup_eq_none_iff_notMem {κ : Type} [BEq κ] [LawfulBEq κ] {entries : List (κ × β)}
    {key : κ} : entries.lookup key = none ↔ key ∉ entries.map Prod.fst := by
  rw [List.lookup_eq_none_iff, List.mem_map]
  constructor
  · rintro other ⟨e, he, rfl⟩
    simpa using other e he
  · intro other e he
    simpa using fun same : key = e.1 => other ⟨e, he, same.symm⟩

/-- Where keys are distinct every element is the last of its key. -/
theorem find?_reverse_eq_some_iff {κ : Type} [BEq κ] [LawfulBEq κ] {key : α → κ} {xs : List α}
    (distinct : (xs.map key).Nodup) {k : κ} {a : α} :
    (xs.reverse.find? fun a => key a == k) = some a ↔ a ∈ xs ∧ key a = k := by
  constructor
  · intro h
    exact ⟨List.mem_reverse.1 (List.mem_of_find?_eq_some h), by simpa using List.find?_some h⟩
  · rintro ⟨ha, rfl⟩
    cases found : xs.reverse.find? fun b => key b == key a with
    | none => exact absurd BEq.rfl (List.find?_eq_none.1 found a (List.mem_reverse.2 ha))
    | some b =>
      have hb := List.mem_reverse.1 (List.mem_of_find?_eq_some found)
      have same : key b = key a := by simpa using List.find?_some found
      exact congrArg some (List.inj_on_of_nodup_map distinct hb ha same)

/-- Elements that all have something that corresponds to them have a list of it. -/
theorem exists_forall₂ {R : α → β → Prop} {xs : List α} (h : ∀ a ∈ xs, ∃ b, R a b) :
    ∃ ys, List.Forall₂ R xs ys := by
  induction xs with
  | nil => exact ⟨[], .nil⟩
  | cons a xs ih =>
    obtain ⟨b, hab⟩ := h a List.mem_cons_self
    obtain ⟨ys, hrest⟩ := ih fun a ha => h a (List.mem_cons_of_mem _ ha)
    exact ⟨b :: ys, .cons hab hrest⟩

/-- Two lists that both correspond to a third correspond to each other. -/
theorem forall₂_of_forall₂ {γ : Type} {R : α → β → Prop} {S : α → γ → Prop} {T : β → γ → Prop}
    {xs : List α} {ys : List β} {zs : List γ} (hR : List.Forall₂ R xs ys)
    (hS : List.Forall₂ S xs zs) (h : ∀ a ∈ xs, ∀ b c, R a b → S a c → T b c) :
    List.Forall₂ T ys zs := by
  induction hR generalizing zs with
  | nil =>
    cases hS
    exact .nil
  | cons hab _ ih =>
    obtain _ | ⟨hac, hrest⟩ := hS
    exact .cons (h _ List.mem_cons_self _ _ hab hac)
      (ih hrest fun a ha => h a (List.mem_cons_of_mem _ ha))

theorem forall₂_append_left {R : α → β → Prop} {xs xs' : List α} {ys : List β} :
    List.Forall₂ R (xs ++ xs') ys ↔
      ∃ front back, ys = front ++ back ∧ List.Forall₂ R xs front ∧ List.Forall₂ R xs' back := by
  constructor
  · intro h
    have front := List.forall₂_take xs.length h
    have back := List.forall₂_drop xs.length h
    rw [List.take_left] at front
    rw [List.drop_left] at back
    exact ⟨_, _, (List.take_append_drop xs.length ys).symm, front, back⟩
  · rintro ⟨front, back, rfl, hfront, hback⟩
    exact List.rel_append hfront hback

/-- A list corresponds to itself with one element changed to one that corresponds to it. -/
theorem forall₂_modify {R : α → α → Prop} {f : α → α} {xs : List α} {i : Nat} (refl : ∀ a, R a a)
    (changed : ∀ a, xs[i]? = some a → R a (f a)) : List.Forall₂ R xs (xs.modify i f) := by
  induction xs generalizing i with
  | nil =>
    rw [List.modify_nil]
    exact .nil
  | cons a xs ih =>
    cases i with
    | zero => exact .cons (changed a rfl) (List.forall₂_same.2 fun b _ => refl b)
    | succ i => exact .cons (refl a) (ih changed)

/-- Lists whose elements have the same images one by one have the same image. -/
theorem map_eq_map_of_forall₂ {γ : Type} {f : α → γ} {g : β → γ} {xs : List α} {ys : List β}
    (h : List.Forall₂ (fun a b => f a = g b) xs ys) : xs.map f = ys.map g := by
  induction h with
  | nil => rfl
  | cons same _ ih => exact congrArg₂ List.cons same ih

/-- A traversal succeeds when every step does, with the results in order. -/
theorem mapM_eq_ok_iff {f : α → Except ε β} {xs : List α} {ys : List β} :
    xs.mapM f = .ok ys ↔ List.Forall₂ (fun a b => f a = .ok b) xs ys := by
  induction xs generalizing ys with
  | nil =>
    rw [List.mapM_nil, List.forall₂_nil_left_iff]
    exact ⟨fun h => (Except.ok.inj h).symm, fun h => h ▸ rfl⟩
  | cons a xs ih =>
    rw [List.mapM_cons, List.forall₂_cons_left_iff, bind_eq_ok_iff]
    constructor
    · rintro ⟨b, hb, h⟩
      obtain ⟨bs, hbs, h⟩ := bind_eq_ok_iff.1 h
      exact ⟨b, bs, hb, ih.1 hbs, (Except.ok.inj h).symm⟩
    · rintro ⟨b, bs, hb, hbs, rfl⟩
      exact ⟨b, hb, bind_eq_ok_iff.2 ⟨bs, ih.2 hbs, rfl⟩⟩

/-- A traversal of steps that succeed does. -/
theorem exists_mapM {f : α → Except ε β} {xs : List α} (h : ∀ a ∈ xs, ∃ b, f a = .ok b) :
    ∃ ys, xs.mapM f = .ok ys := by
  obtain ⟨ys, hys⟩ := exists_forall₂ h
  exact ⟨ys, mapM_eq_ok_iff.2 hys⟩

/-- Traversals whose steps agree one by one agree. -/
theorem mapM_congr_of_forall₂ {γ : Type} {f : α → Except ε β} {g : γ → Except ε β} {xs : List α}
    {ys : List γ} (h : List.Forall₂ (fun a c => f a = g c) xs ys) : xs.mapM f = ys.mapM g := by
  induction h with
  | nil => rfl
  | cons same _ ih => rw [List.mapM_cons, List.mapM_cons, same, ih]

/-- A traversal whose steps have no effect has none. -/
theorem mapM_eq_pure {m : Type → Type} [Monad m] [LawfulMonad m] {f : α → m β} {g : α → β}
    {xs : List α} (h : ∀ a ∈ xs, f a = pure (g a)) : xs.mapM f = pure (xs.map g) := by
  induction xs with
  | nil => rfl
  | cons a xs ih =>
    rw [List.mapM_cons, h a List.mem_cons_self, ih fun b hb => h b (List.mem_cons_of_mem a hb)]
    simp

/-- What is done to every result of a traversal can be done to the list of results. -/
theorem mapM_map_results {γ : Type} {m : Type → Type} [Monad m] [LawfulMonad m] (f : α → m β)
    (g : β → γ) (xs : List α) : (xs.mapM fun a => g <$> f a) = List.map g <$> xs.mapM f := by
  induction xs with
  | nil => simp
  | cons a xs ih => simp [List.mapM_cons, ih, map_bind]

/-- Runs whose steps do the same on the elements of a list. -/
theorem foldlM_congr {m : Type → Type} [Monad m] {f g : β → α → m β} {xs : List α}
    (h : ∀ a ∈ xs, ∀ b, f b a = g b a) (b : β) : xs.foldlM f b = xs.foldlM g b := by
  induction xs generalizing b with
  | nil => rfl
  | cons a xs ih =>
    rw [List.foldlM_cons, List.foldlM_cons, h a List.mem_cons_self]
    exact congrArg _ (funext (ih fun c hc => h c (List.mem_cons_of_mem a hc)))

/-- Every element of a successful traversal has its result among the results. -/
theorem exists_of_mem_mapM {f : α → Except ε β} {xs : List α} {ys : List β} {a : α}
    (h : xs.mapM f = .ok ys) (ha : a ∈ xs) : ∃ b ∈ ys, f a = .ok b :=
  exists_of_mem_left (R := fun a b => f a = .ok b) (mapM_eq_ok_iff.1 h) ha

/-- Every result of a successful traversal comes from an element. -/
theorem exists_of_mem_results {f : α → Except ε β} {xs : List α} {ys : List β} {b : β}
    (h : xs.mapM f = .ok ys) (hb : b ∈ ys) : ∃ a ∈ xs, f a = .ok b :=
  exists_of_mem_right (R := fun a b => f a = .ok b) (mapM_eq_ok_iff.1 h) hb

end Results

/-! ### Concatenated results -/

section Concatenation

variable {ε α β γ : Type} {f : α → Except ε (List β)}

theorem map_flatten_mapM (xs : List α) : (xs.mapM f).map List.flatten = xs.flatMapM f := by
  induction xs with
  | nil => rfl
  | cons a xs ih =>
    rw [List.mapM_cons, List.flatMapM_cons, ← ih]
    cases f a with
    | error fault => rfl
    | ok bs => cases xs.mapM f <;> rfl

theorem bind_flatten_mapM (xs : List α) :
    (xs.mapM f >>= fun parts => pure parts.flatten) = xs.flatMapM f := by
  rw [← map_flatten_mapM]
  cases xs.mapM f <;> rfl

theorem flatMapM_singleton (a : α) : [a].flatMapM f = f a := by
  rw [← map_flatten_mapM, List.mapM_cons, List.mapM_nil]
  cases h : f a with
  | error fault => rfl
  | ok bs => exact congrArg Except.ok (List.append_nil bs)

theorem flatMapM_append (xs ys : List α) : (xs ++ ys).flatMapM f =
    xs.flatMapM f >>= fun bs => ys.flatMapM f >>= fun cs => pure (bs ++ cs) := by
  induction xs with
  | nil => simp
  | cons a xs ih =>
    simp only [List.cons_append, List.flatMapM_cons, ih, bind_assoc, pure_bind, List.append_assoc]

theorem flatMapM_map (g : γ → α) (xs : List γ) :
    (xs.map g).flatMapM f = xs.flatMapM fun c => f (g c) := by
  rw [← map_flatten_mapM, ← map_flatten_mapM, List.mapM_map]
  rfl

theorem exists_of_mem_flatMapM {xs : List α} {ys : List β} (h : xs.flatMapM f = .ok ys) {a : α}
    (ha : a ∈ xs) : ∃ zs, f a = .ok zs := by
  rw [← map_flatten_mapM] at h
  obtain ⟨parts, hparts, -⟩ := map_eq_ok_iff.1 h
  obtain ⟨zs, -, hz⟩ := exists_of_mem_mapM hparts ha
  exact ⟨zs, hz⟩

/-- Every result of concatenated steps is among the results of one step. -/
theorem exists_of_mem_flatMapM_results {xs : List α} {ys : List β} {y : β}
    (h : xs.flatMapM f = .ok ys) (hy : y ∈ ys) : ∃ x ∈ xs, ∃ zs, f x = .ok zs ∧ y ∈ zs := by
  rw [← map_flatten_mapM] at h
  obtain ⟨parts, hparts, rfl⟩ := map_eq_ok_iff.1 h
  obtain ⟨zs, hz, hy⟩ := List.mem_flatten.1 hy
  obtain ⟨x, hx, made⟩ := exists_of_mem_results hparts hz
  exact ⟨x, hx, zs, made, hy⟩

/-- The results of concatenated steps are those of single steps. -/
theorem mem_flatMapM_iff {xs : List α} {ys : List β} {y : β} (h : xs.flatMapM f = .ok ys) :
    y ∈ ys ↔ ∃ x ∈ xs, ∃ zs, f x = .ok zs ∧ y ∈ zs := by
  refine ⟨exists_of_mem_flatMapM_results h, fun ⟨x, hx, zs, made, hy⟩ => ?_⟩
  rw [← map_flatten_mapM] at h
  obtain ⟨parts, hparts, rfl⟩ := map_eq_ok_iff.1 h
  obtain ⟨zs', hz, made'⟩ := exists_of_mem_mapM hparts hx
  cases Except.ok.inj (made.symm.trans made')
  exact List.mem_flatten.2 ⟨zs, hz, hy⟩

/-- A traversal whose steps return their own argument returns the list. -/
theorem flatMapM_eq_self {f : α → Except ε (List α)} {xs : List α}
    (h : ∀ x ∈ xs, f x = .ok [x]) : xs.flatMapM f = .ok xs := by
  induction xs with
  | nil => rfl
  | cons x xs ih =>
    rw [List.flatMapM_cons, h x List.mem_cons_self, ih fun y hy => h y (List.mem_cons_of_mem _ hy)]
    rfl

end Concatenation

/-! ### Conditions of success -/

section Conditions

variable {α β : Type}

/-- The step succeeds exactly under the condition `c`, and then its result has the property `P`;
otherwise its fault lies in the model of the device. -/
def SucceedsIff (x : Except Fault α) (c : Prop) (P : α → Prop) : Prop :=
  match x with
  | .ok a => c ∧ P a
  | .error fault => ¬c ∧ fault.kind = .model

namespace SucceedsIff

variable {x : Except Fault α} {c d : Prop} {P : α → Prop} {Q : β → Prop}

theorem pure {a : α} (h : P a) : SucceedsIff (.ok a) True P := ⟨trivial, h⟩

theorem congr {P' : α → Prop} (h : SucceedsIff x c P) (hc : c ↔ d) (hP : ∀ a, P a → P' a) :
    SucceedsIff x d P' := by
  cases x with
  | ok a => exact ⟨hc.1 h.1, hP a h.2⟩
  | error fault => exact ⟨fun hd => h.1 (hc.2 hd), h.2⟩

theorem bind {f : α → Except Fault β} (hx : SucceedsIff x c P)
    (hf : ∀ a, P a → SucceedsIff (f a) d Q) : SucceedsIff (x >>= f) (c ∧ d) Q := by
  cases x with
  | error fault => exact ⟨fun h => hx.1 h.1, hx.2⟩
  | ok a =>
    refine (hf a hx.2).congr ?_ fun _ h => h
    exact ⟨fun h => ⟨hx.1, h⟩, And.right⟩

theorem map {f : α → β} (hx : SucceedsIff x c fun a => Q (f a)) : SucceedsIff (x.map f) c Q := by
  cases x with
  | error fault => exact hx
  | ok a => exact hx

theorem ok_bind {a : α} {f : α → Except Fault β} (h : SucceedsIff (f a) d Q) :
    SucceedsIff (Except.ok a >>= f) d Q := h

theorem bind_pure {f : α → β} (hx : SucceedsIff x c fun a => Q (f a)) :
    SucceedsIff (x >>= fun a => Pure.pure (f a)) c Q := by
  cases x with
  | error fault => exact hx
  | ok a => exact hx

/-- A traversal succeeds when each of its steps has its condition. -/
theorem mapM {f : α → Except Fault β} {c : α → Prop} {P : α → β → Prop} {xs : List α}
    (h : ∀ a ∈ xs, SucceedsIff (f a) (c a) (P a)) :
    SucceedsIff (xs.mapM f) (∀ a ∈ xs, c a) (List.Forall₂ P xs) := by
  induction xs with
  | nil => exact ⟨fun _ h => absurd h List.not_mem_nil, .nil⟩
  | cons a xs ih =>
    rw [List.mapM_cons]
    have tail := ih fun b hb => h b (List.mem_cons_of_mem a hb)
    refine (bind (h a List.mem_cons_self) fun b hb => bind tail fun bs hbs =>
      pure (P := List.Forall₂ P (a :: xs)) (.cons hb hbs)).congr ?_ fun _ h => h
    simp

/-- A step whose condition holds succeeds. -/
theorem exists_eq_ok (h : SucceedsIff x c P) (hc : c) : ∃ a, x = .ok a := by
  cases x with
  | ok a => exact ⟨a, rfl⟩
  | error fault => exact absurd hc h.1

/-- Two steps with one condition succeed together or fail together. -/
theorem agree {y : Except Fault β} (hx : SucceedsIff x c P) (hy : SucceedsIff y c Q) :
    (∃ a b, x = .ok a ∧ y = .ok b ∧ P a ∧ Q b) ∨
      ∃ f g, x = .error f ∧ y = .error g ∧ f.kind = .model ∧ g.kind = .model := by
  cases x with
  | ok a =>
    cases y with
    | ok b => exact .inl ⟨a, b, rfl, rfl, hx.2, hy.2⟩
    | error g => exact absurd hx.1 hy.1
  | error f =>
    cases y with
    | ok b => exact absurd hy.1 hx.1
    | error g => exact .inr ⟨f, g, rfl, rfl, hx.2, hy.2⟩

end SucceedsIff

/-- The step succeeds under the condition `c`, and otherwise fails for the given fault. -/
def SucceedsUnless (fault : Fault) (x : Except Fault α) (c : Prop) : Prop :=
  match x with
  | .ok _ => c
  | .error f => ¬c ∧ f = fault

namespace SucceedsUnless

variable {fault : Fault} {x : Except Fault α} {c d : Prop}

theorem of_eq_ok {a : α} (h : x = .ok a) : SucceedsUnless fault x True := by
  rw [h]
  trivial

theorem congr (h : SucceedsUnless fault x c) (hc : c ↔ d) : SucceedsUnless fault x d := by
  cases x with
  | ok a => exact hc.1 h
  | error f => exact ⟨fun hd => h.1 (hc.2 hd), h.2⟩

theorem bind {f : α → Except Fault β} (hx : SucceedsUnless fault x c)
    (hf : ∀ a, x = .ok a → SucceedsUnless fault (f a) d) :
    SucceedsUnless fault (x >>= f) (c ∧ d) := by
  cases x with
  | error f => exact ⟨fun h => hx.1 h.1, hx.2⟩
  | ok a => exact (hf a rfl).congr ⟨fun h => ⟨hx, h⟩, And.right⟩

/-- A step that certainly succeeds adds nothing to the condition. -/
theorem ok_bind {a : α} {f : α → Except Fault β} (hx : x = .ok a)
    (hf : SucceedsUnless fault (f a) d) : SucceedsUnless fault (x >>= f) d := by
  rw [hx]
  exact hf

theorem map {f : α → β} (hx : SucceedsUnless fault x c) : SucceedsUnless fault (x.map f) c := by
  cases x with
  | error f => exact hx
  | ok a => exact hx

/-- A traversal succeeds when each of its steps has its condition. -/
theorem mapM {f : α → Except Fault β} {c : α → Prop} {xs : List α}
    (h : ∀ a ∈ xs, SucceedsUnless fault (f a) (c a)) :
    SucceedsUnless fault (xs.mapM f) (∀ a ∈ xs, c a) := by
  induction xs with
  | nil => exact fun _ h => absurd h List.not_mem_nil
  | cons a xs ih =>
    rw [List.mapM_cons]
    have tail := ih fun b hb => h b (List.mem_cons_of_mem a hb)
    refine ((h a List.mem_cons_self).bind fun b _ => tail.bind fun bs _ => of_eq_ok rfl).congr ?_
    rw [and_true, List.forall_mem_cons]

/-- The step succeeds exactly under the condition, and fails for the given fault only. -/
theorem spec (h : SucceedsUnless fault x c) :
    ((∃ a, x = .ok a) ↔ c) ∧ ∀ f, x = .error f → f = fault := by
  cases x with
  | ok a => exact ⟨⟨fun _ => h, fun _ => ⟨a, rfl⟩⟩, fun f hf => by cases hf⟩
  | error g =>
    refine ⟨iff_of_false ?_ h.1, fun f hf => ?_⟩
    · rintro ⟨a, ha⟩
      cases ha
    · cases hf
      exact h.2

end SucceedsUnless

/-- If the step fails, then for a fault with the property `P`. -/
def FailsOnlyFor (P : Fault → Prop) (x : Except Fault α) : Prop :=
  ∀ fault, x = .error fault → P fault

namespace FailsOnlyFor

variable {P : Fault → Prop} {x : Except Fault α}

theorem of_eq_ok {a : α} (h : x = .ok a) : FailsOnlyFor P x := by
  rw [h]
  exact nofun

theorem bind {f : α → Except Fault β} (hx : FailsOnlyFor P x)
    (hf : ∀ a, x = .ok a → FailsOnlyFor P (f a)) : FailsOnlyFor P (x >>= f) := by
  cases x with
  | error fault => exact fun _ h => hx _ (congrArg Except.error (Except.error.inj h))
  | ok a => exact hf a rfl

theorem map {f : α → β} (hx : FailsOnlyFor P x) : FailsOnlyFor P (x.map f) := by
  cases x with
  | error fault => exact fun _ h => hx _ (congrArg Except.error (Except.error.inj h))
  | ok a => exact nofun

/-- A step that fails for no fault succeeds. -/
theorem exists_eq_ok (h : FailsOnlyFor (fun _ => False) x) : ∃ a, x = .ok a := by
  cases x with
  | ok a => exact ⟨a, rfl⟩
  | error fault => exact (h fault rfl).elim

/-- A traversal fails only for what its steps fail for. -/
theorem mapM {f : α → Except Fault β} {xs : List α} (h : ∀ a ∈ xs, FailsOnlyFor P (f a)) :
    FailsOnlyFor P (xs.mapM f) := by
  induction xs with
  | nil => exact of_eq_ok rfl
  | cons a xs ih =>
    rw [List.mapM_cons]
    exact (h a List.mem_cons_self).bind fun b _ =>
      (ih fun a' ha => h a' (List.mem_cons_of_mem a ha)).bind fun bs _ => of_eq_ok rfl

theorem flatMapM {f : α → Except Fault (List β)} {xs : List α}
    (h : ∀ a ∈ xs, FailsOnlyFor P (f a)) : FailsOnlyFor P (xs.flatMapM f) := by
  rw [← map_flatten_mapM]
  exact (mapM h).map

end FailsOnlyFor

end Conditions

/-! ### Two steps -/

section Agreement

variable {α β γ δ : Type}

/-- Two steps have related results or fail for the same fault, unless one of them fails for a fault
with the property `P`. -/
inductive AgreeUnless (P : Fault → Prop) (R : α → β → Prop) :
    Except Fault α → Except Fault β → Prop
  | ok {a : α} {b : β} (related : R a b) : AgreeUnless P R (.ok a) (.ok b)
  | error (fault : Fault) : AgreeUnless P R (.error fault) (.error fault)
  | left {fault : Fault} (h : P fault) (y : Except Fault β) : AgreeUnless P R (.error fault) y
  | right {fault : Fault} (h : P fault) (x : Except Fault α) : AgreeUnless P R x (.error fault)

namespace AgreeUnless

variable {P : Fault → Prop} {R : α → β → Prop} {S : γ → δ → Prop}

theorem imp {x : Except Fault α} {y : Except Fault β} {R' : α → β → Prop} (h : AgreeUnless P R x y)
    (step : ∀ a b, R a b → R' a b) : AgreeUnless P R' x y := by
  cases h with
  | ok related => exact .ok (step _ _ related)
  | error fault => exact .error fault
  | left h => exact .left h _
  | right h => exact .right h _

/-- A step that ends like a successful one succeeds. -/
theorem exists_eq_ok {x : Except Fault α} {y : Except Fault β} {b : β}
    (h : AgreeUnless (fun _ => False) R x y) (hy : y = .ok b) : ∃ a, x = .ok a ∧ R a b := by
  cases h with
  | ok related =>
    cases hy
    exact ⟨_, rfl, related⟩
  | error _ => cases hy
  | left h => exact h.elim
  | right h => exact h.elim

theorem bind {x : Except Fault α} {y : Except Fault β} {f : α → Except Fault γ}
    {g : β → Except Fault δ} (h : AgreeUnless P R x y)
    (next : ∀ a b, R a b → AgreeUnless P S (f a) (g b)) : AgreeUnless P S (x >>= f) (y >>= g) := by
  cases h with
  | ok related => exact next _ _ related
  | error fault => exact .error fault
  | left h => exact .left h _
  | right h => exact .right h _

/-- Two steps in a row, whatever they write. -/
theorem outcome_bind {x : Logged α} {y : Logged β} {f : α → Logged γ} {g : β → Logged δ}
    (h : AgreeUnless P R x.outcome y.outcome)
    (next : ∀ a b, R a b → AgreeUnless P S (f a).outcome (g b).outcome) :
    AgreeUnless P S (x >>= f).outcome (y >>= g).outcome := by
  rw [Logged.outcome_bind, Logged.outcome_bind]
  exact h.bind next

/-- A step agrees with itself. -/
theorem refl {R : α → α → Prop} (x : Except Fault α) (h : ∀ a, x = .ok a → R a a) :
    AgreeUnless P R x x := by
  cases x with
  | ok a => exact .ok (h a rfl)
  | error fault => exact .error fault

/-- One step, with different steps behind it. -/
theorem same_bind (x : Except Fault α) {f : α → Except Fault γ} {g : α → Except Fault δ}
    (next : ∀ a, x = .ok a → AgreeUnless P S (f a) (g a)) :
    AgreeUnless P S (x >>= f) (x >>= g) := by
  cases x with
  | ok a => exact next a rfl
  | error fault => exact .error fault

/-- Traversals of steps that agree. -/
theorem mapM {f : γ → Except Fault α} {g : γ → Except Fault β} {xs : List γ}
    (h : ∀ c ∈ xs, AgreeUnless P R (f c) (g c)) :
    AgreeUnless P (List.Forall₂ R) (xs.mapM f) (xs.mapM g) := by
  induction xs with
  | nil => exact .ok .nil
  | cons c xs ih =>
    rw [List.mapM_cons, List.mapM_cons]
    exact (h c List.mem_cons_self).bind fun a b hab =>
      (ih fun c' hc => h c' (List.mem_cons_of_mem c hc)).bind fun as bs rest => .ok (.cons hab rest)

/-- Runs of steps that agree. -/
theorem foldlM {step : α → γ → Logged α} {step' : β → γ → Logged β} {cs : List γ}
    (h : ∀ c ∈ cs, ∀ a b, R a b → AgreeUnless P R (step a c).outcome (step' b c).outcome) {a : α}
    {b : β} (hab : R a b) :
    AgreeUnless P R (cs.foldlM step a).outcome (cs.foldlM step' b).outcome := by
  induction cs generalizing a b with
  | nil => exact .ok hab
  | cons c cs ih =>
    rw [List.foldlM_cons, List.foldlM_cons]
    exact (h c List.mem_cons_self a b hab).outcome_bind fun _ _ =>
      ih fun c' hc => h c' (List.mem_cons_of_mem c hc)

end AgreeUnless

end Agreement

end RegisterMap
