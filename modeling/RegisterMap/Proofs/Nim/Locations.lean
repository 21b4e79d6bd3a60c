import RegisterMap.Proofs.Nim.Names
import RegisterMap.Proofs.Nim.Values
import RegisterMap.Proofs.Numeral.Digits

/-!
# Locations in source text

A constant's source text writes the address of each register as a `loc:` literal of the register's
constructor. Reading these literals back from the text gives the addresses of the constant's value,
in order.

## Main definitions

* `locations` : the addresses of the `loc:` literals of a text.

## Main results

* `locations_text` : the literals in a constant's text are the addresses of its value.
-/

namespace RegisterMap.Nim

/-! ### Reading locations -/

/-- What stands between a constructor's name and the location of its register. -/
def locationMark : List Char := ['(', 'l', 'o', 'c', ':', ' ']

/-- The addresses of the `loc:` literals of some characters: after each mark, the numeral up to the
closing parenthesis. -/
def locationsIn : List Char → List Int
  | [] => []
  | c :: cs =>
    if locationMark.isPrefixOf (c :: cs) then
      (Numeral.signed? .marked
        (((c :: cs).drop locationMark.length).takeWhile (· != ')'))).toList ++ locationsIn cs
    else locationsIn cs

/-- The addresses of the `loc:` literals of a text. -/
def locations (text : String) : List Int := locationsIn text.toList

/-- Without an opening parenthesis there is no literal. -/
theorem locationsIn_append {xs : List Char} (h : '(' ∉ xs) (ys : List Char) :
    locationsIn (xs ++ ys) = locationsIn ys := by
  induction xs with
  | nil => rfl
  | cons c xs ih =>
    have head : '(' ≠ c := fun e => h (e ▸ List.mem_cons_self)
    rw [List.cons_append, locationsIn, if_neg (by simp [locationMark, head]),
      ih fun hc => h (List.mem_cons_of_mem _ hc)]

/-- The parenthesis of an object's constructor opens no literal. -/
theorem locationsIn_object (ys : List Char) :
    locationsIn ('(' :: '\n' :: ys) = locationsIn ys := by
  rw [locationsIn, if_neg (by simp [locationMark])]
  have line : '(' ∉ ['\n'] := by decide
  exact locationsIn_append line ys

theorem not_paren_mem_hex (n : Int) :
    '(' ∉ (Numeral.hex n).toList ∧ ')' ∉ (Numeral.hex n).toList := by
  have digits : ∀ m c, c ∈ Nat.toDigits 16 m → c ≠ '(' ∧ c ≠ ')' := by
    intro m c hc
    obtain ⟨d, hd, rfl⟩ := Numeral.mem_toDigits (by omega) hc
    interval_cases d <;> decide
  rw [Numeral.hex, String.toList_ofList, Numeral.sign]
  split <;> simp <;> exact ⟨fun h => (digits _ _ h).1 rfl, fun h => (digits _ _ h).2 rfl⟩

/-- A literal is read and the text goes on behind it. -/
theorem locationsIn_literal (n : Int) (ys : List Char) :
    locationsIn (locationMark ++ ((Numeral.hex n).toList ++ ')' :: ys)) = n :: locationsIn ys := by
  have literal : ((Numeral.hex n).toList ++ ')' :: ys).takeWhile (· != ')') =
      (Numeral.hex n).toList := by
    have inside : ∀ c ∈ (Numeral.hex n).toList, (c != ')') = true := by
      intro c hc
      have other : c ≠ ')' := fun e => (not_paren_mem_hex n).2 (e ▸ hc)
      simpa using other
    rw [List.takeWhile_append_of_pos inside]
    simp
  have behind : locationsIn ((Numeral.hex n).toList ++ ')' :: ys) = locationsIn ys := by
    have close : '(' ∉ [')'] := by decide
    rw [locationsIn_append (not_paren_mem_hex n).1]
    exact locationsIn_append close ys
  simp [locationMark, locationsIn, literal, Numeral.signed?_hex, behind]

/-! ### Text of values -/

theorem not_paren_mem_of_isPlain {name : String} (h : IsPlain name) : '(' ∉ name.toList :=
  fun hc => absurd (h _ hc) (by decide)

theorem not_paren_mem_indentation (depth : Nat) : '(' ∉ (indentation depth).toList := by
  simp [indentation, indentStep, String.toList_join]

/-- The literals in the text of a value, and of the text behind it. -/
def ReadsBack (v : Value) : Prop :=
  ∀ depth ys, locationsIn ((v.text depth).toList ++ ys) = v.addresses ++ locationsIn ys

theorem locationsIn_membersText {ms : List (String × Value)} (names : ∀ m ∈ ms, IsPlain m.1)
    (values : ∀ m ∈ ms, ReadsBack m.2) (depth : Nat) (ys : List Char) :
    locationsIn ((Value.membersText depth ms).toList ++ ys) =
      Value.memberAddresses ms ++ locationsIn ys := by
  induction ms with
  | nil => rfl
  | cons m ms ih =>
    obtain ⟨name, v⟩ := m
    have line : '(' ∉ (indentation depth ++ name ++ ": ").toList := by
      have plain := not_paren_mem_of_isPlain (names _ List.mem_cons_self)
      simp [not_paren_mem_indentation, plain]
    have tail := ih (fun m hm => names m (List.mem_cons_of_mem _ hm))
      fun m hm => values m (List.mem_cons_of_mem _ hm)
    rw [Value.membersText, String.toList_append, String.toList_append, String.toList_append,
      List.append_assoc, List.append_assoc, List.append_assoc, locationsIn_append line,
      values _ List.mem_cons_self, locationsIn_append (by decide), tail, Value.memberAddresses,
      List.append_assoc]

theorem locationsIn_elementsText {vs : List Value} (values : ∀ v ∈ vs, ReadsBack v)
    (depth : Nat) (ys : List Char) :
    locationsIn ((Value.elementsText depth vs).toList ++ ys) =
      Value.elementAddresses vs ++ locationsIn ys := by
  induction vs with
  | nil => rfl
  | cons v vs ih =>
    have tail := ih fun v hv => values v (List.mem_cons_of_mem _ hv)
    rw [Value.elementsText, String.toList_append, String.toList_append, String.toList_append,
      List.append_assoc, List.append_assoc, List.append_assoc,
      locationsIn_append (not_paren_mem_indentation depth), values v List.mem_cons_self,
      locationsIn_append (by decide), tail, Value.elementAddresses, List.append_assoc]

/-- The literals in the text of a value with plain names are its addresses. -/
theorem readsBack_of_named {v : Value} (h : v.Named IsPlain IsPlain) : ReadsBack v := by
  induction h with
  | @register typeName address h =>
    intro depth ys
    have mark : "(loc: ".toList = locationMark := by decide
    have close : ")".toList = [')'] := by decide
    rw [Value.text, String.toList_append, String.toList_append, String.toList_append, mark, close,
      List.append_assoc, List.append_assoc, List.append_assoc,
      locationsIn_append (not_paren_mem_of_isPlain h), List.singleton_append,
      locationsIn_literal, Value.addresses, List.singleton_append]
  | @object typeName ms h names values ih =>
    intro depth ys
    have bracket : "(\n".toList = ['(', '\n'] := by decide
    rw [Value.text, String.toList_append, String.toList_append, String.toList_append,
      String.toList_append, bracket, List.append_assoc, List.append_assoc, List.append_assoc,
      List.append_assoc, locationsIn_append (not_paren_mem_of_isPlain h), List.cons_append,
      List.singleton_append, locationsIn_object, locationsIn_membersText names ih,
      locationsIn_append (not_paren_mem_indentation depth), locationsIn_append (by decide),
      Value.addresses]
  | @array vs h ih =>
    intro depth ys
    rw [Value.text, String.toList_append, String.toList_append, String.toList_append,
      List.append_assoc, List.append_assoc, List.append_assoc, locationsIn_append (by decide),
      locationsIn_elementsText ih, locationsIn_append (not_paren_mem_indentation depth),
      locationsIn_append (by decide), Value.addresses]

/-- The literals in a constant's text are the addresses of its value. -/
theorem locations_text {i : Instance} (name : IsPlain i.name)
    (h : i.value.Named IsPlain IsPlain) : locations i.text = i.value.addresses := by
  have front : '(' ∉ ("const " ++ i.name ++ "* = ").toList := by
    simp [not_paren_mem_of_isPlain name]
  rw [locations, Instance.text, String.toList_append, String.toList_append, List.append_assoc,
    locationsIn_append front, readsBack_of_named h]
  exact List.append_nil _

end RegisterMap.Nim
