import Mathlib.Tactic.IntervalCases
import RegisterMap.Numeral.Printer
import RegisterMap.Numeral.Reader

/-!
# Reading printed numerals

The digits that printing an integer produces are read back as that integer.

## Main results

* `mem_toDigits` : printed digits are digits of the base.
* `digitsFrom?_eq_foldlM` : digits are read from the first to the last.
* `digits?_toDigits` : printed digits read back.
* `signed?_hex` : a printed hexadecimal numeral reads back.
-/

namespace RegisterMap.Numeral

variable {base : Nat}

/-- Every printed digit is a digit of the base. -/
theorem mem_toDigits (hb : 1 < base) {n : Nat} {c : Char} (h : c ∈ Nat.toDigits base n) :
    ∃ d < base, c = Nat.digitChar d := by
  induction n using Nat.strongRecOn with
  | ind n ih =>
    rw [Nat.toDigits_eq_if hb] at h
    split at h
    · next hn => exact ⟨n, hn, List.mem_singleton.1 h⟩
    · next hn =>
      rcases List.mem_append.1 h with h | h
      · exact ih (n / base) (Nat.div_lt_self (by omega) hb) h
      · exact ⟨n % base, Nat.mod_lt _ (by omega), List.mem_singleton.1 h⟩

theorem digitValue?_digitChar (hb : base ≤ 16) {d : Nat} (hd : d < base) :
    digitValue? base (Nat.digitChar d) = some d := by
  have small : d < 16 := by omega
  interval_cases d <;> simp [digitValue?, Nat.digitChar, hd]

theorem digitChar_ne_underscore {d : Nat} (hd : d < 16) : Nat.digitChar d ≠ '_' := by
  interval_cases d <;> decide

/-- No underscore is printed. -/
theorem underscore_notMem_toDigits (hb : 1 < base) (hb' : base ≤ 16) (n : Nat) :
    '_' ∉ Nat.toDigits base n := by
  intro h
  obtain ⟨d, hd, same⟩ := mem_toDigits hb h
  exact digitChar_ne_underscore (by omega) same.symm

theorem digitsFrom?_cons_cons (base n : Nat) (a : Char) {b : Char} (hb : b ≠ '_')
    (cs : List Char) : digitsFrom? base n (a :: b :: cs) =
      (digitValue? base a).bind fun d => digitsFrom? base (n * base + d) (b :: cs) :=
  digitsFrom?.eq_4 _ _ _ _ (by simp) (by simp [hb])

/-- Digits without underscores are read from the first to the last, going on from a value. -/
theorem digitsFrom?_eq_foldlM (base n : Nat) {cs : List Char} (hcs : cs ≠ []) (plain : '_' ∉ cs) :
    digitsFrom? base n cs = cs.foldlM (fun m c => (digitValue? base c).map (m * base + ·)) n := by
  induction cs generalizing n with
  | nil => exact absurd rfl hcs
  | cons a cs ih =>
    have rest : '_' ∉ cs := fun h => plain (List.mem_cons_of_mem _ h)
    cases cs with
    | nil => simp [digitsFrom?]
    | cons b cs =>
      have hb : b ≠ '_' := fun h => rest (h ▸ List.mem_cons_self)
      rw [digitsFrom?_cons_cons _ _ _ hb, List.foldlM_cons]
      cases digitValue? base a with
      | none => rfl
      | some d => exact ih _ (List.cons_ne_nil _ _) rest

/-- A digit behind others counts for itself, the others for the base times as much. -/
theorem digitsFrom?_concat (base n : Nat) {cs : List Char} (hcs : cs ≠ []) (plain : '_' ∉ cs)
    {c : Char} (hc : c ≠ '_') : digitsFrom? base n (cs ++ [c]) =
      (digitsFrom? base n cs).bind fun m => (digitValue? base c).map (m * base + ·) := by
  have whole : '_' ∉ cs ++ [c] := by simp [plain, hc.symm]
  rw [digitsFrom?_eq_foldlM base n (List.append_ne_nil_of_left_ne_nil hcs _) whole,
    digitsFrom?_eq_foldlM base n hcs plain, List.foldlM_append]
  simp only [List.foldlM_cons, List.foldlM_nil, bind_pure]
  rfl

/-- Printed digits read back. -/
theorem digits?_toDigits (hb : 1 < base) (hb' : base ≤ 16) (n : Nat) :
    digits? base (Nat.toDigits base n) = some n := by
  induction n using Nat.strongRecOn with
  | ind n ih =>
    rw [Nat.toDigits_eq_if hb]
    split
    · next hn => simp [digits?, digitsFrom?, digitValue?_digitChar hb' hn]
    · next hn =>
      have last : n % base < base := Nat.mod_lt _ (by omega)
      have front := ih (n / base) (Nat.div_lt_self (by omega) hb)
      rw [digits?, digitsFrom?_concat _ _ Nat.toDigits_ne_nil
        (underscore_notMem_toDigits hb hb' _) (digitChar_ne_underscore (by omega)), ← digits?,
        front, digitValue?_digitChar hb' last]
      simp [Nat.div_add_mod']

/-- Marked hexadecimal digits read back. -/
theorem unsigned?_toDigits (n : Nat) :
    unsigned? .marked ('0' :: 'x' :: Nat.toDigits 16 n) = some n := by
  have mark : splitMark? ('0' :: 'x' :: Nat.toDigits 16 n) = some (16, Nat.toDigits 16 n) := by
    cases h : Nat.toDigits 16 n with
    | nil => exact absurd h Nat.toDigits_ne_nil
    | cons c cs =>
      have first : c ∈ Nat.toDigits 16 n := h ▸ List.mem_cons_self
      obtain ⟨d, hd, hc⟩ := mem_toDigits (by omega) first
      rw [splitMark?.eq_2 _ _ (by simpa using hc ▸ digitChar_ne_underscore hd)]
      rfl
  simp only [unsigned?, mark]
  exact digits?_toDigits (by omega) (by omega) n

/-- A numeral reads back with its sign if it does without. -/
theorem signed?_sign_append {n : Int} {cs : List Char}
    (read : unsigned? .marked cs = some n.natAbs) (minus : cs.head? ≠ some '-')
    (plus : cs.head? ≠ some '+') : signed? .marked (sign n ++ cs) = some n := by
  rw [sign]
  split
  · next hn =>
    simp only [List.singleton_append, signed?, read]
    exact congrArg some (show -(n.natAbs : Int) = n by omega)
  · next hn =>
    rw [List.nil_append, signed?.eq_3 _ _ (fun rest h => minus (by rw [h, List.head?_cons]))
      (fun rest h => plus (by rw [h, List.head?_cons])), read]
    exact congrArg some (Int.natAbs_of_nonneg (by omega))

/-- A printed hexadecimal numeral reads back. -/
theorem signed?_hex (n : Int) : signed? .marked (hex n).toList = some n := by
  rw [hex, String.toList_ofList]
  exact signed?_sign_append (unsigned?_toDigits n.natAbs) (by simp) (by simp)

end RegisterMap.Numeral
