import BalancerImport.Text.Numeral

/-!
# What unsigned numerals are

A text is read as an unsigned number if it consists of digits, after a plus sign if there is one, and
the number is not too large. The reader goes from digit to digit with the value so far; that it may
stop at the first value beyond the limit is because values never get smaller.

* `Unsigned`: the numerals of a number up to a limit, said without the reader;
* `digitValue?_eq_some`, `readDigits_eq_ok`, `readMagnitude_eq_ok`: digits;
* **`unsigned?_eq_some`**: the numerals of a number are what is read as it.
-/

namespace BalancerImport.Text

/-- Characters that write a number up to a limit: digits, after a plus sign if there is one. -/
def Unsigned (limit : Nat) (cs : List Char) (n : Nat) : Prop :=
  n ≤ limit ∧ ∃ digits, (cs = digits ∨ cs = '+' :: digits) ∧ digits ≠ [] ∧
    (∀ c ∈ digits, c.isDigit = true) ∧ Nat.ofDigitChars 10 digits 0 = n

variable {limit seen n : Nat} {beyond : NumeralFault} {cs : List Char}

theorem digitValue?_eq_some {c : Char} {d : Nat} :
    digitValue? c = some d ↔ c.isDigit = true ∧ c.toNat - '0'.toNat = d := by
  have hdigit : ('0' ≤ c ∧ c ≤ '9') ↔ c.isDigit = true := by
    rw [Char.isDigit, Bool.and_eq_true, decide_eq_true_eq, decide_eq_true_eq]
    rfl
  unfold digitValue?
  split
  · rename_i h
    simp only [Option.some.injEq, hdigit.mp h, true_and]
    rfl
  · rename_i h
    rw [hdigit] at h
    simp [h]

theorem le_ofDigitChars : ∀ (cs : List Char) (seen : Nat), seen ≤ Nat.ofDigitChars 10 cs seen
  | [], _ => Nat.le_refl _
  | c :: cs, seen => by
    have hrest := le_ofDigitChars cs (10 * seen + (c.toNat - '0'.toNat))
    rw [Nat.ofDigitChars_cons]
    omega

/-- What is read after the value `seen`. -/
theorem readDigits_eq_ok (hseen : seen ≤ limit) : readDigits limit beyond seen cs = .ok n ↔
    (∀ c ∈ cs, c.isDigit = true) ∧ Nat.ofDigitChars 10 cs seen = n ∧ n ≤ limit := by
  induction cs generalizing seen with
  | nil =>
    rw [readDigits, Nat.ofDigitChars_nil]
    constructor
    · intro h
      obtain rfl := Except.ok.inj h
      exact ⟨nofun, rfl, hseen⟩
    · rintro ⟨-, rfl, -⟩
      rfl
  | cons c cs ih =>
    rw [readDigits, Nat.ofDigitChars_cons, List.forall_mem_cons]
    cases hd : digitValue? c with
    | none =>
      have hc : c.isDigit ≠ true := fun hc => nomatch hd.symm.trans (digitValue?_eq_some.mpr ⟨hc, rfl⟩)
      simp [hc]
    | some d =>
      obtain ⟨hc, rfl⟩ := digitValue?_eq_some.mp hd
      rw [Nat.mul_comm seen 10]
      dsimp only
      split
      · rename_i hover
        have hgrows := le_ofDigitChars cs (10 * seen + (c.toNat - '0'.toNat))
        refine iff_of_false nofun ?_
        rintro ⟨-, rfl, hle⟩
        omega
      · rename_i hfits
        rw [ih (Nat.le_of_not_lt hfits)]
        simp [hc]

theorem readMagnitude_eq_ok : readMagnitude limit beyond cs = .ok n ↔
    cs ≠ [] ∧ (∀ c ∈ cs, c.isDigit = true) ∧ Nat.ofDigitChars 10 cs 0 = n ∧ n ≤ limit := by
  cases cs with
  | nil => exact iff_of_false nofun fun h => h.1 rfl
  | cons c cs =>
    rw [readMagnitude, readDigits_eq_ok (Nat.zero_le limit)]
    simp

/-- **What is read as an unsigned number are its numerals.** -/
theorem unsigned?_eq_some {s : String} : unsigned? limit s = some n ↔ Unsigned limit s.toList n := by
  have hread : unsigned? limit s = some n ↔ readUnsigned limit s = .ok n := by
    unfold unsigned?
    cases readUnsigned limit s <;> simp [Except.toOption]
  have hplus : '+'.isDigit ≠ true := by decide
  rw [hread, readUnsigned, Unsigned]
  split
  · rename_i hnil
    refine iff_of_false nofun ?_
    rintro ⟨-, digits, hcs, hne, -⟩
    simp_all
  · rename_i cs hcs
    rw [hcs, readMagnitude_eq_ok]
    constructor
    · rintro ⟨hne, hdigits, hvalue, hle⟩
      exact ⟨hle, cs, .inr rfl, hne, hdigits, hvalue⟩
    · rintro ⟨hle, digits, rfl | h, hne, hdigits, hvalue⟩
      · exact absurd (hdigits '+' List.mem_cons_self) hplus
      · obtain rfl := (List.cons.inj h).2
        exact ⟨hne, hdigits, hvalue, hle⟩
  · rename_i hnotplus
    rw [readMagnitude_eq_ok]
    constructor
    · rintro ⟨hne, hdigits, hvalue, hle⟩
      exact ⟨hle, _, .inl rfl, hne, hdigits, hvalue⟩
    · rintro ⟨hle, digits, h | h, hne, hdigits, hvalue⟩
      · rw [h]
        exact ⟨hne, hdigits, hvalue, hle⟩
      · exact absurd h (hnotplus digits)

end BalancerImport.Text
