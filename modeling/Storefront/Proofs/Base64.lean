/-
Bytes come back from their text.

Three bytes are written as four digits and nothing carries over from one group to the next, so
reading goes through a text group by group, and only the last group, which may be short, needs a
case of its own: it is the padding that ends it.  Padding is added by the size of the text in
bytes, which for digits is their number.
-/
import Mathlib
import Storefront.Codec.Base64Url

namespace Storefront.Codec

/-! ### Digits -/

section Digits

variable (n : Nat)

theorem base64Digit_mod : base64Digit (n % 64) = base64Digit n := by
  rw [base64Digit, Nat.mod_mod, base64Digit]

/-- What holds of the sixty-four digits holds of every digit that is written. -/
theorem forall_base64Digit {P : Nat → Char → Prop} (h : ∀ d : Fin 64, P d (base64Digit d)) :
    P (n % 64) (base64Digit n) := by
  rw [← base64Digit_mod]
  exact h ⟨n % 64, Nat.mod_lt n (by decide)⟩

theorem base64Value?_base64Digit : base64Value? (base64Digit n) = some (n % 64) :=
  forall_base64Digit n (P := fun d c => base64Value? c = some d) (by decide +kernel)

theorem base64Digit_ne_pad : base64Digit n ≠ '=' :=
  forall_base64Digit n (P := fun _ c => c ≠ '=') (by decide +kernel)

theorem base64Digit_ne_dot : base64Digit n ≠ '.' :=
  forall_base64Digit n (P := fun _ c => c ≠ '.') (by decide +kernel)

theorem utf8Size_base64Digit : (base64Digit n).utf8Size = 1 :=
  forall_base64Digit n (P := fun _ c => c.utf8Size = 1) (by decide +kernel)

end Digits

/-- Everything that is written of some bytes is a digit. -/
theorem exists_digit_of_mem {bytes : List UInt8} {c : Char} (h : c ∈ toBase64 bytes) :
    ∃ n, c = base64Digit n := by
  fun_induction toBase64 bytes with
  | case1 => cases h
  | case2 a =>
      simp only [List.mem_cons, List.not_mem_nil, or_false] at h
      rcases h with rfl | rfl <;> exact ⟨_, rfl⟩
  | case3 a b =>
      simp only [List.mem_cons, List.not_mem_nil, or_false] at h
      rcases h with rfl | rfl | rfl <;> exact ⟨_, rfl⟩
  | case4 a b c rest ih =>
      simp only [List.mem_cons] at h
      rcases h with rfl | rfl | rfl | rfl | hrest
      · exact ⟨_, rfl⟩
      · exact ⟨_, rfl⟩
      · exact ⟨_, rfl⟩
      · exact ⟨_, rfl⟩
      · exact ih hrest

theorem notMem_dot_toBase64 (bytes : List UInt8) : '.' ∉ toBase64 bytes := by
  intro h
  obtain ⟨n, hn⟩ := exists_digit_of_mem h
  exact base64Digit_ne_dot n hn.symm

/-- A text of digits has as many bytes as digits. -/
theorem utf8ByteSize_toBase64 (bytes : List UInt8) :
    (String.ofList (toBase64 bytes)).utf8ByteSize = (toBase64 bytes).length := by
  have hsize : ∀ cs : List Char, (∀ c ∈ cs, c.utf8Size = 1) →
      (String.ofList cs).utf8ByteSize = cs.length := by
    intro cs hcs
    induction cs with
    | nil => rfl
    | cons c cs ih =>
        rw [String.ofList_cons, String.utf8ByteSize_append, String.utf8ByteSize_singleton,
          hcs c List.mem_cons_self, ih fun d hd => hcs d (List.mem_cons_of_mem c hd),
          List.length_cons, Nat.add_comm]
  refine hsize _ fun c hc => ?_
  obtain ⟨n, rfl⟩ := exists_digit_of_mem hc
  exact utf8Size_base64Digit n

/-! ### Groups -/

/-- A digit adds to its group. -/
theorem ofBase64From_digit (group : Group) (pads n : Nat) (cs : List Char) :
    ofBase64From group pads (base64Digit n :: cs) =
      (ofBase64From (group.push (n % 64)).1 0 cs).map ((group.push (n % 64)).2 ++ ·) := by
  rw [ofBase64From, if_neg (base64Digit_ne_pad n), base64Value?_base64Digit]

theorem ofNat_eq {a : UInt8} {n : Nat} (h : n % 256 = a.toNat) : UInt8.ofNat n = a := by
  apply UInt8.toNat.inj
  rw [UInt8.toNat_ofNat']
  exact h

section Groups

variable (a b c : UInt8)

/-- The first byte of a group is in the first two digits. -/
theorem first_byte (n : Nat) (h : n < 16) :
    UInt8.ofNat (a.toNat / 4 % 64 * 4 + (a.toNat * 16 + n) % 64 / 16) = a := by
  have ha := a.toNat_lt
  exact ofNat_eq (by omega)

theorem second_byte (n : Nat) (h : n < 4) :
    UInt8.ofNat ((a.toNat * 16 + b.toNat / 16) % 64 * 16 + (b.toNat * 4 + n) % 64 / 4) = b := by
  have hb := b.toNat_lt
  exact ofNat_eq (by omega)

theorem third_byte :
    UInt8.ofNat ((b.toNat * 4 + c.toNat / 64) % 64 * 64 + c.toNat % 64) = c := by
  have hc := c.toNat_lt
  exact ofNat_eq (by omega)

/-- Four digits are three bytes. -/
theorem ofBase64From_group (cs : List Char) :
    ofBase64From .zero 0 (base64Digit (a.toNat / 4) ::
        base64Digit (a.toNat * 16 + b.toNat / 16) ::
        base64Digit (b.toNat * 4 + c.toNat / 64) :: base64Digit c.toNat :: cs) =
      (ofBase64From .zero 0 cs).map (a :: b :: c :: ·) := by
  have hb := b.toNat_lt
  have hc := c.toNat_lt
  simp only [ofBase64From_digit, Group.push, first_byte a (b.toNat / 16) (by omega),
    second_byte a b (c.toNat / 64) (by omega), third_byte b c]
  simp only [Option.map_map, Function.comp_def, List.nil_append, List.cons_append]

/-- Two digits are one byte once they are padded. -/
theorem ofBase64From_one :
    ofBase64From .zero 0 [base64Digit (a.toNat / 4), base64Digit (a.toNat * 16), '=', '='] =
      some [a] := by
  have hpads : ∀ x y, ofBase64From (.two x y) 0 ['=', '='] = some [UInt8.ofNat (x * 4 + y / 16)] :=
    fun x y => rfl
  have hfirst := first_byte a 0 (by decide)
  rw [Nat.add_zero] at hfirst
  simp only [ofBase64From_digit, Group.push, hpads, hfirst]
  rfl

/-- Three digits are two bytes once they are padded. -/
theorem ofBase64From_two :
    ofBase64From .zero 0 [base64Digit (a.toNat / 4), base64Digit (a.toNat * 16 + b.toNat / 16),
      base64Digit (b.toNat * 4), '='] = some [a, b] := by
  have hpads : ∀ x y z, ofBase64From (.three x y z) 0 ['='] =
      some [UInt8.ofNat (x * 4 + y / 16), UInt8.ofNat (y * 16 + z / 4)] :=
    fun x y z => rfl
  have hb := b.toNat_lt
  have hsecond := second_byte a b 0 (by decide)
  rw [Nat.add_zero] at hsecond
  simp only [ofBase64From_digit, Group.push, hpads, first_byte a (b.toNat / 16) (by omega), hsecond]
  rfl

end Groups

/-- Four digits more are read with the same padding. -/
theorem padding_add_four (size : Nat) : padding (size + 4) = padding size := by
  rw [padding, padding, Nat.add_mod_right]

/-- **Bytes come back from their text.** -/
theorem ofBase64?_toBase64 (bytes : List UInt8) : ofBase64? (toBase64 bytes) = some bytes := by
  rw [ofBase64?, utf8ByteSize_toBase64]
  fun_induction toBase64 bytes with
  | case1 => rfl
  | case2 a => exact ofBase64From_one a
  | case3 a b => exact ofBase64From_two a b
  | case4 a b c rest ih =>
      simp only [List.length_cons, padding_add_four, List.cons_append]
      rw [ofBase64From_group, ih]
      rfl

end Storefront.Codec
