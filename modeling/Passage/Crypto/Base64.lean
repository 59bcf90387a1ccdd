namespace Passage.Base64

def digit (n : Nat) : Char :=
  if n < 26 then Char.ofNat (65 + n)
  else if n < 52 then Char.ofNat (97 + (n - 26))
  else if n < 62 then Char.ofNat (48 + (n - 52))
  else if n = 62 then '+'
  else '/'

def value? (c : Char) : Option Nat :=
  let n := c.toNat
  if 65 ≤ n ∧ n ≤ 90 then some (n - 65)
  else if 97 ≤ n ∧ n ≤ 122 then some (n - 97 + 26)
  else if 48 ≤ n ∧ n ≤ 57 then some (n - 48 + 52)
  else if c = '+' then some 62
  else if c = '/' then some 63
  else none

/-- Three bytes are four digits; one or two bytes at the end are filled up with padding. -/
def encode : List UInt8 → List Char
  | [] => []
  | [a] =>
    let a := a.toNat
    [digit (a / 4), digit (a % 4 * 16), '=', '=']
  | [a, b] =>
    let a := a.toNat
    let b := b.toNat
    [digit (a / 4), digit (a % 4 * 16 + b / 16), digit (b % 16 * 4), '=']
  | a :: b :: c :: rest =>
    let x := a.toNat
    let y := b.toNat
    let z := c.toNat
    digit (x / 4) :: digit (x % 4 * 16 + y / 16) :: digit (y % 16 * 4 + z / 64) ::
      digit (z % 64) :: encode rest

def decode : List Char → Option (List UInt8)
  | [] => some []
  | [a, b, '=', '='] => do
    let a ← value? a
    let b ← value? b
    if b % 16 = 0 then some [UInt8.ofNat (a * 4 + b / 16)] else none
  | [a, b, c, '='] => do
    let a ← value? a
    let b ← value? b
    let c ← value? c
    if c % 4 = 0 then
      some [UInt8.ofNat (a * 4 + b / 16), UInt8.ofNat (b % 16 * 16 + c / 4)]
    else none
  | a :: b :: c :: d :: rest => do
    let a ← value? a
    let b ← value? b
    let c ← value? c
    let d ← value? d
    let tail ← decode rest
    some (UInt8.ofNat (a * 4 + b / 16) :: UInt8.ofNat (b % 16 * 16 + c / 4) ::
      UInt8.ofNat (c % 4 * 64 + d) :: tail)
  | _ => none

theorem value?_digit {n : Nat} (h : n < 64) : value? (digit n) = some n := by
  revert n
  decide

theorem digit_ne_pad {n : Nat} (h : n < 64) : digit n ≠ '=' := by
  revert n
  decide

theorem forall_mem_encode {good : Char → Prop} (pad : good '=') (digits : ∀ n < 64, good (digit n))
    (data : List UInt8) : ∀ c ∈ encode data, good c := by
  have top (x : UInt8) : x.toNat / 4 < 64 := by
    have := x.toNat_lt
    omega
  induction data using encode.induct with
  | case1 => exact List.forall_mem_nil _
  | case2 a =>
    simp only [encode, List.forall_mem_cons]
    exact ⟨digits _ (top a), digits _ (by omega), pad, pad, List.forall_mem_nil _⟩
  | case3 a b =>
    have := b.toNat_lt
    simp only [encode, List.forall_mem_cons]
    exact ⟨digits _ (top a), digits _ (by omega), digits _ (by omega), pad, List.forall_mem_nil _⟩
  | case4 a b c rest ih =>
    have := b.toNat_lt
    have := c.toNat_lt
    simp only [encode, List.forall_mem_cons]
    exact ⟨digits _ (top a), digits _ (by omega), digits _ (by omega), digits _ (by omega), ih⟩

theorem encode_ne_nil {data : List UInt8} (h : data ≠ []) : encode data ≠ [] := by
  fun_cases encode data <;> simp_all

theorem decode_group {d : Char} (h : d ≠ '=') (a b c : Char) (rest : List Char) :
    decode (a :: b :: c :: d :: rest) = (do
      let a ← value? a
      let b ← value? b
      let c ← value? c
      let d ← value? d
      let tail ← decode rest
      some (UInt8.ofNat (a * 4 + b / 16) :: UInt8.ofNat (b % 16 * 16 + c / 4) ::
        UInt8.ofNat (c % 4 * 64 + d) :: tail)) := by
  rw [decode]
  · exact fun _ he => absurd he h
  · exact fun he => absurd he h

theorem ofNat_eq_byte {b : UInt8} {n : Nat} (h : n = b.toNat) : UInt8.ofNat n = b := by
  rw [h, UInt8.ofNat_toNat]

theorem decode_encode (data : List UInt8) : decode (encode data) = some data := by
  have top (x : UInt8) : x.toNat / 4 < 64 := by
    have := x.toNat_lt
    omega
  induction data using encode.induct with
  | case1 => rfl
  | case2 a =>
    have second : a.toNat % 4 * 16 < 64 := by omega
    have whole : a.toNat / 4 * 4 + a.toNat % 4 * 16 / 16 = a.toNat := by omega
    simp only [encode, decode, value?_digit (top a), value?_digit second, Option.bind_eq_bind,
      Option.bind_some]
    rw [if_pos (by omega), ofNat_eq_byte whole]
  | case3 a b =>
    have := b.toNat_lt
    have second : a.toNat % 4 * 16 + b.toNat / 16 < 64 := by omega
    have third : b.toNat % 16 * 4 < 64 := by omega
    simp only [encode]
    rw [decode]
    · simp only [value?_digit (top a), value?_digit second, value?_digit third,
        Option.bind_eq_bind, Option.bind_some]
      rw [if_pos (by omega), ofNat_eq_byte (b := a) (by omega), ofNat_eq_byte (b := b) (by omega)]
    · exact fun he => absurd he (digit_ne_pad third)
  | case4 a b c rest ih =>
    have := b.toNat_lt
    have := c.toNat_lt
    have second : a.toNat % 4 * 16 + b.toNat / 16 < 64 := by omega
    have third : b.toNat % 16 * 4 + c.toNat / 64 < 64 := by omega
    have fourth : c.toNat % 64 < 64 := by omega
    simp only [encode]
    rw [decode_group (digit_ne_pad fourth), ih]
    simp only [value?_digit (top a), value?_digit second, value?_digit third, value?_digit fourth,
      Option.bind_eq_bind, Option.bind_some]
    rw [ofNat_eq_byte (b := a) (by omega), ofNat_eq_byte (b := b) (by omega),
      ofNat_eq_byte (b := c) (by omega)]

theorem eq_digit_of_value? {c : Char} {n : Nat} (h : value? c = some n) : n < 64 ∧ c = digit n := by
  have self {m : Nat} (same : m = c.toNat) : c = Char.ofNat m := by rw [same, Char.ofNat_toNat]
  simp only [value?] at h
  split at h
  · cases h
    refine ⟨by omega, ?_⟩
    rw [digit, if_pos (by omega)]
    exact self (by omega)
  split at h
  · cases h
    refine ⟨by omega, ?_⟩
    rw [digit, if_neg (by omega), if_pos (by omega)]
    exact self (by omega)
  split at h
  · cases h
    refine ⟨by omega, ?_⟩
    rw [digit, if_neg (by omega), if_neg (by omega), if_pos (by omega)]
    exact self (by omega)
  split at h
  · next plus =>
    cases h
    exact ⟨by decide, plus⟩
  split at h
  · next slash =>
    cases h
    exact ⟨by decide, slash⟩
  · cases h

theorem encode_of_decode {text : List Char} {data : List UInt8} (h : decode text = some data) :
    encode data = text := by
  have byte {n : Nat} (small : n < 256) : (UInt8.ofNat n).toNat = n := Nat.mod_eq_of_lt small
  induction text using decode.induct generalizing data with
  | case1 =>
    cases h
    rfl
  | case2 a b =>
    simp only [decode, Option.bind_eq_bind, Option.bind_eq_some_iff] at h
    obtain ⟨x, first, y, second, h⟩ := h
    obtain ⟨small_x, rfl⟩ := eq_digit_of_value? first
    obtain ⟨small_y, rfl⟩ := eq_digit_of_value? second
    obtain ⟨unused, read⟩ := Option.ite_none_right_eq_some.mp h
    cases read
    have x_back : (x * 4 + y / 16) / 4 = x := by omega
    have y_back : (x * 4 + y / 16) % 4 * 16 = y := by omega
    simp only [encode, byte (show x * 4 + y / 16 < 256 by omega), x_back, y_back]
  | case3 a b c digits =>
    rw [decode] at h
    · simp only [Option.bind_eq_bind, Option.bind_eq_some_iff] at h
      obtain ⟨x, first, y, second, z, third, h⟩ := h
      obtain ⟨small_x, rfl⟩ := eq_digit_of_value? first
      obtain ⟨small_y, rfl⟩ := eq_digit_of_value? second
      obtain ⟨small_z, rfl⟩ := eq_digit_of_value? third
      obtain ⟨unused, read⟩ := Option.ite_none_right_eq_some.mp h
      cases read
      have x_back : (x * 4 + y / 16) / 4 = x := by omega
      have y_back : (x * 4 + y / 16) % 4 * 16 + (y % 16 * 16 + z / 4) / 16 = y := by omega
      have z_back : (y % 16 * 16 + z / 4) % 16 * 4 = z := by omega
      simp only [encode, byte (show x * 4 + y / 16 < 256 by omega),
        byte (show y % 16 * 16 + z / 4 < 256 by omega), x_back, y_back, z_back]
    · exact digits
  | case4 a b c d rest two_bytes one_byte ih =>
    rw [decode] at h
    · simp only [Option.bind_eq_bind, Option.bind_eq_some_iff] at h
      obtain ⟨x, first, y, second, z, third, w, fourth, tail, read, whole⟩ := h
      cases whole
      obtain ⟨small_x, rfl⟩ := eq_digit_of_value? first
      obtain ⟨small_y, rfl⟩ := eq_digit_of_value? second
      obtain ⟨small_z, rfl⟩ := eq_digit_of_value? third
      obtain ⟨small_w, rfl⟩ := eq_digit_of_value? fourth
      have x_back : (x * 4 + y / 16) / 4 = x := by omega
      have y_back : (x * 4 + y / 16) % 4 * 16 + (y % 16 * 16 + z / 4) / 16 = y := by omega
      have z_back : (y % 16 * 16 + z / 4) % 16 * 4 + (z % 4 * 64 + w) / 64 = z := by omega
      have w_back : (z % 4 * 64 + w) % 64 = w := by omega
      simp only [encode, byte (show x * 4 + y / 16 < 256 by omega),
        byte (show y % 16 * 16 + z / 4 < 256 by omega),
        byte (show z % 4 * 64 + w < 256 by omega), x_back, y_back, z_back, w_back, ih read]
    · exact two_bytes
    · exact one_byte
  | case5 text empty one_byte two_bytes group =>
    rw [decode] at h
    · cases h
    · exact empty
    · exact one_byte
    · exact two_bytes
    · exact group

/-- There is one written form for every byte string, and nothing else is read. -/
theorem decode_eq_some_iff {text : List Char} {data : List UInt8} :
    decode text = some data ↔ text = encode data := by
  constructor
  · intro read
    exact (encode_of_decode read).symm
  · rintro rfl
    exact decode_encode data

end Passage.Base64
