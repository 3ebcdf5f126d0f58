import PeerLanding.Chunks

/-! The wire format of protocol buffers: a message is a list of fields, each a key and a
value, and every field says where it ends. -/

namespace PeerLanding.Wire

/-- Seven bits a byte, the lowest first; the last byte is below 128. -/
def varint (n : Nat) : List UInt8 :=
  if n < 128 then [UInt8.ofNat n] else UInt8.ofNat (n % 128 + 128) :: varint (n / 128)

def readVarint : List UInt8 → Option (Nat × List UInt8)
  | [] => none
  | b :: bs =>
      if b.toNat < 128 then some (b.toNat, bs)
      else (readVarint bs).map fun p => (b.toNat - 128 + 128 * p.1, p.2)

theorem varint_ne_nil (n : Nat) : varint n ≠ [] := by
  rw [varint]
  split <;> exact List.cons_ne_nil _ _

theorem readVarint_varint (n : Nat) (rest : List UInt8) :
    readVarint (varint n ++ rest) = some (n, rest) := by
  induction n using varint.induct with
  | case1 n small =>
      have byte : (UInt8.ofNat n).toNat = n := by
        rw [UInt8.toNat_ofNat']
        omega
      simp [varint, readVarint, small, byte]
  | case2 n large ih =>
      have byte : (UInt8.ofNat (n % 128 + 128)).toNat = n % 128 + 128 := by
        rw [UInt8.toNat_ofNat']
        omega
      rw [varint, if_neg large, List.cons_append, readVarint, byte, if_neg (by omega), ih]
      simp only [Option.map_some, Option.some.injEq, Prod.mk.injEq, and_true]
      omega

/-- The values that a key announces with the wire types 0, 2 and 5. -/
inductive Value where
  | varint (n : Nat)
  | bytes (bs : List UInt8)
  | fixed32 (b₀ b₁ b₂ b₃ : UInt8)
  deriving DecidableEq

structure Field where
  number : Nat
  value : Value
  deriving DecidableEq

def Field.encode : Field → List UInt8
  | ⟨number, .varint n⟩ => Wire.varint (8 * number) ++ Wire.varint n
  | ⟨number, .bytes bs⟩ => Wire.varint (8 * number + 2) ++ (Wire.varint bs.length ++ bs)
  | ⟨number, .fixed32 b₀ b₁ b₂ b₃⟩ => Wire.varint (8 * number + 5) ++ [b₀, b₁, b₂, b₃]

def readField (bs : List UInt8) : Option (Field × List UInt8) := do
  let (key, bs) ← readVarint bs
  if key % 8 = 0 then
    let (n, bs) ← readVarint bs
    return (⟨key / 8, .varint n⟩, bs)
  else if key % 8 = 2 then
    let (length, bs) ← readVarint bs
    if length ≤ bs.length then
      return (⟨key / 8, .bytes (bs.take length)⟩, bs.drop length)
    else none
  else if key % 8 = 5 then
    match bs with
    | b₀ :: b₁ :: b₂ :: b₃ :: bs => return (⟨key / 8, .fixed32 b₀ b₁ b₂ b₃⟩, bs)
    | _ => none
  else none

theorem readField_encode (f : Field) (rest : List UInt8) :
    readField (f.encode ++ rest) = some (f, rest) := by
  obtain ⟨number, value⟩ := f
  cases value with
  | varint n =>
      have key : 8 * number % 8 = 0 := by omega
      simp [Field.encode, readField, List.append_assoc, readVarint_varint, key]
  | bytes bs =>
      have key : (8 * number + 2) % 8 = 2 := by omega
      have number_eq : (8 * number + 2) / 8 = number := by omega
      simp [Field.encode, readField, List.append_assoc, readVarint_varint, key, number_eq]
  | fixed32 b₀ b₁ b₂ b₃ =>
      have key : (8 * number + 5) % 8 = 5 := by omega
      have number_eq : (8 * number + 5) / 8 = number := by omega
      simp [Field.encode, readField, List.append_assoc, readVarint_varint, key, number_eq]

theorem Field.encode_ne_nil (f : Field) : f.encode ≠ [] := by
  obtain ⟨number, value⟩ := f
  cases value <;> simp [encode, varint_ne_nil]

theorem readVarint_append {bs : List UInt8} {n : Nat} {rest : List UInt8}
    (h : readVarint bs = some (n, rest)) (more : List UInt8) :
    readVarint (bs ++ more) = some (n, rest ++ more) := by
  induction bs generalizing n with
  | nil => cases h
  | cons b bs ih =>
      rw [List.cons_append, readVarint]
      rw [readVarint] at h
      by_cases last : b.toNat < 128
      · rw [if_pos last] at h ⊢
        cases h
        rfl
      · rw [if_neg last, Option.map_eq_some_iff] at h
        obtain ⟨⟨high, after⟩, found, both⟩ := h
        cases both
        rw [if_neg last, ih found]
        rfl

theorem readField_append (bs more : List UInt8) (f : Field) (rest : List UInt8)
    (h : readField bs = some (f, rest)) : readField (bs ++ more) = some (f, rest ++ more) := by
  simp only [readField, bind, pure, Option.bind_eq_some_iff] at h ⊢
  obtain ⟨⟨key, after⟩, key_read, h⟩ := h
  refine ⟨(key, after ++ more), readVarint_append key_read more, ?_⟩
  simp only at h ⊢
  by_cases isVarint : key % 8 = 0
  · rw [if_pos isVarint, Option.bind_eq_some_iff] at h
    obtain ⟨⟨n, last⟩, value_read, h⟩ := h
    cases h
    rw [if_pos isVarint, readVarint_append value_read]
    rfl
  rw [if_neg isVarint] at h ⊢
  by_cases isBytes : key % 8 = 2
  · rw [if_pos isBytes, Option.bind_eq_some_iff] at h
    obtain ⟨⟨length, last⟩, length_read, h⟩ := h
    rw [if_pos isBytes, readVarint_append length_read, Option.bind_some]
    simp only at h ⊢
    by_cases enough : length ≤ last.length
    · rw [if_pos enough] at h
      cases h
      rw [if_pos (by rw [List.length_append]; omega), List.take_append_of_le_length enough,
        List.drop_append_of_le_length enough]
    · rw [if_neg enough] at h
      cases h
  rw [if_neg isBytes] at h ⊢
  by_cases isFixed : key % 8 = 5
  · rw [if_pos isFixed] at h ⊢
    match after, h with
    | b₀ :: b₁ :: b₂ :: b₃ :: last, h =>
        cases h
        rfl
  · rw [if_neg isFixed] at h
    cases h

theorem selfDelimiting : Chunks.SelfDelimiting Field.encode readField where
  write_ne_nil := Field.encode_ne_nil
  read_write := readField_encode
  read_append := readField_append

end PeerLanding.Wire
