import Mathlib.Tactic.Ring
import PeerLanding.Protocolo.Decode

/-! What the bytes of a value are, and that the decoders of values take exactly those. -/

namespace PeerLanding.Gpb

open Words

/-! ### Varints -/

/-- Seven bits a byte, the lowest first; the last byte is below 128. -/
inductive Varint : List UInt8 → Nat → Prop
  | last {b : UInt8} (low : b.toNat < 128) : Varint [b] b.toNat
  | more {b : UInt8} {w : List UInt8} {v : Nat} (high : 128 ≤ b.toNat) (later : Varint w v) :
      Varint (b :: w) (b.toNat % 128 + 128 * v)

/-- A varint of at most `k` bytes. -/
def VarintDe (k : Nat) (w : List UInt8) (v : Nat) : Prop := Varint w v ∧ w.length ≤ k

section Varint

variable {w bs rest tl : List UInt8} {v n acc len limite k : Nat}

theorem Varint.length_pos (h : Varint w v) : 0 < w.length := by
  cases h <;> simp

theorem Varint.ne_nil (h : Varint w v) : w ≠ [] := List.ne_nil_of_length_pos h.length_pos

/-- The two decoders of varints differ in that one counts. -/
theorem dVarint_eq (bs : List UInt8) (n acc len : Nat) :
    dVarint limite bs n acc = (grVarint limite bs n acc len).map fun p => (p.1, p.2.2) := by
  induction bs generalizing n acc len with
  | nil => rfl
  | cons b bs ih =>
      rw [dVarint, grVarint]
      split
      · split
        · exact ih _ _ _
        · rfl
      · rfl

theorem shift_more (x y n acc : Nat) :
    x <<< (n + 7) + (y <<< n + acc) = (y + 128 * x) <<< n + acc := by
  simp only [Nat.shiftLeft_eq, Nat.pow_add]
  ring

/-- The `i`th byte may be followed by another while `n + 7 * i < limite`. -/
theorem grVarint_eq_some (few : n < limite + 7) :
    grVarint limite bs n acc len = some (v, k, rest) ↔
      ∃ w x, bs = w ++ rest ∧ Varint w x ∧ n + 7 * w.length < limite + 14 ∧ v = x <<< n + acc ∧
        k = len + w.length := by
  induction bs generalizing n acc len with
  | nil =>
      constructor
      · rintro ⟨⟩
      · rintro ⟨w, x, whole, varint, _⟩
        exact absurd (List.append_eq_nil_iff.1 whole.symm).1 varint.ne_nil
  | cons b bs ih =>
      rw [grVarint]
      by_cases high : 128 ≤ b.toNat
      · rw [if_pos high]
        by_cases goesOn : n < limite
        · rw [if_pos goesOn, ih (by omega)]
          constructor
          · rintro ⟨w, x, rfl, varint, short, rfl, rfl⟩
            refine ⟨b :: w, _, rfl, .more high varint, ?_, shift_more .., ?_⟩
            · rw [List.length_cons]
              omega
            · rw [List.length_cons]
              omega
          · rintro ⟨_, _, whole, varint, short, rfl, rfl⟩
            cases varint with
            | last low =>
                obtain ⟨rfl, _⟩ := List.cons_eq_cons.1 whole
                omega
            | @more b' w x _ later =>
                obtain ⟨rfl, rfl⟩ := List.cons_eq_cons.1 whole
                rw [List.length_cons] at short
                refine ⟨w, x, rfl, later, by omega, (shift_more ..).symm, ?_⟩
                rw [List.length_cons]
                omega
        · rw [if_neg goesOn]
          constructor
          · rintro ⟨⟩
          · rintro ⟨_, _, whole, varint, short, _⟩
            cases varint with
            | last low =>
                obtain ⟨rfl, _⟩ := List.cons_eq_cons.1 whole
                omega
            | more _ later =>
                have some' := later.length_pos
                rw [List.length_cons] at short
                omega
      · rw [if_neg high, Option.some.injEq, Prod.mk.injEq, Prod.mk.injEq]
        constructor
        · rintro ⟨rfl, rfl, rfl⟩
          refine ⟨[b], b.toNat, rfl, .last (by omega), ?_, ?_, rfl⟩
          · simp only [List.length_singleton]
            omega
          · rw [Nat.mod_eq_of_lt (by omega)]
        · rintro ⟨_, _, whole, varint, _, rfl, rfl⟩
          cases varint with
          | last low =>
              obtain ⟨rfl, rfl⟩ := List.cons_eq_cons.1 whole
              rw [Nat.mod_eq_of_lt low]
              exact ⟨rfl, rfl, rfl⟩
          | more high' _ =>
              obtain ⟨rfl, _⟩ := List.cons_eq_cons.1 whole
              exact absurd high' high

theorem grVarint_key : grVarint 25 bs 0 0 len = some (v, k, rest) ↔
    ∃ w, bs = w ++ rest ∧ VarintDe 5 w v ∧ k = len + w.length := by
  rw [grVarint_eq_some (by omega)]
  constructor
  · rintro ⟨w, x, rfl, varint, short, rfl, rfl⟩
    exact ⟨w, rfl, ⟨varint, by omega⟩, rfl⟩
  · rintro ⟨w, rfl, ⟨varint, short⟩, rfl⟩
    exact ⟨w, v, rfl, varint, by omega, rfl, rfl⟩

theorem grVarint_value : grVarint 57 bs 0 0 len = some (v, k, rest) ↔
    ∃ w, bs = w ++ rest ∧ VarintDe 10 w v ∧ k = len + w.length := by
  rw [grVarint_eq_some (by omega)]
  constructor
  · rintro ⟨w, x, rfl, varint, short, rfl, rfl⟩
    exact ⟨w, rfl, ⟨varint, by omega⟩, rfl⟩
  · rintro ⟨w, rfl, ⟨varint, short⟩, rfl⟩
    exact ⟨w, v, rfl, varint, by omega, rfl, rfl⟩

theorem reads_key : Reads (fun bs => dVarint 25 bs 0 0) (VarintDe 5) := by
  intro bs v rest
  simp only [dVarint_eq bs 0 0 0, Option.map_eq_some_iff, Prod.exists, Prod.mk.injEq]
  constructor
  · rintro ⟨_, k, _, read, rfl, rfl⟩
    obtain ⟨w, whole, varint, _⟩ := grVarint_key.1 read
    exact ⟨w, whole, varint⟩
  · rintro ⟨w, whole, varint⟩
    exact ⟨v, _, rest, grVarint_key.2 ⟨w, whole, varint, rfl⟩, rfl, rfl⟩

theorem reads_varint : Reads (fun bs => dVarint 57 bs 0 0) (VarintDe 10) := by
  intro bs v rest
  simp only [dVarint_eq bs 0 0 0, Option.map_eq_some_iff, Prod.exists, Prod.mk.injEq]
  constructor
  · rintro ⟨_, k, _, read, rfl, rfl⟩
    obtain ⟨w, whole, varint, _⟩ := grVarint_value.1 read
    exact ⟨w, whole, varint⟩
  · rintro ⟨w, whole, varint⟩
    exact ⟨v, _, rest, grVarint_value.2 ⟨w, whole, varint, rfl⟩, rfl, rfl⟩

theorem skips_varint : Skips skipVarint fun w => ∃ v, Varint w v := by
  intro bs rest
  induction bs with
  | nil =>
      constructor
      · rintro ⟨⟩
      · rintro ⟨w, whole, v, varint⟩
        exact absurd (List.append_eq_nil_iff.1 whole.symm).1 varint.ne_nil
  | cons b bs ih =>
      rw [skipVarint]
      by_cases high : 128 ≤ b.toNat
      · rw [if_pos high, ih]
        constructor
        · rintro ⟨w, rfl, v, varint⟩
          exact ⟨b :: w, rfl, _, .more high varint⟩
        · rintro ⟨_, whole, _, varint⟩
          cases varint with
          | last low =>
              obtain ⟨rfl, _⟩ := List.cons_eq_cons.1 whole
              omega
          | more _ later =>
              obtain ⟨rfl, rfl⟩ := List.cons_eq_cons.1 whole
              exact ⟨_, rfl, _, later⟩
      · rw [if_neg high, Option.some.injEq]
        constructor
        · rintro rfl
          exact ⟨[b], rfl, _, .last (by omega)⟩
        · rintro ⟨_, whole, _, varint⟩
          cases varint with
          | last _ => exact (List.cons_eq_cons.1 whole).2
          | more high' _ =>
              obtain ⟨rfl, _⟩ := List.cons_eq_cons.1 whole
              exact absurd high' high

end Varint

/-! ### The types of fields -/

def Bytes (w v : List UInt8) : Prop := ∃ l, w = l ++ v ∧ VarintDe 10 l v.length

def Texto (w : List UInt8) (v : Unicode) : Prop := ∃ bs, Bytes w bs ∧ v = charactersToList bs

/-- Bits above the 32nd are of no account. -/
def Inteiro (w : List UInt8) (v : Int32) : Prop := ∃ x : Nat, VarintDe 10 w x ∧ v = .ofInt x

def Logico (w : List UInt8) (v : Bool) : Prop := ∃ x, VarintDe 10 w x ∧ v = (x != 0)

/-- Four bytes, the lowest first. -/
def Real (w : List UInt8) (v : Binary32) : Prop :=
  ∃ b₀ b₁ b₂ b₃ : UInt8, w = [b₀, b₁, b₂, b₃] ∧ v = .intBitsToFloat
    (b₀.toNat + 2 ^ 8 * b₁.toNat + 2 ^ 16 * b₂.toNat + 2 ^ 24 * b₃.toNat)

theorem reads_bytes : Reads dBytes Bytes := by
  refine (reads_varint.bind reads_take).congr fun w v => ?_
  constructor
  · rintro ⟨len, l, bs, rfl, length, rfl, rfl⟩
    exact ⟨l, rfl, length⟩
  · rintro ⟨l, rfl, length⟩
    exact ⟨_, l, v, rfl, length, rfl, rfl⟩

theorem reads_texto : Reads dString Texto := reads_bytes.map charactersToList

theorem reads_inteiro : Reads dInt32 Inteiro := reads_varint.map fun x => Int32.ofInt x

theorem reads_logico : Reads dBool Logico := reads_varint.map (· != 0)

section Real

variable {b₀ b₁ b₂ b₃ : UInt8}

theorem dFloat_eq (rest : List UInt8) : dFloat (b₀ :: b₁ :: b₂ :: b₃ :: rest) =
    some (.intBitsToFloat
      (b₀.toNat + 2 ^ 8 * b₁.toNat + 2 ^ 16 * b₂.toNat + 2 ^ 24 * b₃.toNat), rest) := by
  have small₀ := b₀.toNat_lt
  have small₁ := b₁.toNat_lt
  have small₂ := b₂.toNat_lt
  have small₃ := b₃.toNat_lt
  rw [dFloat]
  split_ifs with inf negInf notANumber
  · obtain ⟨rfl, rfl, rfl, rfl⟩ := inf
    rfl
  · obtain ⟨rfl, rfl, rfl, rfl⟩ := negInf
    rfl
  · have large : ¬(b₀.toNat + 2 ^ 8 * b₁.toNat + 2 ^ 16 * b₂.toNat + 2 ^ 24 * b₃.toNat) % 2 ^ 31 <
        infMagnitude + 1 := by
      simp only [← UInt8.toNat_inj, UInt8.reduceToNat] at inf negInf
      unfold infMagnitude
      omega
    rw [Binary32.intBitsToFloat, dif_neg large]
  · rfl

theorem reads_real : Reads dFloat Real := by
  intro bs v rest
  constructor
  · intro read
    match bs, read with
    | b₀ :: b₁ :: b₂ :: b₃ :: later, read =>
        rw [dFloat_eq] at read
        cases read
        exact ⟨[b₀, b₁, b₂, b₃], rfl, b₀, b₁, b₂, b₃, rfl, rfl⟩
  · rintro ⟨_, rfl, b₀, b₁, b₂, b₃, rfl, rfl⟩
    exact dFloat_eq rest

end Real

end PeerLanding.Gpb
