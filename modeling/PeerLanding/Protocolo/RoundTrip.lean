import PeerLanding.Protocolo.Encode

/-! What an encoder has written is decoded as what it has written. -/

namespace PeerLanding.Gpb

open Words

variable {V : Type} {n : MsgName} {bin out mid : List UInt8}

/-! ### Values -/

theorem varint_varint (x : Nat) : Varint (Wire.varint x) x := by
  induction x using Wire.varint.induct with
  | case1 x small =>
      have byte : (UInt8.ofNat x).toNat = x := by
        rw [UInt8.toNat_ofNat']
        omega
      have last : Varint [.ofNat x] (UInt8.ofNat x).toNat := .last (by omega)
      rwa [byte, ← show Wire.varint x = [.ofNat x] by rw [Wire.varint, if_pos small]] at last
  | case2 x large ih =>
      have byte : (UInt8.ofNat (x % 128 + 128)).toNat = x % 128 + 128 := by
        rw [UInt8.toNat_ofNat']
        omega
      have more := Varint.more (b := .ofNat (x % 128 + 128)) (by omega) ih
      have value : (x % 128 + 128) % 128 + 128 * (x / 128) = x := by omega
      rw [byte, value] at more
      rwa [Wire.varint, if_neg large]

theorem length_varint_le {k x : Nat} (small : x < 128 ^ (k + 1)) :
    (Wire.varint x).length ≤ k + 1 := by
  induction k generalizing x with
  | zero =>
      rw [Wire.varint, if_pos (by simpa using small)]
      rfl
  | succ k ih =>
      rw [Wire.varint]
      split
      · simp
      · rw [List.length_cons]
        exact Nat.succ_le_succ (ih (Nat.div_lt_of_lt_mul (by rwa [← Nat.pow_succ'])))

theorem eVarint_eq (x : Nat) (bin : List UInt8) : eVarint x bin = bin ++ Wire.varint x := by
  induction x using Wire.varint.induct generalizing bin with
  | case1 x small => rw [eVarint, if_pos (by omega), Wire.varint, if_pos small]
  | case2 x large ih =>
      have high : x &&& 127 ||| 128 = x % 128 + 128 := by
        have low : x % 128 < 2 ^ 7 := Nat.mod_lt _ (by decide)
        rw [Nat.and_two_pow_sub_one_eq_mod x 7, Nat.or_comm, Nat.add_comm]
        exact (Nat.two_pow_add_eq_or_of_lt low 1).symm
      have written : Wire.varint x = .ofNat (x % 128 + 128) :: Wire.varint (x / 128) := by
        rw [Wire.varint, if_neg large]
      rw [eVarint, if_neg (by omega), high, Nat.shiftRight_eq_div_pow, written]
      exact (ih _).trans (List.append_assoc ..)

theorem varintDe_varint {x : Nat} (small : x < 2 ^ 70) : VarintDe 10 (Wire.varint x) x :=
  ⟨varint_varint x, length_varint_le (k := 9) small⟩

theorem eTypeBytes_eq (v bin : List UInt8) :
    eTypeBytes v bin = bin ++ (Wire.varint v.length ++ v) := by
  rw [eTypeBytes, eVarint_eq, List.append_assoc]

theorem eTypeInt32_eq (v : Int32) (bin : List UInt8) :
    eTypeInt32 v bin = bin ++ Wire.varint (v.toInt % 2 ^ 64).toNat := by
  have low := v.le_toInt
  have high := v.toInt_lt
  rw [eTypeInt32]
  split_ifs with small
  · have same : (v.toInt % 2 ^ 64).toNat = v.toInt.toNat := by omega
    rw [same, Wire.varint, if_pos (by omega)]
  · exact eVarint_eq _ _

/-- `out` is `bin` and a word for `v`, unless that word is too long to be read. -/
def Escrito (L : List UInt8 → V → Prop) (bin out : List UInt8) (v : V) : Prop :=
  ∃ w, out = bin ++ w ∧ (w.length < 2 ^ 70 → L w v)

/-- `out` is `bin` and the fields that do `us`, unless these are too long to be read. -/
def MsgName.Acrescenta (n : MsgName) (bin out : List UInt8) (us : List (n.Msg → n.Msg)) : Prop :=
  Escrito (Text n.gramatica.Campo) bin out us

namespace MsgName.Acrescenta

theorem refl (bin : List UInt8) : n.Acrescenta bin bin [] :=
  ⟨[], (List.append_nil bin).symm, fun _ => .nil⟩

theorem trans {us us' : List (n.Msg → n.Msg)} (h : n.Acrescenta bin mid us)
    (h' : n.Acrescenta mid out us') : n.Acrescenta bin out (us ++ us') := by
  obtain ⟨w, rfl, text⟩ := h
  obtain ⟨w', rfl, text'⟩ := h'
  refine ⟨w ++ w', List.append_assoc .., fun short => ?_⟩
  rw [List.length_append] at short
  exact (text (by omega)).append (text' (by omega))

theorem field (key : UInt8) {L : List UInt8 → V → Prop} {poe : V → n.Msg → n.Msg} {v : V}
    (h : Escrito L (bin ++ [key]) out v)
    (known : n.valor key.toNat = Poe L poe ∧ (n.campos key.toNat).isSome) :
    n.Acrescenta bin out [poe v] := by
  obtain ⟨w, rfl, word⟩ := h
  refine ⟨[key] ++ w, List.append_assoc .., fun short => ?_⟩
  have low : key.toNat < 128 := by
    by_contra high
    rw [n.campos_eq_none (by omega)] at known
    cases known.2
  rw [List.length_append] at short
  have value : n.valor key.toNat w (poe v) := by
    rw [known.1]
    exact ⟨v, word (by omega), rfl⟩
  exact .singleton (.conhecido ⟨.last low, by simp⟩ known.2 value)

theorem optional {e : V → Option (List UInt8)} {poe : V → n.Msg → n.Msg} (f : Option V)
    (field : ∀ v out, e v = some out → n.Acrescenta bin out [poe v])
    (written : opcional f e bin = some out) :
    n.Acrescenta bin out (f.toList.map poe) := by
  cases f with
  | none =>
      cases written
      exact refl bin
  | some v => exact field v out written

end MsgName.Acrescenta

/-! ### Messages -/

open MsgName.Acrescenta

end PeerLanding.Gpb
