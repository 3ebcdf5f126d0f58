import PeerLanding.Sessions
import PeerLanding.Wire
import Mathlib.Data.List.Perm.Subperm

/-! The messages of `protocolo.proto` that a client and its session exchange, field by field.
A field that comes again replaces the one before. -/

namespace PeerLanding

open Chunks Frontend

/-- A message as its sender builds it, where every text is a string. -/
def Mensagem.decodificada {R : Type} (msg : Mensagem R) : Decodificada R where
  tipo := .texto msg.tipo
  juro := msg.juro
  quantia := msg.quantia
  empresa := msg.empresa.map .texto
  investidor := msg.investidor.map .texto

def Frontend.AuthReq.de (username password : String) : AuthReq :=
  ⟨.texto username, .texto password⟩

structure Frontend.AuthRep where
  sucesso : Bool
  tipo : Option Int32
  deriving DecidableEq

structure Frontend.Reply where
  sucesso : Bool
  deriving DecidableEq

namespace Wire

variable {γ δ γ' δ' : Type}

/-! ### The types of fields -/

/-- A type of fields: `v` is written as `write v` and read as `seen v`. -/
structure FieldType (γ δ : Type) where
  write : γ → Value
  read : Value → Option δ
  seen : γ → δ
  read_write : ∀ v, read (write v) = some (seen v)

def string : FieldType String Termo where
  write s := .bytes s.toByteArray.data.toList
  read
    | .bytes bs => some ((String.fromUTF8? ⟨bs.toArray⟩).elim .outro .texto)
    | _ => none
  seen := .texto
  read_write s := by
    have whole : (⟨s.toByteArray.data.toList.toArray⟩ : ByteArray) = s.toByteArray := by
      rw [Array.toArray_toList]
    simp [String.fromUTF8?, s.isValidUTF8, String.fromUTF8]

def bool : FieldType Bool Bool where
  write b := .varint b.toNat
  read
    | .varint v => some (v ≠ 0)
    | _ => none
  seen := id
  read_write b := by cases b <;> rfl

/-- A negative number is written with 64 bits. -/
def int32 : FieldType Int32 Int32 where
  write n := .varint (n.toInt % 2 ^ 64).toNat
  read
    | .varint v => some (.ofInt v)
    | _ => none
  seen := id
  read_write n := by
    have low := n.le_toInt
    have high := n.toInt_lt
    have same : Int32.ofInt ((n.toInt % 2 ^ 64).toNat : Int) = n := by
      apply Int32.toInt.inj
      rw [Int32.toInt_ofInt, Int.toNat_of_nonneg (by omega)]
      simp only [Int.bmod, Int32.size]
      omega
    exact congrArg some same

def bits : Binary32 → Nat
  | .nan => 0x7fc00000
  | .num neg mag => 2 ^ 31 * neg.toNat + mag

theorem bits_num (neg : Bool) (mag : Fin (infMagnitude + 1)) :
    bits (.num neg mag) % 2 ^ 31 = mag ∧ (2 ^ 31 ≤ bits (.num neg mag) ↔ neg = true) ∧
      bits (.num neg mag) < 2 ^ 32 := by
  have small : mag.val < 0x7f800001 := mag.isLt
  cases neg with
  | false =>
      simp only [bits, Bool.toNat_false, Bool.false_eq_true, iff_false]
      omega
  | true =>
      simp only [bits, Bool.toNat_true, iff_true]
      omega

theorem bits_lt (x : Binary32) : bits x < 2 ^ 32 := by
  cases x with
  | nan => decide
  | num neg mag => exact (bits_num neg mag).2.2

theorem intBitsToFloat_bits (x : Binary32) : .intBitsToFloat (bits x) = x := by
  cases x with
  | nan => rfl
  | num neg mag =>
      have small := mag.isLt
      obtain ⟨magnitude, sign, _⟩ := bits_num neg mag
      rw [Binary32.intBitsToFloat, dif_pos (by rw [magnitude]; exact small)]
      congr 1
      · rw [Bool.eq_iff_iff, decide_eq_true_iff, sign]
      · exact Fin.ext magnitude

def float : FieldType Binary32 Binary32 where
  write x := .fixed32 (.ofNat (bits x)) (.ofNat (bits x / 2 ^ 8)) (.ofNat (bits x / 2 ^ 16))
    (.ofNat (bits x / 2 ^ 24))
  read
    | .fixed32 b₀ b₁ b₂ b₃ => some (.intBitsToFloat
        (b₀.toNat + 2 ^ 8 * b₁.toNat + 2 ^ 16 * b₂.toNat + 2 ^ 24 * b₃.toNat))
    | _ => none
  seen := id
  read_write x := by
    have small := bits_lt x
    have joined : (UInt8.ofNat (bits x)).toNat + 2 ^ 8 * (UInt8.ofNat (bits x / 2 ^ 8)).toNat +
        2 ^ 16 * (UInt8.ofNat (bits x / 2 ^ 16)).toNat +
        2 ^ 24 * (UInt8.ofNat (bits x / 2 ^ 24)).toNat = bits x := by
      simp only [UInt8.toNat_ofNat']
      omega
    simp only [joined, intBitsToFloat_bits, id_eq]

/-! ### Fields by number -/

def FieldType.put (t : FieldType γ δ) (number : Nat) (v : Option γ) : List Field :=
  v.toList.map fun v => ⟨number, t.write v⟩

def FieldType.get (t : FieldType γ δ) (number : Nat) (fs : List Field) : Option δ :=
  (fs.filterMap fun f => if f.number = number then t.read f.value else none).getLast?

namespace FieldType

variable (t : FieldType γ δ)

theorem get_append (number : Nat) (fs gs : List Field) :
    t.get number (fs ++ gs) = (t.get number gs).or (t.get number fs) := by
  rw [get, List.filterMap_append, List.getLast?_append, get, get]

theorem get_put (number : Nat) (v : Option γ) : t.get number (t.put number v) = v.map t.seen := by
  cases v with
  | none => rfl
  | some v => simp [get, put, t.read_write]

theorem get_put_of_ne {number other : Nat} (h : other ≠ number) (t' : FieldType γ' δ')
    (v : Option γ') : t.get number (t'.put other v) = none := by
  cases v with
  | none => rfl
  | some v => simp [get, put, h]

theorem mem_of_get {number : Nat} {fs : List Field} {v : δ} (h : t.get number fs = some v) :
    number ∈ fs.map (·.number) := by
  obtain ⟨f, hf, found⟩ := List.mem_filterMap.1 (List.mem_of_getLast? h)
  by_cases same : f.number = number
  · exact same ▸ List.mem_map_of_mem hf
  · rw [if_neg same] at found
    cases found

theorem numbers_put_sublist (number : Nat) (v : Option γ) :
    ((t.put number v).map (·.number)).Sublist [number] := by
  cases v with
  | none => exact List.nil_sublist _
  | some v => exact List.Sublist.refl _

theorem numbers_of_get {number : Nat} {v : Option γ} {fs : List Field}
    (h : t.get number fs = v.map t.seen) :
    (t.put number v).map (·.number) ⊆ fs.map (·.number) := by
  cases v with
  | none => exact List.nil_subset _
  | some v =>
      intro n hn
      obtain rfl := List.mem_singleton.1 hn
      exact t.mem_of_get h

end FieldType

theorem length_le_of_numbers {fs gs : List Field} (distinct : (fs.map (·.number)).Nodup)
    (found : fs.map (·.number) ⊆ gs.map (·.number)) : fs.length ≤ gs.length := by
  simpa using (distinct.subperm found).length_le

/-! ### Messages -/

/-- As `protocolo:decode_msg` reads it: a required field may be missing. -/
def authReq : Schema UInt8 Field AuthReq where
  fields m := string.put 1 m.username.encode ++ string.put 2 m.password.encode
  read := readField
  ofFields fs := some
    { username := (string.get 1 fs).getD .outro
      password := (string.get 2 fs).getD .outro }

def mensagem : Schema UInt8 Field (Decodificada Binary32) where
  fields m := string.put 1 m.tipo.encode ++ (float.put 2 m.juro ++ (int32.put 3 m.quantia ++
    (string.put 4 (m.empresa.bind Termo.encode) ++
      string.put 5 (m.investidor.bind Termo.encode))))
  read := readField
  ofFields fs := some
    { tipo := (string.get 1 fs).getD .outro
      juro := float.get 2 fs
      quantia := int32.get 3 fs
      empresa := string.get 4 fs
      investidor := string.get 5 fs }

/-- As `AuthRep.parseFrom` reads it: a required field must be there. -/
def authRep : Schema UInt8 Field AuthRep where
  fields m := bool.put 1 (some m.sucesso) ++ int32.put 2 m.tipo
  read := readField
  ofFields fs := (bool.get 1 fs).map fun sucesso => ⟨sucesso, int32.get 2 fs⟩

def reply : Schema UInt8 Field Reply where
  fields m := bool.put 1 (some m.sucesso)
  read := readField
  ofFields fs := (bool.get 1 fs).map Reply.mk

theorem getD_outro {v : Option Termo} {s : String} (h : v.getD .outro = .texto s) :
    v = some (.texto s) := by
  cases v with
  | none => cases h
  | some v => exact congrArg some h

theorem bind_encode_texto (v : Option String) : (v.map Termo.texto).bind Termo.encode = v := by
  cases v <;> rfl

theorem authReq_lawful :
    authReq.Lawful Field.encode fun m => ∃ username password, m = .de username password where
  delimiting := selfDelimiting
  fields_ne_nil := by
    rintro m ⟨username, password, rfl⟩
    exact List.cons_ne_nil _ _
  ofFields_fields := by
    rintro m ⟨username, password, rfl⟩
    simp [authReq, AuthReq.de, Termo.encode, FieldType.get_append, FieldType.get_put,
      FieldType.get_put_of_ne, string]
  length_fields_le := by
    rintro fs m ⟨username, password, rfl⟩ h
    simp only [authReq, AuthReq.de, Option.some.injEq, AuthReq.mk.injEq] at h
    refine length_le_of_numbers (show [1, 2].Nodup by decide) ?_
    rw [authReq, List.map_append, List.append_subset]
    exact ⟨string.numbers_of_get (getD_outro h.1), string.numbers_of_get (getD_outro h.2)⟩

theorem mensagem_lawful :
    mensagem.Lawful Field.encode fun m => ∃ n : Mensagem Binary32, m = n.decodificada where
  delimiting := selfDelimiting
  fields_ne_nil := by
    rintro m ⟨n, rfl⟩
    exact List.cons_ne_nil _ _
  ofFields_fields := by
    rintro m ⟨n, rfl⟩
    simp [mensagem, Mensagem.decodificada, Termo.encode, FieldType.get_append, FieldType.get_put,
      FieldType.get_put_of_ne, bind_encode_texto, string, int32, float]
  length_fields_le := by
    rintro fs m ⟨n, rfl⟩ h
    simp only [mensagem, Option.some.injEq, Mensagem.decodificada, Decodificada.mk.injEq] at h
    obtain ⟨tipo, juro, quantia, empresa, investidor⟩ := h
    have ordered : ((mensagem.fields n.decodificada).map (·.number)).Sublist [1, 2, 3, 4, 5] := by
      simp only [mensagem, List.map_append]
      exact (string.numbers_put_sublist 1 _).append ((float.numbers_put_sublist 2 _).append
        ((int32.numbers_put_sublist 3 _).append ((string.numbers_put_sublist 4 _).append
          (string.numbers_put_sublist 5 _))))
    refine length_le_of_numbers (ordered.nodup (by decide)) ?_
    simp only [mensagem, Mensagem.decodificada, bind_encode_texto, List.map_append,
      List.append_subset]
    exact ⟨string.numbers_of_get (getD_outro tipo),
      float.numbers_of_get (juro.trans (congrFun Option.map_id _).symm),
      int32.numbers_of_get (quantia.trans (congrFun Option.map_id _).symm),
      string.numbers_of_get empresa, string.numbers_of_get investidor⟩

theorem authRep_lawful : authRep.Lawful Field.encode fun _ => True where
  delimiting := selfDelimiting
  fields_ne_nil m _ := List.cons_ne_nil _ _
  ofFields_fields m _ := by
    simp [authRep, FieldType.get_append, FieldType.get_put, FieldType.get_put_of_ne, bool, int32]
  length_fields_le fs m _ h := by
    obtain ⟨sucesso, found, rfl⟩ := Option.map_eq_some_iff.1 h
    have ordered := (bool.numbers_put_sublist 1 (some sucesso)).append
      (int32.numbers_put_sublist 2 (int32.get 2 fs))
    rw [← List.map_append] at ordered
    refine length_le_of_numbers (ordered.nodup (by decide)) ?_
    rw [authRep, List.map_append, List.append_subset]
    exact ⟨bool.numbers_of_get found, int32.numbers_of_get (congrFun Option.map_id _).symm⟩

theorem reply_lawful : reply.Lawful Field.encode fun _ => True where
  delimiting := selfDelimiting
  fields_ne_nil m _ := List.cons_ne_nil _ _
  ofFields_fields m _ := by
    simp [reply, FieldType.get_put, bool]
  length_fields_le fs m _ h := by
    obtain ⟨sucesso, found, rfl⟩ := Option.map_eq_some_iff.1 h
    exact length_le_of_numbers (List.nodup_singleton _)
      (bool.numbers_of_get (v := some sucesso) found)

end Wire

end PeerLanding
