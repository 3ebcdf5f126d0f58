import PeerLanding.Protocolo.Groups

/-! What the bytes of a message are: any number of fields, each a key and a value, the known ones by
their types and the others by the type that the key gives. -/

namespace PeerLanding.Gpb

open Words

variable {M V : Type} {campos : Campos M}

/-- A value of a field that the message does not have. -/
inductive Ignorado (key : Nat) : List UInt8 → Prop
  | varint {w : List UInt8} {v : Nat} (tipo : key % 8 = 0) (valor : Varint w v) : Ignorado key w
  | bits64 {w : List UInt8} (tipo : key % 8 = 1) (valor : w.length = 8) : Ignorado key w
  | bytes {w v : List UInt8} (tipo : key % 8 = 2) (valor : Bytes w v) : Ignorado key w
  | grupo {g fim : List UInt8} (tipo : key % 8 = 3) (grupo : Grupo (key / 8) g)
      (ends : Fim (key / 8) fim) : Ignorado key (g ++ fim)
  | bits32 {w : List UInt8} (tipo : key % 8 = 5) (valor : w.length = 4) : Ignorado key w

/-- The values of the fields of a message, and what each of them does to it. -/
structure Gramatica (campos : Campos M) where
  valor : Nat → List UInt8 → (M → M) → Prop
  reads : ∀ key dField, campos key = some dField → Reads dField (valor key)
  baixas : ∀ key, 128 ≤ key → campos key = none

inductive Gramatica.Campo (g : Gramatica campos) : List UInt8 → (M → M) → Prop
  | conhecido {k w : List UInt8} {key : Nat} {u : M → M} (chave : VarintDe 5 k key)
      (known : (campos key).isSome) (valor : g.valor key w u) : g.Campo (k ++ w) u
  | ignorado {k w : List UInt8} {key : Nat} (chave : VarintDe 5 k key)
      (unknown : campos key = none) (valor : Ignorado key w) : g.Campo (k ++ w) id

/-- The value of a field of one type, and where it goes. -/
def Poe (L : List UInt8 → V → Prop) (poe : V → M → M) (w : List UInt8) (u : M → M) : Prop :=
  ∃ v, L w v ∧ u = poe v

theorem reads_campo {read : List UInt8 → Option (V × List UInt8)} {L : List UInt8 → V → Prop}
    (h : Reads read L) (poe : V → M → M) : Reads (campo read poe) (Poe L poe) :=
  h.map poe

theorem reads_salta {skip : List UInt8 → Option (List UInt8)} {P : List UInt8 → Prop}
    (h : Skips skip P) : Reads (salta skip) fun w (u : M → M) => P w ∧ u = id :=
  h.reads id

/-- What `dg_read_field_def` does after the key of a field that is not known. -/
def dgSalta (key : Nat) : Leitor M := fun rest =>
  match key % 8 with
  | 0 => salta skipVarint rest
  | 1 => salta skip64 rest
  | 2 => salta skipLengthDelimited rest
  | 3 => salta (skipGroup (key / 8)) rest
  | 5 => salta skip32 rest
  | _ => none

theorem reads_dgSalta (key : Nat) :
    Reads (dgSalta key) fun w (u : M → M) => Ignorado key w ∧ u = id := by
  intro bs u rest
  constructor
  · intro found
    unfold dgSalta at found
    split at found
    · next tipo =>
        obtain ⟨w, rfl, ⟨v, varint⟩, rfl⟩ := (reads_salta skips_varint _ _ _).1 found
        exact ⟨w, rfl, .varint tipo varint, rfl⟩
    · next tipo =>
        obtain ⟨w, rfl, ⟨_, rfl, length⟩, rfl⟩ := (reads_salta (reads_take 8).skip _ _ _).1 found
        exact ⟨_, rfl, .bits64 tipo length, rfl⟩
    · next tipo =>
        obtain ⟨w, rfl, ⟨v, bytes⟩, rfl⟩ := (reads_salta reads_bytes.skip _ _ _).1 found
        exact ⟨w, rfl, .bytes tipo bytes, rfl⟩
    · next tipo =>
        obtain ⟨w, rfl, ⟨g, fim, rfl, grupo, ends⟩, rfl⟩ :=
          (reads_salta (skips_group _) _ _ _).1 found
        exact ⟨_, rfl, .grupo tipo grupo ends, rfl⟩
    · next tipo =>
        obtain ⟨w, rfl, ⟨_, rfl, length⟩, rfl⟩ := (reads_salta (reads_take 4).skip _ _ _).1 found
        exact ⟨_, rfl, .bits32 tipo length, rfl⟩
    · cases found
  · rintro ⟨w, rfl, ignored, rfl⟩
    unfold dgSalta
    cases ignored with
    | varint tipo valor =>
        simp only [tipo]
        exact (reads_salta skips_varint).of_word ⟨⟨_, valor⟩, rfl⟩ rest
    | bits64 tipo valor =>
        simp only [tipo]
        exact (reads_salta (reads_take 8).skip).of_word ⟨⟨w, rfl, valor⟩, rfl⟩ rest
    | bytes tipo valor =>
        simp only [tipo]
        exact (reads_salta reads_bytes.skip).of_word ⟨⟨_, valor⟩, rfl⟩ rest
    | grupo tipo grupo ends =>
        simp only [tipo]
        exact (reads_salta (skips_group _)).of_word ⟨⟨_, _, rfl, grupo, ends⟩, rfl⟩ rest
    | bits32 tipo valor =>
        simp only [tipo]
        exact (reads_salta (reads_take 4).skip).of_word ⟨⟨w, rfl, valor⟩, rfl⟩ rest

/-- The reader of what follows a key. -/
def dgValor (campos : Campos M) (key : Nat) : Leitor M :=
  match campos key with
  | some dField => dField
  | none => dgSalta key

theorem dgReadFieldDef_eq (campos : Campos M) (bin : List UInt8) :
    dgReadFieldDef campos bin = (dVarint 25 bin 0 0).bind fun p => dgValor campos p.1 p.2 := by
  refine congrArg _ (funext fun p => ?_)
  obtain ⟨key, rest⟩ := p
  cases known : campos key <;> simp only [dgValor, known]
  rfl

namespace Gramatica

variable (g : Gramatica campos)

theorem reads_dgValor (key : Nat) : Reads (dgValor campos key) fun w u =>
    ((campos key).isSome ∧ g.valor key w u) ∨ (campos key = none ∧ Ignorado key w ∧ u = id) := by
  cases known : campos key with
  | some dField =>
      simp only [dgValor, known]
      exact (g.reads key dField known).congr fun w u => by simp
  | none =>
      simp only [dgValor, known]
      exact (reads_dgSalta key).congr fun w u => by simp

theorem reads_dg : Reads (dgReadFieldDef campos) g.Campo := by
  have fields : Reads _ g.Campo := (reads_key.bind g.reads_dgValor).congr fun w u => by
    constructor
    · rintro ⟨key, k, v, rfl, chave, ⟨known, valor⟩ | ⟨unknown, valor, rfl⟩⟩
      · exact .conhecido chave known valor
      · exact .ignorado chave unknown valor
    · intro field
      cases field with
      | conhecido chave known valor => exact ⟨_, _, _, rfl, chave, .inl ⟨known, valor⟩⟩
      | ignorado chave unknown valor => exact ⟨_, _, _, rfl, chave, .inr ⟨unknown, valor, rfl⟩⟩
  intro bs
  rw [dgReadFieldDef_eq]
  exact fields bs

/-- The look at the first byte makes no difference. -/
theorem dfp_eq_dg (g : Gramatica campos) (bin : List UInt8) :
    dfpReadFieldDef campos bin = dgReadFieldDef campos bin := by
  cases bin with
  | nil => rfl
  | cons b rest =>
      rw [dfpReadFieldDef]
      cases known : campos b.toNat with
      | none => rfl
      | some dField =>
          have low : b.toNat < 128 := by
            by_contra high
            rw [g.baixas _ (by omega)] at known
            cases known
          have key : dVarint 25 (b :: rest) 0 0 = some (b.toNat, rest) := by
            rw [dVarint, if_neg (by omega), Nat.mod_eq_of_lt low]
            rfl
          rw [dgReadFieldDef_eq, key, Option.bind_some]
          simp only [dgValor, known]

theorem reads_dfp : Reads (dfpReadFieldDef campos) g.Campo := by
  intro bs
  rw [g.dfp_eq_dg]
  exact g.reads_dg bs

theorem campo_ne_nil {w : List UInt8} {u : M → M} (h : g.Campo w u) : w ≠ [] := by
  cases h with
  | conhecido chave _ _ => exact List.append_ne_nil_of_left_ne_nil chave.1.ne_nil _
  | ignorado chave _ _ => exact List.append_ne_nil_of_left_ne_nil chave.1.ne_nil _

/-- A message is decoded if and only if it is a list of fields, one after another, and the decoded
message is what they do in that order. -/
theorem decodeMsg_eq_some {undef m : M} {bin : List UInt8} :
    decodeMsg campos undef bin = some m ↔
      ∃ us, Text g.Campo bin us ∧ m = us.foldl (fun m u => u m) undef :=
  fold_eq_some g.reads_dfp (fun _ _ => g.campo_ne_nil) (Nat.le_refl _)

end Gramatica

end PeerLanding.Gpb
