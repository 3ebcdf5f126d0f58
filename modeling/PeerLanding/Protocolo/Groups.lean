import PeerLanding.Protocolo.Values

/-! `read_group` finds the end of a group by lengths that it adds up as it goes, and cuts the input
there. The lengths are those of the fields it has passed. -/

namespace PeerLanding.Gpb

open Words

/-- What follows the key of a field in a group. Another group is not nested: its start and its end
are fields with nothing in them. -/
inductive Conteudo (key : Nat) : List UInt8 → Prop
  | varint {w : List UInt8} {v : Nat} (tipo : key % 8 = 0) (valor : VarintDe 10 w v) :
      Conteudo key w
  | bits64 {w : List UInt8} (tipo : key % 8 = 1) (valor : w.length = 8) : Conteudo key w
  | bytes {w v : List UInt8} (tipo : key % 8 = 2) (valor : Bytes w v) : Conteudo key w
  | inicio (tipo : key % 8 = 3) : Conteudo key []
  | fim (tipo : key % 8 = 4) : Conteudo key []
  | bits32 {w : List UInt8} (tipo : key % 8 = 5) (valor : w.length = 4) : Conteudo key w

def Termina (f key : Nat) : Prop := key / 8 = f ∧ key % 8 = 4

instance (f key : Nat) : Decidable (Termina f key) := inferInstanceAs (Decidable (_ ∧ _))

/-- The fields of group `f`, up to its end. -/
inductive Grupo (f : Nat) : List UInt8 → Prop
  | nil : Grupo f []
  | cons {k w rest : List UInt8} {key : Nat} (chave : VarintDe 5 k key)
      (continua : ¬Termina f key) (conteudo : Conteudo key w) (later : Grupo f rest) :
      Grupo f (k ++ (w ++ rest))

def Fim (f : Nat) (w : List UInt8) : Prop := ∃ key, VarintDe 5 w key ∧ Termina f key

variable {f fuel n n' t key : Nat} {bin k tl rest w g : List UInt8}

/-- `read_gr_b` after the key of a field that does not end the group. -/
def readGrField (f fuel key n : Nat) (tl : List UInt8) : Option (Nat × Nat) :=
  match key % 8 with
  | 0 => (grVarint 57 tl 0 0 n).bind fun (_, n, tl) => readGrB f fuel tl n
  | 1 => (take 8 tl).bind fun (_, tl) => readGrB f fuel tl (n + 8)
  | 2 => (grVarint 57 tl 0 0 n).bind fun (len, n, tl) =>
      (take len tl).bind fun (_, tl) => readGrB f fuel tl (n + len)
  | 3 => readGrB f fuel tl n
  | 4 => readGrB f fuel tl n
  | 5 => (take 4 tl).bind fun (_, tl) => readGrB f fuel tl (n + 4)
  | _ => none

theorem readGrB_succ : readGrB f (fuel + 1) bin n = (grVarint 25 bin 0 0 0).bind fun p =>
    if Termina f p.1 then some (n, p.2.1) else readGrField f fuel p.1 (n + p.2.1) p.2.2 := rfl

theorem readGrField_eq_some : readGrField f fuel key n tl = some (n', t) ↔
    ∃ w rest, tl = w ++ rest ∧ Conteudo key w ∧
      readGrB f fuel rest (n + w.length) = some (n', t) := by
  constructor
  · intro found
    unfold readGrField at found
    split at found
    · next tipo =>
        obtain ⟨⟨v, len, rest⟩, read, later⟩ := Option.bind_eq_some_iff.1 found
        obtain ⟨w, rfl, varint, rfl⟩ := grVarint_value.1 read
        exact ⟨w, rest, rfl, .varint tipo varint, later⟩
    · next tipo =>
        obtain ⟨⟨w, rest⟩, read, later⟩ := Option.bind_eq_some_iff.1 found
        obtain ⟨_, rfl, rfl, length⟩ := (reads_take 8 _ _ _).1 read
        exact ⟨w, rest, rfl, .bits64 tipo length, length ▸ later⟩
    · next tipo =>
        obtain ⟨⟨v, len, middle⟩, read, inner⟩ := Option.bind_eq_some_iff.1 found
        obtain ⟨⟨w, rest⟩, read', later⟩ := Option.bind_eq_some_iff.1 inner
        obtain ⟨l, rfl, varint, rfl⟩ := grVarint_value.1 read
        obtain ⟨_, rfl, rfl, rfl⟩ := (reads_take v _ _ _).1 read'
        refine ⟨l ++ w, rest, (List.append_assoc ..).symm, .bytes tipo ⟨l, rfl, varint⟩, ?_⟩
        rw [List.length_append, ← Nat.add_assoc]
        exact later
    · next tipo => exact ⟨[], tl, rfl, .inicio tipo, found⟩
    · next tipo => exact ⟨[], tl, rfl, .fim tipo, found⟩
    · next tipo =>
        obtain ⟨⟨w, rest⟩, read, later⟩ := Option.bind_eq_some_iff.1 found
        obtain ⟨_, rfl, rfl, length⟩ := (reads_take 4 _ _ _).1 read
        exact ⟨w, rest, rfl, .bits32 tipo length, length ▸ later⟩
    · cases found
  · rintro ⟨w, rest, rfl, conteudo, later⟩
    unfold readGrField
    cases conteudo with
    | varint tipo valor =>
        simp only [tipo, grVarint_value.2 ⟨w, rfl, valor, rfl⟩]
        exact later
    | bits64 tipo valor =>
        simp only [tipo, (reads_take 8).of_word ⟨rfl, valor⟩ rest]
        rwa [valor] at later
    | @bytes _ v tipo valor =>
        obtain ⟨l, rfl, length⟩ := valor
        rw [List.length_append, ← Nat.add_assoc] at later
        simp only [tipo, List.append_assoc, grVarint_value.2 ⟨l, rfl, length, rfl⟩,
          Option.bind_some, (reads_take v.length).of_word ⟨rfl, rfl⟩ rest]
        exact later
    | inicio tipo =>
        simp only [tipo]
        exact later
    | fim tipo =>
        simp only [tipo]
        exact later
    | bits32 tipo valor =>
        simp only [tipo, (reads_take 4).of_word ⟨rfl, valor⟩ rest]
        rwa [valor] at later

/-- The two lengths are those of a group and of its end. -/
theorem readGrB_eq_some (enough : bin.length ≤ fuel) : readGrB f fuel bin n = some (n', t) ↔
    ∃ g fim rest, bin = g ++ (fim ++ rest) ∧ Grupo f g ∧ Fim f fim ∧ n' = n + g.length ∧
      t = fim.length := by
  induction fuel generalizing bin n with
  | zero =>
      constructor
      · rintro ⟨⟩
      · rintro ⟨g, fim, rest, rfl, _, ⟨key, ⟨varint, _⟩, _⟩, _⟩
        have some' := varint.length_pos
        simp only [List.length_append] at enough
        omega
  | succ fuel ih =>
      rw [readGrB_succ, Option.bind_eq_some_iff]
      constructor
      · rintro ⟨⟨key, len, tl⟩, read, found⟩
        obtain ⟨k, rfl, chave, rfl⟩ := grVarint_key.1 read
        have some' := chave.1.length_pos
        by_cases ends : Termina f key
        · rw [if_pos ends, Option.some.injEq, Prod.mk.injEq] at found
          obtain ⟨rfl, rfl⟩ := found
          exact ⟨[], k, tl, rfl, .nil, ⟨key, chave, ends⟩, rfl, by simp⟩
        · rw [if_neg ends, readGrField_eq_some] at found
          obtain ⟨w, later, rfl, conteudo, found⟩ := found
          simp only [List.length_append] at enough
          obtain ⟨g, fim, rest, rfl, grupo, ends', rfl, rfl⟩ := (ih (by omega)).1 found
          refine ⟨k ++ (w ++ g), fim, rest, ?_, .cons chave ends conteudo grupo, ends', ?_, rfl⟩
          · simp only [List.append_assoc]
          · simp only [List.length_append]
            omega
      · rintro ⟨g, fim, rest, rfl, grupo, ends, rfl, rfl⟩
        cases grupo with
        | nil =>
            obtain ⟨key, chave, ends⟩ := ends
            exact ⟨_, grVarint_key.2 ⟨fim, rfl, chave, rfl⟩, by simp [ends]⟩
        | @cons k w later key chave continua conteudo grupo =>
            have some' := chave.1.length_pos
            simp only [List.length_append] at enough
            refine ⟨(key, 0 + k.length, w ++ (later ++ (fim ++ rest))), ?_, ?_⟩
            · exact grVarint_key.2 ⟨k, by simp only [List.append_assoc], chave, rfl⟩
            · rw [if_neg continua, readGrField_eq_some]
              refine ⟨w, _, rfl, conteudo, (ih ?_).2 ⟨later, fim, rest, rfl, grupo, ends, ?_, rfl⟩⟩
              · simp only [List.length_append]
                omega
              · simp only [List.length_append]
                omega

/-- `read_group` returns the fields up to the first end of the group and what follows that end,
and fails where there is no such end. -/
theorem readGroup_eq_some : readGroup bin f = some (g, rest) ↔
    ∃ fim, bin = g ++ (fim ++ rest) ∧ Grupo f g ∧ Fim f fim := by
  simp only [readGroup, bind, pure, Option.bind_eq_some_iff, Prod.exists, Option.some.injEq,
    Prod.mk.injEq]
  constructor
  · rintro ⟨n, t, found, g', after, first, fim', last, second, rfl, rfl⟩
    obtain ⟨g'', fim, rest, rfl, grupo, ends, rfl, rfl⟩ :=
      (readGrB_eq_some (Nat.le_refl _)).1 found
    rw [Nat.zero_add, (reads_take g''.length).of_word ⟨rfl, rfl⟩ (fim ++ rest)] at first
    cases first
    rw [(reads_take fim.length).of_word ⟨rfl, rfl⟩ rest] at second
    cases second
    exact ⟨_, rfl, grupo, ends⟩
  · rintro ⟨fim, rfl, grupo, ends⟩
    refine ⟨g.length, fim.length, ?_, g, fim ++ rest, ?_, fim, rest, ?_, rfl, rfl⟩
    · exact (readGrB_eq_some (Nat.le_refl _)).2 ⟨g, fim, rest, rfl, grupo, ends, by simp, rfl⟩
    · exact (reads_take g.length).of_word ⟨rfl, rfl⟩ _
    · exact (reads_take fim.length).of_word ⟨rfl, rfl⟩ _

theorem skips_group (f : Nat) :
    Skips (skipGroup f) fun w => ∃ g fim, w = g ++ fim ∧ Grupo f g ∧ Fim f fim := by
  intro bs rest
  simp only [skipGroup, Option.map_eq_some_iff, Prod.exists]
  constructor
  · rintro ⟨g, _, found, rfl⟩
    obtain ⟨fim, rfl, grupo, ends⟩ := readGroup_eq_some.1 found
    exact ⟨g ++ fim, (List.append_assoc ..).symm, g, fim, rfl, grupo, ends⟩
  · rintro ⟨_, rfl, g, fim, rfl, grupo, ends⟩
    exact ⟨g, rest, readGroup_eq_some.2 ⟨fim, List.append_assoc .., grupo, ends⟩, rfl⟩

end PeerLanding.Gpb
