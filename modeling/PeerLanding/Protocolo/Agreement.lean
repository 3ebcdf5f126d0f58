import PeerLanding.Framing
import PeerLanding.Protocolo.RoundTrip

/-! The code of `protocolo.erl` and the wire format: its encoders write the fields of a message,
and its decoders end a packet exactly where it ends between two fields. -/

namespace PeerLanding.Gpb

open Words Chunks Frontend

variable {V γ δ : Type} {n : MsgName} {bin out mid : List UInt8}

/-- Of a text that could not be decoded a session only knows that it is none. -/
def Unicode.termo : Unicode → Termo
  | .texto s => .texto s
  | .erro _ => .outro

def AuthReq.termos (m : AuthReq) : Frontend.AuthReq where
  username := (m.username.map Unicode.termo).getD .outro
  password := (m.password.map Unicode.termo).getD .outro

def Mensagem.termos (m : Mensagem) : Decodificada Binary32 where
  tipo := (m.tipo.map Unicode.termo).getD .outro
  juro := m.juro
  quantia := m.quantia
  empresa := m.empresa.map Unicode.termo
  investidor := m.investidor.map Unicode.termo

/-- `protocolo:decode_msg` as a session calls it. -/
def protocolo : Protocolo (List UInt8) Binary32 where
  authReq packet := (decodeMsgAuthReq packet).map AuthReq.termos
  mensagem packet := (decodeMsgMensagem packet).map Mensagem.termos

/-! ### Encoders -/

/-- `out` is `bin` and these fields. -/
def Anexa (bin out : List UInt8) (fs : List Wire.Field) : Prop :=
  out = bin ++ fs.flatMap Wire.Field.encode

namespace Anexa

open Wire

theorem trans {fs gs : List Field} (h : Anexa bin mid fs) (h' : Anexa mid out gs) :
    Anexa bin out (fs ++ gs) := by
  rw [Anexa] at h h' ⊢
  rw [h', h, List.flatMap_append, List.append_assoc]

theorem singleton {key : List UInt8} {f : Field} {w : List UInt8} (h : out = bin ++ key ++ w)
    (whole : f.encode = key ++ w) : Anexa bin out [f] := by
  rw [Anexa, List.flatMap_singleton, whole, h, List.append_assoc]

variable {key : UInt8}

theorem texto (number : Nat) {s : Unicode} (h : eTypeString s (bin ++ [key]) = some out)
    (hk : Wire.varint (8 * number + 2) = [key]) :
    Anexa bin out (string.put number s.termo.encode) := by
  cases s with
  | erro _ => cases h
  | texto s =>
      cases h
      exact singleton (eTypeBytes_eq _ _) (congrArg (· ++ _) hk)

theorem inteiro (number : Nat) (v : Int32) (hk : Wire.varint (8 * number) = [key]) :
    Anexa bin (eTypeInt32 v (bin ++ [key])) (int32.put number (some v)) :=
  singleton (eTypeInt32_eq v _) (congrArg (· ++ _) hk)

theorem optional {e : V → Option (List UInt8)} (fields : Option V → List Field) (f : Option V)
    (none_eq : fields none = []) (field : ∀ v out, e v = some out → Anexa bin out (fields (some v)))
    (written : opcional f e bin = some out) : Anexa bin out (fields f) := by
  cases f with
  | none =>
      cases written
      rw [none_eq, Anexa, List.flatMap_nil, List.append_nil]
  | some v => exact field v out written

end Anexa

section Encoders

open Wire Anexa

end Encoders

/-! ### Decoders -/

section Decoders

open Wire

/-- Short enough for a decoder. -/
structure Curto (f : Field) : Prop where
  number : f.number < 2 ^ 32
  varint : ∀ v, f.value = .varint v → v < 2 ^ 70
  encode : f.encode.length < 2 ^ 70

theorem varintDe_key {x : Nat} (small : x < 2 ^ 35) : VarintDe 5 (Wire.varint x) x :=
  ⟨varint_varint x, length_varint_le (k := 4) small⟩

def efeitoMensagem : Field → Mensagem → Mensagem
  | ⟨1, .bytes bs⟩ => Mensagem.poeTipo (charactersToList bs)
  | ⟨2, .fixed32 b₀ b₁ b₂ b₃⟩ => Mensagem.poeJuro (.intBitsToFloat
      (b₀.toNat + 2 ^ 8 * b₁.toNat + 2 ^ 16 * b₂.toNat + 2 ^ 24 * b₃.toNat))
  | ⟨3, .varint v⟩ => Mensagem.poeQuantia (.ofInt v)
  | ⟨4, .bytes bs⟩ => Mensagem.poeEmpresa (charactersToList bs)
  | ⟨5, .bytes bs⟩ => Mensagem.poeInvestidor (charactersToList bs)
  | _ => id

def efeitoAuthReq : Field → AuthReq → AuthReq
  | ⟨1, .bytes bs⟩ => AuthReq.poeUsername (charactersToList bs)
  | ⟨2, .bytes bs⟩ => AuthReq.poePassword (charactersToList bs)
  | _ => id

def chave : Field → Nat
  | ⟨number, .varint _⟩ => 8 * number
  | ⟨number, .bytes _⟩ => 8 * number + 2
  | ⟨number, .fixed32 ..⟩ => 8 * number + 5

def corpo : Field → List UInt8
  | ⟨_, .varint v⟩ => Wire.varint v
  | ⟨_, .bytes bs⟩ => Wire.varint bs.length ++ bs
  | ⟨_, .fixed32 b₀ b₁ b₂ b₃⟩ => [b₀, b₁, b₂, b₃]

theorem encode_eq (f : Field) : f.encode = Wire.varint (chave f) ++ corpo f := by
  obtain ⟨number, value⟩ := f
  cases value <;> rfl

theorem chave_varint {f : Field} {k : Nat} (h : chave f = 8 * k) : ∃ v, f = ⟨k, .varint v⟩ := by
  obtain ⟨number, value⟩ := f
  cases value with
  | varint v => exact ⟨v, by simp only [chave] at h; congr; omega⟩
  | bytes _ => simp only [chave] at h; omega
  | fixed32 _ _ _ _ => simp only [chave] at h; omega

theorem chave_bytes {f : Field} {k : Nat} (h : chave f = 8 * k + 2) : ∃ bs, f = ⟨k, .bytes bs⟩ := by
  obtain ⟨number, value⟩ := f
  cases value with
  | varint _ => simp only [chave] at h; omega
  | bytes bs => exact ⟨bs, by simp only [chave] at h; congr; omega⟩
  | fixed32 _ _ _ _ => simp only [chave] at h; omega

theorem chave_fixed32 {f : Field} {k : Nat} (h : chave f = 8 * k + 5) :
    ∃ b₀ b₁ b₂ b₃, f = ⟨k, .fixed32 b₀ b₁ b₂ b₃⟩ := by
  obtain ⟨number, value⟩ := f
  cases value with
  | varint _ => simp only [chave] at h; omega
  | bytes _ => simp only [chave] at h; omega
  | fixed32 b₀ b₁ b₂ b₃ => exact ⟨b₀, b₁, b₂, b₃, by simp only [chave] at h; congr; omega⟩

theorem Curto.chave {f : Field} (short : Curto f) :
    VarintDe 5 (Wire.varint (chave f)) (chave f) := by
  have number := short.number
  obtain ⟨number, value⟩ := f
  cases value <;> exact varintDe_key (by simp only [Gpb.chave] at *; omega)

theorem Curto.inteiro {number v : Nat} (short : Curto ⟨number, .varint v⟩) :
    VarintDe 10 (corpo ⟨number, .varint v⟩) v :=
  varintDe_varint (short.varint v rfl)

theorem Curto.bytes {number : Nat} {bs : List UInt8} (short : Curto ⟨number, .bytes bs⟩) :
    Bytes (corpo ⟨number, .bytes bs⟩) bs := by
  have length := short.encode
  simp only [Field.encode, List.length_append] at length
  exact ⟨_, rfl, varintDe_varint (by omega)⟩

theorem Curto.ignorado {f : Field} (short : Curto f) (unknown : n.campos (Gpb.chave f) = none) :
    n.gramatica.Campo f.encode id := by
  rw [encode_eq]
  refine .ignorado short.chave unknown ?_
  obtain ⟨number, value⟩ := f
  cases value with
  | varint v => exact .varint (by simp [Gpb.chave]) short.inteiro.1
  | bytes bs => exact .bytes (by simp [Gpb.chave]) short.bytes
  | fixed32 b₀ b₁ b₂ b₃ => exact .bits32 (by simp [Gpb.chave]) rfl

theorem Curto.conhecido {f : Field} {u : n.Msg → n.Msg} (short : Curto f)
    (known : (n.campos (Gpb.chave f)).isSome) (value : n.valor (Gpb.chave f) (corpo f) u) :
    n.gramatica.Campo f.encode u := by
  rw [encode_eq]
  exact .conhecido short.chave known value

theorem campo_mensagem (f : Field) (short : Curto f) :
    MsgName.mensagem.gramatica.Campo f.encode (efeitoMensagem f) := by
  unfold efeitoMensagem
  split
  · exact short.conhecido (n := .mensagem) rfl ⟨_, ⟨_, short.bytes, rfl⟩, rfl⟩
  · exact short.conhecido (n := .mensagem) rfl ⟨_, ⟨_, _, _, _, rfl, rfl⟩, rfl⟩
  · exact short.conhecido (n := .mensagem) rfl ⟨_, ⟨_, short.inteiro, rfl⟩, rfl⟩
  · exact short.conhecido (n := .mensagem) rfl ⟨_, ⟨_, short.bytes, rfl⟩, rfl⟩
  · exact short.conhecido (n := .mensagem) rfl ⟨_, ⟨_, short.bytes, rfl⟩, rfl⟩
  · next tipo juro quantia empresa investidor =>
      refine short.ignorado (n := .mensagem) ?_
      change camposMensagem _ = none
      unfold camposMensagem
      split
      · next key =>
          obtain ⟨bs, rfl⟩ := chave_bytes (k := 1) key
          exact (tipo bs rfl).elim
      · next key =>
          obtain ⟨b₀, b₁, b₂, b₃, rfl⟩ := chave_fixed32 (k := 2) key
          exact (juro b₀ b₁ b₂ b₃ rfl).elim
      · next key =>
          obtain ⟨v, rfl⟩ := chave_varint (k := 3) key
          exact (quantia v rfl).elim
      · next key =>
          obtain ⟨bs, rfl⟩ := chave_bytes (k := 4) key
          exact (empresa bs rfl).elim
      · next key =>
          obtain ⟨bs, rfl⟩ := chave_bytes (k := 5) key
          exact (investidor bs rfl).elim
      · rfl

theorem campo_authReq (f : Field) (short : Curto f) :
    MsgName.authReq.gramatica.Campo f.encode (efeitoAuthReq f) := by
  unfold efeitoAuthReq
  split
  · exact short.conhecido (n := .authReq) rfl ⟨_, ⟨_, short.bytes, rfl⟩, rfl⟩
  · exact short.conhecido (n := .authReq) rfl ⟨_, ⟨_, short.bytes, rfl⟩, rfl⟩
  · next username password =>
      refine short.ignorado (n := .authReq) ?_
      change camposAuthReq _ = none
      unfold camposAuthReq
      split
      · next key =>
          obtain ⟨bs, rfl⟩ := chave_bytes (k := 1) key
          exact (username bs rfl).elim
      · next key =>
          obtain ⟨bs, rfl⟩ := chave_bytes (k := 2) key
          exact (password bs rfl).elim
      · rfl

/-! A packet of a stream of fields -/

section Packets

variable {efeito : Field → n.Msg → n.Msg} {fs gs : List Field} {packet rest : List UInt8}

theorem text_fields (campo : ∀ f, Curto f → n.gramatica.Campo f.encode (efeito f))
    (short : ∀ f ∈ fs, Curto f) :
    Text n.gramatica.Campo (fs.flatMap Field.encode) (fs.map efeito) := by
  induction fs with
  | nil => exact .nil
  | cons f fs ih =>
      exact .cons (campo f (short f List.mem_cons_self)) (ih fun g hg =>
        short g (List.mem_cons_of_mem f hg))

/-- A packet that is decoded ends between two fields. -/
theorem packet_ends (campo : ∀ f, Curto f → n.gramatica.Campo f.encode (efeito f))
    (short : ∀ f ∈ fs, Curto f) {us : List (n.Msg → n.Msg)}
    (text : Text n.gramatica.Campo packet us) (stream : packet ++ rest = fs.flatMap Field.encode) :
    ∃ gs : List Field, packet = gs.flatMap Field.encode := by
  induction text generalizing fs with
  | nil => exact ⟨[], rfl⟩
  | @cons w later u us word _ ih =>
      rw [List.append_assoc] at stream
      cases fs with
      | nil => exact absurd (List.append_eq_nil_iff.1 stream).1 (n.gramatica.campo_ne_nil word)
      | cons f fs =>
          rw [List.flatMap_cons] at stream
          obtain ⟨-, rfl, remaining⟩ :=
            n.gramatica.reads_dfp.unique word (campo f (short f List.mem_cons_self)) stream
          obtain ⟨gs, rfl⟩ := ih (fun g hg => short g (List.mem_cons_of_mem f hg)) remaining
          exact ⟨f :: gs, rfl⟩

theorem decode_packet (campo : ∀ f, Curto f → n.gramatica.Campo f.encode (efeito f))
    (short : ∀ f ∈ fs, Curto f) (stream : packet ++ rest = fs.flatMap Field.encode) :
    decodeMsg2Doit n packet = (readFuel readField packet.length packet).map fun gs =>
      gs.foldl (fun m f => efeito f m) n.undef := by
  cases found : readFuel readField packet.length packet with
  | some gs =>
      obtain ⟨later, rfl, whole, -⟩ := fields_of_chunk selfDelimiting stream found
      have text : Text n.gramatica.Campo (gs.flatMap Field.encode) (gs.map efeito) :=
        text_fields campo fun f hf => short f (List.mem_append_left _ hf)
      rw [Option.map_some, MsgName.decode_eq_some]
      exact ⟨gs.map efeito, whole ▸ text, by rw [List.foldl_map]⟩
  | none =>
      rw [Option.map_none, Option.eq_none_iff_forall_ne_some]
      intro m decoded
      obtain ⟨us, text, -⟩ := MsgName.decode_eq_some.1 decoded
      obtain ⟨gs, rfl⟩ := packet_ends campo short text stream
      rw [readFuel_flatMap selfDelimiting gs _ (Nat.le_refl _)] at found
      cases found

end Packets

/-! What the fields leave is what the last of each number says. -/

section Values

theorem get_singleton (t : FieldType γ δ) (number : Nat) (f : Field) :
    t.get number [f] = if f.number = number then t.read f.value else none := by
  rw [FieldType.get, List.filterMap_cons]
  split <;> simp_all

theorem string_get_eq_none {number : Nat} {f : Field}
    (absent : ∀ bs, f = ⟨number, .bytes bs⟩ → False) : string.get number [f] = none := by
  obtain ⟨k, value⟩ := f
  rw [get_singleton, ite_eq_right_iff]
  rintro rfl
  cases value with
  | bytes bs => exact (absent bs rfl).elim
  | varint _ => rfl
  | fixed32 _ _ _ _ => rfl

theorem int32_get_eq_none {number : Nat} {f : Field}
    (absent : ∀ v, f = ⟨number, .varint v⟩ → False) : int32.get number [f] = none := by
  obtain ⟨k, value⟩ := f
  rw [get_singleton, ite_eq_right_iff]
  rintro rfl
  cases value with
  | bytes _ => rfl
  | varint v => exact (absent v rfl).elim
  | fixed32 _ _ _ _ => rfl

theorem float_get_eq_none {number : Nat} {f : Field}
    (absent : ∀ b₀ b₁ b₂ b₃, f = ⟨number, .fixed32 b₀ b₁ b₂ b₃⟩ → False) :
    float.get number [f] = none := by
  obtain ⟨k, value⟩ := f
  rw [get_singleton, ite_eq_right_iff]
  rintro rfl
  cases value with
  | bytes _ => rfl
  | varint _ => rfl
  | fixed32 b₀ b₁ b₂ b₃ => exact (absent b₀ b₁ b₂ b₃ rfl).elim

theorem string_get_bytes (number : Nat) (bs : List UInt8) :
    string.get number [⟨number, .bytes bs⟩] = some (charactersToList bs).termo := by
  rw [get_singleton, if_pos rfl, charactersToList]
  cases read : String.fromUTF8? ⟨bs.toArray⟩ <;> simp [string, read, Unicode.termo]

theorem foldl_get {M : Type} {efeito : Field → M → M} (t : FieldType γ δ) (number : Nat)
    (proj : M → Option δ) (one : ∀ f m, proj (efeito f m) = (t.get number [f]).or (proj m))
    (fs : List Field) (m : M) :
    proj (fs.foldl (fun m f => efeito f m) m) = (t.get number fs).or (proj m) := by
  induction fs generalizing m with
  | nil => rfl
  | cons f fs ih =>
      rw [List.foldl_cons, ih, one, ← Option.or_assoc, ← t.get_append, List.singleton_append]

theorem get_eq {M : Type} {efeito : Field → M → M} (t : FieldType γ δ) (number : Nat)
    (proj : M → Option δ) (one : ∀ f m, proj (efeito f m) = (t.get number [f]).or (proj m))
    {m : M} (absent : proj m = none) (fs : List Field) :
    t.get number fs = proj (fs.foldl (fun m f => efeito f m) m) := by
  rw [foldl_get t number proj one, absent, Option.or_none]

theorem tipo_efeito (f : Field) (m : Mensagem) :
    (efeitoMensagem f m).tipo.map Unicode.termo =
      (string.get 1 [f]).or (m.tipo.map Unicode.termo) := by
  unfold efeitoMensagem
  split
  · rw [string_get_bytes]
    rfl
  · rfl
  · rfl
  · rfl
  · rfl
  · next absent _ _ _ _ =>
      rw [string_get_eq_none absent]
      rfl

theorem juro_efeito (f : Field) (m : Mensagem) :
    (efeitoMensagem f m).juro = (float.get 2 [f]).or m.juro := by
  unfold efeitoMensagem
  split
  · rfl
  · rfl
  · rfl
  · rfl
  · rfl
  · next absent _ _ _ =>
      rw [float_get_eq_none absent]
      rfl

theorem quantia_efeito (f : Field) (m : Mensagem) :
    (efeitoMensagem f m).quantia = (int32.get 3 [f]).or m.quantia := by
  unfold efeitoMensagem
  split
  · rfl
  · rfl
  · rfl
  · rfl
  · rfl
  · next absent _ _ =>
      rw [int32_get_eq_none absent]
      rfl

theorem empresa_efeito (f : Field) (m : Mensagem) :
    (efeitoMensagem f m).empresa.map Unicode.termo =
      (string.get 4 [f]).or (m.empresa.map Unicode.termo) := by
  unfold efeitoMensagem
  split
  · rfl
  · rfl
  · rfl
  · rw [string_get_bytes]
    rfl
  · rfl
  · next absent _ =>
      rw [string_get_eq_none absent]
      rfl

theorem investidor_efeito (f : Field) (m : Mensagem) :
    (efeitoMensagem f m).investidor.map Unicode.termo =
      (string.get 5 [f]).or (m.investidor.map Unicode.termo) := by
  unfold efeitoMensagem
  split
  · rfl
  · rfl
  · rfl
  · rfl
  · rw [string_get_bytes]
    rfl
  · next absent =>
      rw [string_get_eq_none absent]
      rfl

theorem username_efeito (f : Field) (m : AuthReq) :
    (efeitoAuthReq f m).username.map Unicode.termo =
      (string.get 1 [f]).or (m.username.map Unicode.termo) := by
  unfold efeitoAuthReq
  split
  · rw [string_get_bytes]
    rfl
  · rfl
  · next absent _ =>
      rw [string_get_eq_none absent]
      rfl

theorem password_efeito (f : Field) (m : AuthReq) :
    (efeitoAuthReq f m).password.map Unicode.termo =
      (string.get 2 [f]).or (m.password.map Unicode.termo) := by
  unfold efeitoAuthReq
  split
  · rfl
  · rw [string_get_bytes]
    rfl
  · next absent =>
      rw [string_get_eq_none absent]
      rfl

theorem ofFields_mensagem (fs : List Field) : mensagem.ofFields fs =
    some (fs.foldl (fun m f => efeitoMensagem f m) {}).termos := by
  have tipo := get_eq string 1 (fun m : Mensagem => m.tipo.map Unicode.termo) tipo_efeito
    (m := {}) rfl fs
  have juro := get_eq float 2 (fun m : Mensagem => m.juro) juro_efeito (m := {}) rfl fs
  have quantia := get_eq int32 3 (fun m : Mensagem => m.quantia) quantia_efeito (m := {}) rfl fs
  have empresa := get_eq string 4 (fun m : Mensagem => m.empresa.map Unicode.termo) empresa_efeito
    (m := {}) rfl fs
  have investidor := get_eq string 5 (fun m : Mensagem => m.investidor.map Unicode.termo)
    investidor_efeito (m := {}) rfl fs
  simp only [mensagem, tipo, juro, quantia, empresa, investidor]
  rfl

theorem ofFields_authReq (fs : List Field) : authReq.ofFields fs =
    some (fs.foldl (fun m f => efeitoAuthReq f m) {}).termos := by
  have username := get_eq string 1 (fun m : AuthReq => m.username.map Unicode.termo)
    username_efeito (m := {}) rfl fs
  have password := get_eq string 2 (fun m : AuthReq => m.password.map Unicode.termo)
    password_efeito (m := {}) rfl fs
  simp only [authReq, username, password]
  rfl

end Values

end Decoders

/-! ### Sessions -/

section Sessions

open Wire

variable {fs : List Field} {packet rest : List UInt8}

theorem mensagem_packet (short : ∀ f ∈ fs, Curto f)
    (stream : packet ++ rest = fs.flatMap Field.encode) :
    protocolo.mensagem packet = protocolBuffers.protocolo.mensagem packet := by
  have decoded := decode_packet (n := .mensagem) campo_mensagem short stream
  change (decodeMsg2Doit .mensagem packet).map _ =
    (readFuel readField _ packet).bind mensagem.ofFields
  rw [decoded, funext ofFields_mensagem]
  cases readFuel readField packet.length packet <;> rfl

theorem authReq_packet (short : ∀ f ∈ fs, Curto f)
    (stream : packet ++ rest = fs.flatMap Field.encode) :
    protocolo.authReq packet = protocolBuffers.protocolo.authReq packet := by
  have decoded := decode_packet (n := .authReq) campo_authReq short stream
  change (decodeMsg2Doit .authReq packet).map _ =
    (readFuel readField _ packet).bind authReq.ofFields
  rw [decoded, funext ofFields_authReq]
  cases readFuel readField packet.length packet <;> rfl

/-- However a stream of fields is cut, a session decodes the packets as `readField` does. -/
theorem decodificadas_eq (short : ∀ f ∈ fs, Curto f) (estado : Estado) (valores : List Valor)
    {packets : List (List UInt8)} (stream : packets.flatten = fs.flatMap Field.encode) :
    Sessao.decodificadas protocolo estado valores packets =
      Sessao.decodificadas protocolBuffers.protocolo estado valores packets := by
  induction packets generalizing estado valores fs with
  | nil => cases estado <;> rfl
  | cons packet packets ih =>
      rw [List.flatten_cons] at stream
      cases estado with
      | autentica =>
          simp only [Sessao.decodificadas, authReq_packet short stream]
          cases decoded : protocolBuffers.protocolo.authReq packet with
          | none => rfl
          | some m =>
              obtain ⟨gs, found, -⟩ := Option.bind_eq_some_iff.1 decoded
              obtain ⟨later, rfl, -, remaining⟩ := fields_of_chunk selfDelimiting stream found
              cases valores with
              | nil => rfl
              | cons valor valores =>
                  exact congrArg _ (ih (fun f hf => short f (List.mem_append_right _ hf)) _ _
                    remaining)
      | sessao user =>
          simp only [Sessao.decodificadas, mensagem_packet short stream]
          cases decoded : protocolBuffers.protocolo.mensagem packet with
          | none => rfl
          | some m =>
              obtain ⟨gs, found, -⟩ := Option.bind_eq_some_iff.1 decoded
              obtain ⟨later, rfl, -, remaining⟩ := fields_of_chunk selfDelimiting stream found
              exact congrArg _ (ih (fun f hf => short f (List.mem_append_right _ hf)) _ _
                remaining)
      | login _ _ => rfl
      | logout _ => rfl
      | fim => rfl

theorem of_mem_campos {m : Frontend.AuthReq ⊕ Decodificada Binary32} {f : Field}
    (hf : f ∈ protocolBuffers.campos m) :
    f.number < 2 ^ 32 ∧ ∀ v, f.value = .varint v → v < 2 ^ 70 := by
  cases m with
  | inl m =>
      simp only [Protos.campos, protocolBuffers, authReq, FieldType.put, List.mem_append,
        List.mem_map] at hf
      rcases hf with ⟨s, -, rfl⟩ | ⟨s, -, rfl⟩
      all_goals exact ⟨by simp, fun v h => by cases h⟩
  | inr m =>
      simp only [Protos.campos, protocolBuffers, mensagem, FieldType.put, List.mem_append,
        List.mem_map] at hf
      rcases hf with ⟨s, -, rfl⟩ | ⟨x, -, rfl⟩ | ⟨x, -, rfl⟩ | ⟨s, -, rfl⟩ | ⟨s, -, rfl⟩
      · exact ⟨by simp, fun v h => by cases h⟩
      · exact ⟨by simp, fun v h => by cases h⟩
      · refine ⟨by simp, fun v h => ?_⟩
        obtain rfl := Value.varint.inj h
        omega
      · exact ⟨by simp, fun v h => by cases h⟩
      · exact ⟨by simp, fun v h => by cases h⟩

theorem curto_of_stream {sent : List (Frontend.AuthReq ⊕ Decodificada Binary32)}
    (short : (sent.flatMap protocolBuffers.pedido).length < 2 ^ 70) :
    ∀ f ∈ sent.flatMap protocolBuffers.campos, Curto f := by
  intro f hf
  obtain ⟨m, -, inMessage⟩ := List.mem_flatMap.1 hf
  obtain ⟨number, varint⟩ := of_mem_campos inMessage
  have whole : sent.flatMap protocolBuffers.pedido =
      (sent.flatMap protocolBuffers.campos).flatMap Field.encode := List.flatMap_assoc.symm
  rw [whole] at short
  have part := (List.sublist_flatten_of_mem (List.mem_map_of_mem (f := Field.encode) hf)).length_le
  rw [← List.flatMap_def] at part
  exact ⟨number, varint, by omega⟩

end Sessions

/-- A session that decodes with `protocolo.erl` reads the messages that the client wrote if and
only if the packets are the messages. -/
theorem packets {valores : List Valor} {sent : List (Frontend.AuthReq ⊕ Decodificada Binary32)}
    (escreve : Client.Escreve valores sent) {chunks : List (List UInt8)}
    (cut : Cortada protocolBuffers.pedido sent chunks) (short : chunks.flatten.length < 2 ^ 70) :
    Sessao.decodificadas protocolo .autentica valores chunks = sent ↔
      chunks = sent.map protocolBuffers.pedido := by
  have stream := cut.stream
  rw [stream] at short
  rw [decodificadas_eq (curto_of_stream short) _ _ (stream.trans List.flatMap_assoc.symm)]
  constructor
  · intro decoded
    exact Protos.chunks_eq_map (Protos.reads_pedidos protocolBuffers_lawful escreve decoded)
      cut.nonempty stream
  · rintro rfl
    exact Protos.decodificadas_pedidos protocolBuffers_lawful escreve

def serao : List (Frontend.AuthReq ⊕ Decodificada Binary32) :=
  .inl (.de "noite" "mongo") ::
    (Client.menu [.licitar "OreoLda" (.intBitsToFloat 0x3D4CCCCD) 500, .emprestimo "OreoLda" 500]
      true).map (.inr ·.decodificada)

/-- Packet by message all of them are read. When the login and the bid share a packet they are
not. -/
theorem packets_login :
    Sessao.decodificadas Gpb.protocolo .autentica [.tipo 1]
      (serao.map protocolBuffers.pedido) = serao ∧
    Sessao.decodificadas Gpb.protocolo .autentica [.tipo 1]
      ((serao.take 2).flatMap protocolBuffers.pedido ::
        (serao.drop 2).map protocolBuffers.pedido) ≠ serao := by
  have writes : Client.Escreve [.tipo 1] serao := .sucesso "noite" "mongo" 1 _ true
  have some_bytes : ∀ m ∈ serao, protocolBuffers.pedido m ≠ [] := by
    have login (user password : String) : protocolBuffers.pedido (.inl (.de user password)) ≠ [] :=
      Wire.authReq_lawful.encode_ne_nil ⟨user, password, rfl⟩
    have menu (n : PeerLanding.Mensagem Binary32) :
        protocolBuffers.pedido (.inr n.decodificada) ≠ [] :=
      Wire.mensagem_lawful.encode_ne_nil ⟨n, rfl⟩
    simp [serao, Client.menu, login, menu]
  have stream : ((serao.take 2).flatMap protocolBuffers.pedido ::
      (serao.drop 2).map protocolBuffers.pedido).flatten =
        serao.flatMap protocolBuffers.pedido := by
    rw [List.flatten_cons, ← List.flatMap_def, ← List.flatMap_append, List.take_append_drop]
  have short : (serao.flatMap protocolBuffers.pedido).length < 2 ^ 70 := by decide +kernel
  refine ⟨(packets writes (.map some_bytes) ?_).2 rfl, ?_⟩
  · rwa [← List.flatMap_def]
  · have cut : Cortada protocolBuffers.pedido serao
        ((serao.take 2).flatMap protocolBuffers.pedido ::
          (serao.drop 2).map protocolBuffers.pedido) := by
      refine ⟨?_, stream⟩
      simp only [List.mem_cons, forall_eq_or_imp, List.forall_mem_map]
      refine ⟨?_, fun m hm => some_bytes m (List.mem_of_mem_drop hm)⟩
      intro empty
      exact some_bytes _ List.mem_cons_self (List.flatMap_eq_nil_iff.1 empty _ List.mem_cons_self)
    rw [ne_eq, packets writes cut (stream ▸ short)]
    intro same
    exact absurd (congrArg List.length same) (by decide)

end PeerLanding.Gpb
