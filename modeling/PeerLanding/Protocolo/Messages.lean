import PeerLanding.Protocolo.Fields

/-! The six messages of `protocolo.proto`: which bytes are decoded, and as what. -/

namespace PeerLanding.Gpb

open Words

/-! ### Messages by their names -/

inductive MsgName where
  | mensagem
  | exchangeRequest
  | exchangeReply
  | authReq
  | authRep
  | reply
  deriving DecidableEq

namespace MsgName

abbrev Msg : MsgName → Type
  | mensagem => Mensagem
  | exchangeRequest => ExchangeRequest
  | exchangeReply => ExchangeReply
  | authReq => AuthReq
  | authRep => AuthRep
  | reply => Reply

def undef : ∀ n : MsgName, n.Msg
  | mensagem => {}
  | exchangeRequest => {}
  | exchangeReply => {}
  | authReq => {}
  | authRep => {}
  | reply => {}

def campos : ∀ n : MsgName, Campos n.Msg
  | mensagem => camposMensagem
  | exchangeRequest => camposExchangeRequest
  | exchangeReply => camposExchangeReply
  | authReq => camposAuthReq
  | authRep => camposAuthRep
  | reply => camposReply

end MsgName

def decodeMsg2Doit : ∀ n : MsgName, List UInt8 → Option n.Msg
  | .mensagem => decodeMsgMensagem
  | .exchangeRequest => decodeMsgExchangeRequest
  | .exchangeReply => decodeMsgExchangeReply
  | .authReq => decodeMsgAuthReq
  | .authRep => decodeMsgAuthRep
  | .reply => decodeMsgReply

def mergeMsgs : ∀ n : MsgName, n.Msg → n.Msg → Option n.Msg
  | .mensagem => fun prev new => some (mergeMsgMensagem prev new)
  | .exchangeRequest => mergeMsgExchangeRequest
  | .exchangeReply => fun prev new => some (mergeMsgExchangeReply prev new)
  | .authReq => fun prev new => some (mergeMsgAuthReq prev new)
  | .authRep => fun prev new => some (mergeMsgAuthRep prev new)
  | .reply => fun prev new => some (mergeMsgReply prev new)

theorem decodeMsg2Doit_eq (n : MsgName) : decodeMsg2Doit n = decodeMsg n.campos n.undef := by
  cases n <;> rfl

/-! ### Their fields -/

/-- A message inside another one is a length and the bytes of that message. -/
def Submensagem (w : List UInt8) (m : Mensagem) : Prop :=
  ∃ bs, Bytes w bs ∧ decodeMsgMensagem bs = some m

theorem reads_submensagem : Reads dMensagem Submensagem := by
  intro bin m rest
  simp only [dMensagem, bind, pure, Option.bind_eq_some_iff, Prod.exists, Option.some.injEq,
    Prod.mk.injEq]
  constructor
  · rintro ⟨bs, _, taken, _, decoded, rfl, rfl⟩
    obtain ⟨w, whole, bytes⟩ := (reads_bytes _ _ _).1 taken
    exact ⟨w, whole, bs, bytes, decoded⟩
  · rintro ⟨w, rfl, bs, bytes, decoded⟩
    exact ⟨bs, rest, reads_bytes.of_word bytes rest, m, decoded, rfl, rfl⟩

/-- What a value of the field with this key does to the message. -/
def MsgName.valor : ∀ n : MsgName, Nat → List UInt8 → (n.Msg → n.Msg) → Prop
  | mensagem, 10 => Poe Texto Mensagem.poeTipo
  | mensagem, 21 => Poe Real Mensagem.poeJuro
  | mensagem, 24 => Poe Inteiro Mensagem.poeQuantia
  | mensagem, 34 => Poe Texto Mensagem.poeEmpresa
  | mensagem, 42 => Poe Texto Mensagem.poeInvestidor
  | exchangeRequest, 10 => Poe Submensagem ExchangeRequest.poeMensagem
  | exchangeRequest, 18 => Poe Bytes ExchangeRequest.poePid
  | exchangeReply, 8 => Poe Logico ExchangeReply.poeSucesso
  | authReq, 10 => Poe Texto AuthReq.poeUsername
  | authReq, 18 => Poe Texto AuthReq.poePassword
  | authRep, 8 => Poe Logico AuthRep.poeSucesso
  | authRep, 16 => Poe Inteiro AuthRep.poeTipo
  | reply, 8 => Poe Logico Reply.poeSucesso
  | _, _ => fun _ _ => False

namespace MsgName

theorem reads_valor (n : MsgName) {key : Nat} {dField : Leitor n.Msg}
    (known : n.campos key = some dField) : Reads dField (n.valor key) := by
  cases n with
  | mensagem =>
      change camposMensagem key = some dField at known
      unfold camposMensagem at known
      split at known <;> cases known
      · exact reads_campo reads_texto _
      · exact reads_campo reads_real _
      · exact reads_campo reads_inteiro _
      · exact reads_campo reads_texto _
      · exact reads_campo reads_texto _
  | exchangeRequest =>
      change camposExchangeRequest key = some dField at known
      unfold camposExchangeRequest at known
      split at known <;> cases known
      · exact reads_campo reads_submensagem _
      · exact reads_campo reads_bytes _
  | exchangeReply =>
      change camposExchangeReply key = some dField at known
      unfold camposExchangeReply at known
      split at known <;> cases known
      exact reads_campo reads_logico _
  | authReq =>
      change camposAuthReq key = some dField at known
      unfold camposAuthReq at known
      split at known <;> cases known
      · exact reads_campo reads_texto _
      · exact reads_campo reads_texto _
  | authRep =>
      change camposAuthRep key = some dField at known
      unfold camposAuthRep at known
      split at known <;> cases known
      · exact reads_campo reads_logico _
      · exact reads_campo reads_inteiro _
  | reply =>
      change camposReply key = some dField at known
      unfold camposReply at known
      split at known <;> cases known
      exact reads_campo reads_logico _

theorem campos_eq_none (n : MsgName) {key : Nat} (high : 128 ≤ key) : n.campos key = none := by
  cases n <;> simp only [campos, camposMensagem, camposExchangeRequest, camposExchangeReply,
    camposAuthReq, camposAuthRep, camposReply] <;> split <;> first | omega | rfl

def gramatica (n : MsgName) : Gramatica n.campos where
  valor := n.valor
  reads _ _ := n.reads_valor
  baixas _ := n.campos_eq_none

/-- The bytes are fields of the message, one after another, and `m` is what they leave. -/
def Diz (n : MsgName) (bin : List UInt8) (m : n.Msg) : Prop :=
  ∃ us, Text n.gramatica.Campo bin us ∧ m = us.foldl (fun m u => u m) n.undef

/-- Fields that the message does not have, one after another. -/
def Desconhecidos (n : MsgName) (bin : List UInt8) : Prop :=
  ∃ us, Text (fun w (_ : Unit) => ∃ k v key, w = k ++ v ∧ VarintDe 5 k key ∧
    n.campos key = none ∧ Ignorado key v) bin us

variable {n : MsgName}

theorem decode_eq_some {bin : List UInt8} {m : n.Msg} :
    decodeMsg2Doit n bin = some m ↔ n.Diz bin m := by
  rw [decodeMsg2Doit_eq]
  exact n.gramatica.decodeMsg_eq_some

theorem Desconhecidos.text {bin : List UInt8} (h : n.Desconhecidos bin) :
    ∃ us, Text n.gramatica.Campo bin us ∧ ∀ m : n.Msg, us.foldl (fun m u => u m) m = m := by
  obtain ⟨units, text⟩ := h
  induction text with
  | nil => exact ⟨[], .nil, fun _ => rfl⟩
  | cons word _ ih =>
      obtain ⟨k, v, key, rfl, chave, unknown, ignored⟩ := word
      obtain ⟨us, later, same⟩ := ih
      exact ⟨id :: us, .cons (.ignorado chave unknown ignored) later, same⟩

theorem decode_append {a : List UInt8} {us : List (n.Msg → n.Msg)}
    (text : Text n.gramatica.Campo a us) (b : List UInt8) :
    decodeMsg2Doit n (a ++ b) =
      fold (dfpReadFieldDef n.campos) (fun m dField => dField m) b.length b
        (us.foldl (fun m u => u m) n.undef) := by
  rw [decodeMsg2Doit_eq]
  exact fold_append n.gramatica.reads_dfp (fun _ _ => n.gramatica.campo_ne_nil) text
    (Nat.le_refl _) (Nat.le_refl _)

end MsgName

/-! ### What the decoders do -/

/-- Each decoder accepts the bytes that are fields, one after another, and no others; a field that
is known does what its type and its place say, and the rest do nothing. -/
theorem decodes (n : MsgName) (bin : List UInt8) (m : n.Msg) :
    decodeMsg2Doit n bin = some m ↔ n.Diz bin m :=
  n.decode_eq_some

/-- Decoding every key as a varint comes to the same as looking at its first byte. -/
theorem plainPath (n : MsgName) (bin : List UInt8) :
    decodeMsg2Doit n bin =
      fold (dgReadFieldDef n.campos) (fun m dField => dField m) bin.length bin n.undef := by
  rw [decodeMsg2Doit_eq, decodeMsg, funext n.gramatica.dfp_eq_dg]

/-- Fields that a message does not have may stand between any two of its fields, whatever comes
after them. -/
theorem unknownFields (n : MsgName) {a c : List UInt8} (b : List UInt8)
    (whole : (decodeMsg2Doit n a).isSome) (unknown : n.Desconhecidos c) :
    decodeMsg2Doit n (a ++ (c ++ b)) = decodeMsg2Doit n (a ++ b) := by
  obtain ⟨m, decoded⟩ := Option.isSome_iff_exists.1 whole
  obtain ⟨us, text, -⟩ := MsgName.decode_eq_some.1 decoded
  obtain ⟨us', text', same⟩ := unknown.text
  rw [← List.append_assoc, MsgName.decode_append (text.append text'), MsgName.decode_append text,
    List.foldl_append, same]

theorem unknownFields_grupo :
    decodeMsg2Doit .mensagem ([10, 1, 97] ++ ([51, 8, 5, 52] ++ [24, 7])) =
      some { tipo := some (.texto "a"), quantia := some 7 } := by
  have group : MsgName.mensagem.Desconhecidos [51, 8, 5, 52] :=
    ⟨[()], .singleton ⟨[51], [8, 5, 52], 51, rfl, ⟨.last (b := 51) (by decide), by decide⟩, rfl,
      .grupo rfl (.cons ⟨.last (b := 8) (by decide), by decide⟩ (by decide)
        (.varint rfl ⟨.last (b := 5) (by decide), by decide⟩) .nil)
        ⟨52, ⟨.last (b := 52) (by decide), by decide⟩, by decide⟩⟩⟩
  rw [unknownFields .mensagem [24, 7] (by decide +kernel) group]
  decide +kernel

end PeerLanding.Gpb
