import PeerLanding.Messages

/-! The connection between a client and its session carries bytes, and neither side marks where
a message ends: each packet, or each `read`, is decoded as one message. -/

namespace PeerLanding.Frontend

open Chunks Exchange

variable {F R Packet : Type}

/-- The code generated from `protocolo.proto`. -/
structure Protos (F R : Type) where
  campo : F → List UInt8
  authReq : Schema UInt8 F AuthReq
  mensagem : Schema UInt8 F (Decodificada R)
  authRep : Schema UInt8 F AuthRep
  reply : Schema UInt8 F Reply

structure Protos.Lawful (protos : Protos F R) : Prop where
  authReq : protos.authReq.Lawful protos.campo
    fun m => ∃ username password, m = .de username password
  mensagem : protos.mensagem.Lawful protos.campo fun m => ∃ n : Mensagem R, m = n.decodificada
  authRep : protos.authRep.Lawful protos.campo fun _ => True
  reply : protos.reply.Lawful protos.campo fun _ => True

namespace Protos

variable (protos : Protos F R)

def protocolo : Protocolo (List UInt8) R where
  authReq := protos.authReq.decode
  mensagem := protos.mensagem.decode

def campos : AuthReq ⊕ Decodificada R → List F
  | .inl authReq => protos.authReq.fields authReq
  | .inr msg => protos.mensagem.fields msg

def pedido (m : AuthReq ⊕ Decodificada R) : List UInt8 := (protos.campos m).flatMap protos.campo

def camposResposta : AuthRep ⊕ Reply → List F
  | .inl authRep => protos.authRep.fields authRep
  | .inr reply => protos.reply.fields reply

def resposta (m : AuthRep ⊕ Reply) : List UInt8 :=
  (protos.camposResposta m).flatMap protos.campo

end Protos

/-! ### What is sent -/

namespace Client

/-- The four requests of the client's menus. -/
inductive Operacao (R : Type) where
  | leilao (juro : R) (quantia : Int32)
  | emissao (quantia : Int32)
  | licitar (empresa : String) (juro : R) (quantia : Int32)
  | emprestimo (empresa : String) (quantia : Int32)

def Operacao.mensagem : Operacao R → Mensagem R
  | .leilao juro quantia => ⟨"leilao", some juro, some quantia, none, none⟩
  | .emissao quantia => ⟨"emissao", none, some quantia, none, none⟩
  | .licitar empresa juro quantia => ⟨"licitar", some juro, some quantia, some empresa, none⟩
  | .emprestimo empresa quantia => ⟨"emprestimo", none, some quantia, some empresa, none⟩

def logout : Mensagem R := ⟨"logout", none, none, none, none⟩

def menu (operacoes : List (Operacao R)) (sai : Bool) : List (Mensagem R) :=
  operacoes.map Operacao.mensagem ++ if sai then [logout] else []

/-- The messages that the client writes when the account manager answers its logins so. -/
inductive Escreve : List Valor → List (AuthReq ⊕ Decodificada R) → Prop where
  | nada : Escreve [] []
  | espera (username password : String) : Escreve [] [.inl (.de username password)]
  | insucesso (username password : String) {valores : List Valor}
      {sent : List (AuthReq ⊕ Decodificada R)} (depois : Escreve valores sent) :
      Escreve (.invalid :: valores) (.inl (.de username password) :: sent)
  | sucesso (username password : String) (tipo : Nat) (operacoes : List (Operacao R))
      (sai : Bool) :
      Escreve [.tipo tipo]
        (.inl (.de username password) :: (menu operacoes sai).map (.inr ·.decodificada))

end Client

/-- The messages that a session writes: refusals until a login is granted, then replies. -/
inductive Sessao.Escreve : List (AuthRep ⊕ Reply) → Prop where
  | nada : Escreve []
  | insucesso {sent : List (AuthRep ⊕ Reply)} (depois : Escreve sent) :
      Escreve (.inl ⟨false, some 0⟩ :: sent)
  | sucesso (tipo : Int32) (respostas : List Bool) :
      Escreve (.inl ⟨true, some tipo⟩ :: respostas.map (.inr ⟨·⟩))

/-! ### What is read -/

/-- The messages that a session decodes, one from each packet, while the account manager
answers `valores`. It ends when it cannot decode a packet. -/
def Sessao.decodificadas (protocolo : Protocolo Packet R) :
    Estado → List Valor → List Packet → List (AuthReq ⊕ Decodificada R)
  | .autentica, valores, packet :: packets =>
      match protocolo.authReq packet with
      | some authReq =>
          .inl authReq ::
            match valores with
            | valor :: valores =>
                let resposta := ⟨.login authReq.username authReq.password, valor⟩
                decodificadas protocolo
                  (Sessao.login (R := R) authReq.username (.gestor resposta : Recado Packet)).1
                  valores packets
            | [] => []
      | none => []
  | .sessao user, valores, packet :: packets =>
      match protocolo.mensagem packet with
      | some msg => .inr msg :: decodificadas protocolo (pedido user msg).1 valores packets
      | none => []
  | _, _, _ => []

/-- What the calls of `Client.recv` give: first the answers to `autenticacao`, until one says
`sucesso`, then those of `getReply`. A response that cannot be parsed gives none. -/
def Client.recebidas (protos : Protos F R) :
    Bool → List (List UInt8) → List (Option (AuthRep ⊕ Reply))
  | _, [] => []
  | false, response :: responses =>
      match protos.authRep.decode response with
      | some authRep => some (.inl authRep) :: recebidas protos authRep.sucesso responses
      | none => none :: recebidas protos false responses
  | true, response :: responses =>
      (protos.reply.decode response).map .inr :: recebidas protos true responses

/-! ### Reading messages that were cut at their ends -/

namespace Sessao

variable {protocolo : Protocolo Packet R}

theorem decodificadas_invalid {user password : String} {packet : Packet}
    {packets : List Packet} {valores : List Valor}
    (read : protocolo.authReq packet = some (.de user password)) :
    decodificadas protocolo .autentica (.invalid :: valores) (packet :: packets) =
      .inl (.de user password) :: decodificadas protocolo .autentica valores packets := by
  simp only [decodificadas, read]
  rfl

theorem decodificadas_tipo {user password : String} {packet : Packet} {packets : List Packet}
    {tipo : Nat} {valores : List Valor}
    (read : protocolo.authReq packet = some (.de user password)) :
    decodificadas protocolo .autentica (.tipo tipo :: valores) (packet :: packets) =
      .inl (.de user password) ::
        decodificadas protocolo (.sessao (.texto user)) valores packets := by
  simp only [decodificadas, read]
  rfl

theorem pedido_operacao (username : Termo) (operacao : Client.Operacao R) :
    (pedido username operacao.mensagem.decodificada).1 = .sessao username := by
  cases operacao <;> rfl

theorem authReq_of_decodificadas {valores : List Valor} {packets : List Packet}
    {user password : String} {sent : List (AuthReq ⊕ Decodificada R)}
    (h : decodificadas protocolo .autentica valores packets = .inl (.de user password) :: sent) :
    ∃ packet rest, packets = packet :: rest ∧
      protocolo.authReq packet = some (.de user password) := by
  cases packets with
  | nil => cases valores <;> cases h
  | cons packet packets =>
      refine ⟨packet, packets, rfl, ?_⟩
      cases read : protocolo.authReq packet with
      | none => simp [decodificadas, read] at h
      | some authReq =>
          simp only [decodificadas, read, List.cons.injEq, Sum.inl.injEq] at h
          exact congrArg some h.1

theorem mensagem_of_decodificadas {username : Termo} {valores : List Valor}
    {packets : List Packet} {msg : Decodificada R} {sent : List (AuthReq ⊕ Decodificada R)}
    (h : decodificadas protocolo (.sessao username) valores packets = .inr msg :: sent) :
    ∃ packet rest, packets = packet :: rest ∧ protocolo.mensagem packet = some msg ∧
      decodificadas protocolo (pedido username msg).1 valores rest = sent := by
  cases packets with
  | nil => cases h
  | cons packet packets =>
      cases read : protocolo.mensagem packet with
      | none => simp [decodificadas, read] at h
      | some found =>
          simp only [decodificadas, read, List.cons.injEq, Sum.inr.injEq] at h
          obtain ⟨rfl, rest⟩ := h
          exact ⟨packet, packets, rfl, read, rest⟩

end Sessao

namespace Protos

variable {protos : Protos F R}

theorem decodificadas_menu (h : protos.Lawful) (user : Termo) (operacoes : List (Client.Operacao R))
    (sai : Bool) :
    Sessao.decodificadas protos.protocolo (.sessao user) []
        (((Client.menu operacoes sai).map (.inr ·.decodificada)).map protos.pedido) =
      (Client.menu operacoes sai).map (.inr ·.decodificada) := by
  have read (n : Mensagem R) :
      protos.protocolo.mensagem (protos.pedido (.inr n.decodificada)) = some n.decodificada :=
    h.mensagem.decode_encode ⟨n, rfl⟩
  induction operacoes with
  | nil =>
      cases sai with
      | false => rfl
      | true => simp [Client.menu, Sessao.decodificadas, read]
  | cons operacao operacoes ih =>
      simp only [Client.menu, List.map_cons, List.cons_append, Sessao.decodificadas, read,
        Sessao.pedido_operacao]
      exact congrArg _ ih

theorem decodificadas_pedidos (h : protos.Lawful) {valores : List Valor}
    {sent : List (AuthReq ⊕ Decodificada R)} (escreve : Client.Escreve valores sent) :
    Sessao.decodificadas protos.protocolo .autentica valores (sent.map protos.pedido) = sent := by
  have read (user password : String) : protos.protocolo.authReq
      (protos.pedido (.inl (.de user password))) = some (.de user password) :=
    h.authReq.decode_encode ⟨user, password, rfl⟩
  induction escreve with
  | nada => rfl
  | espera user password => simp [Sessao.decodificadas, read]
  | insucesso user password depois ih =>
      rw [List.map_cons, Sessao.decodificadas_invalid (read user password), ih]
  | sucesso user password tipo operacoes sai =>
      rw [List.map_cons, Sessao.decodificadas_tipo (read user password), decodificadas_menu h]

theorem reads_menu (h : protos.Lawful) (user : Termo) (operacoes : List (Client.Operacao R))
    (sai : Bool) {chunks : List (List UInt8)}
    (decoded : Sessao.decodificadas protos.protocolo (.sessao user) [] chunks =
      (Client.menu operacoes sai).map (.inr ·.decodificada)) :
    Reads protos.campo
      (((Client.menu operacoes sai).map (.inr ·.decodificada)).map protos.campos) chunks := by
  induction operacoes generalizing chunks with
  | nil =>
      cases sai with
      | false => exact .nil _
      | true =>
          obtain ⟨chunk, rest, rfl, read, _⟩ := Sessao.mensagem_of_decodificadas decoded
          exact .message h.mensagem ⟨_, rfl⟩ read (.nil _)
  | cons operacao operacoes ih =>
      obtain ⟨chunk, rest, rfl, read, decoded⟩ := Sessao.mensagem_of_decodificadas decoded
      rw [Sessao.pedido_operacao] at decoded
      exact .message h.mensagem ⟨_, rfl⟩ read (ih decoded)

theorem reads_pedidos (h : protos.Lawful) {valores : List Valor}
    {sent : List (AuthReq ⊕ Decodificada R)} (escreve : Client.Escreve valores sent)
    {chunks : List (List UInt8)}
    (decoded : Sessao.decodificadas protos.protocolo .autentica valores chunks = sent) :
    Reads protos.campo (sent.map protos.campos) chunks := by
  induction escreve generalizing chunks with
  | nada => exact .nil _
  | espera user password =>
      obtain ⟨chunk, rest, rfl, read⟩ := Sessao.authReq_of_decodificadas decoded
      exact .message h.authReq ⟨user, password, rfl⟩ read (.nil _)
  | insucesso user password depois ih =>
      obtain ⟨chunk, rest, rfl, read⟩ := Sessao.authReq_of_decodificadas decoded
      rw [Sessao.decodificadas_invalid read, List.cons.injEq] at decoded
      exact .message h.authReq ⟨user, password, rfl⟩ read (ih decoded.2)
  | sucesso user password tipo operacoes sai =>
      obtain ⟨chunk, rest, rfl, read⟩ := Sessao.authReq_of_decodificadas decoded
      rw [Sessao.decodificadas_tipo read, List.cons.injEq] at decoded
      exact .message h.authReq ⟨user, password, rfl⟩ read
        (reads_menu h _ operacoes sai decoded.2)

theorem recebidas_replies (h : protos.Lawful) (replies : List Bool) :
    Client.recebidas protos true ((replies.map (.inr ⟨·⟩)).map protos.resposta) =
      (replies.map (.inr ⟨·⟩)).map some := by
  induction replies with
  | nil => rfl
  | cons sucesso replies ih =>
      have read : protos.reply.decode (protos.resposta (.inr ⟨sucesso⟩)) = some ⟨sucesso⟩ :=
        h.reply.decode_encode trivial
      simp only [List.map_cons, Client.recebidas, read, Option.map_some, ih]

theorem recebidas_respostas (h : protos.Lawful) {sent : List (AuthRep ⊕ Reply)}
    (escreve : Sessao.Escreve sent) :
    Client.recebidas protos false (sent.map protos.resposta) = sent.map some := by
  have read (rep : AuthRep) : protos.authRep.decode (protos.resposta (.inl rep)) = some rep :=
    h.authRep.decode_encode trivial
  induction escreve with
  | nada => rfl
  | insucesso depois ih => simp only [List.map_cons, Client.recebidas, read, ih]
  | sucesso tipo replies =>
      rw [List.map_cons, List.map_cons, Client.recebidas, read]
      exact congrArg _ (recebidas_replies h replies)

theorem reads_replies (h : protos.Lawful) {replies : List Bool} {chunks : List (List UInt8)}
    (decoded : Client.recebidas protos true chunks = (replies.map (.inr ⟨·⟩)).map some) :
    Reads protos.campo ((replies.map (.inr ⟨·⟩)).map protos.camposResposta) chunks := by
  induction replies generalizing chunks with
  | nil => exact .nil _
  | cons sucesso replies ih =>
      cases chunks with
      | nil => cases decoded
      | cons chunk chunks =>
          simp only [List.map_cons, Client.recebidas, List.cons.injEq,
            Option.map_eq_some_iff, Sum.inr.injEq] at decoded
          obtain ⟨⟨rep, read, rfl⟩, decoded⟩ := decoded
          exact .message h.reply trivial read (ih decoded)

theorem authRep_of_recebidas {rep : AuthRep} {sent : List (AuthRep ⊕ Reply)}
    {chunks : List (List UInt8)}
    (decoded : Client.recebidas protos false chunks = (.inl rep :: sent).map some) :
    ∃ chunk rest, chunks = chunk :: rest ∧ protos.authRep.decode chunk = some rep ∧
      Client.recebidas protos rep.sucesso rest = sent.map some := by
  cases chunks with
  | nil => cases decoded
  | cons chunk chunks =>
      cases read : protos.authRep.decode chunk with
      | none => simp [Client.recebidas, read] at decoded
      | some found =>
          simp only [Client.recebidas, read, List.map_cons, List.cons.injEq, Option.some.injEq,
            Sum.inl.injEq] at decoded
          obtain ⟨rfl, rest⟩ := decoded
          exact ⟨chunk, chunks, rfl, read, rest⟩

theorem reads_respostas (h : protos.Lawful) {sent : List (AuthRep ⊕ Reply)}
    (escreve : Sessao.Escreve sent) {chunks : List (List UInt8)}
    (decoded : Client.recebidas protos false chunks = sent.map some) :
    Reads protos.campo (sent.map protos.camposResposta) chunks := by
  induction escreve generalizing chunks with
  | nada => exact .nil _
  | insucesso depois ih =>
      obtain ⟨chunk, rest, rfl, read, decoded⟩ := authRep_of_recebidas decoded
      exact .message h.authRep trivial read (ih decoded)
  | sucesso tipo replies =>
      obtain ⟨chunk, rest, rfl, read, decoded⟩ := authRep_of_recebidas decoded
      exact .message h.authRep trivial read (reads_replies h decoded)

/-- Pieces of a stream of messages are cut at its ends when each of them gives its message. -/
theorem chunks_eq_map {μ : Type} {campo : F → List UInt8} {campos : μ → List F} {sent : List μ}
    {chunks : List (List UInt8)} (reads : Reads campo (sent.map campos) chunks)
    (nonempty : ∀ chunk ∈ chunks, chunk ≠ [])
    (stream : chunks.flatten = sent.flatMap fun m => (campos m).flatMap campo) :
    chunks = sent.map fun m => (campos m).flatMap campo := by
  rw [reads.chunks_eq nonempty, List.map_map]
  · rfl
  · rw [stream, ← List.flatMap_def, List.flatMap_assoc]

end Protos

/-- What one side wrote, in the pieces in which the other side gets it. -/
structure Cortada {μ : Type} (escrita : μ → List UInt8) (sent : List μ)
    (chunks : List (List UInt8)) : Prop where
  nonempty : ∀ chunk ∈ chunks, chunk ≠ []
  stream : chunks.flatten = sent.flatMap escrita

theorem Cortada.map {μ : Type} {escrita : μ → List UInt8} {sent : List μ}
    (nonempty : ∀ m ∈ sent, escrita m ≠ []) : Cortada escrita sent (sent.map escrita) where
  nonempty := by
    intro chunk hc
    obtain ⟨m, hm, rfl⟩ := List.mem_map.1 hc
    exact nonempty m hm
  stream := List.flatMap_def.symm

/-- However the streams are cut, each side decodes the messages that the other one wrote if and
only if the pieces are the messages. -/
theorem framing (protos : Protos F R) (h : protos.Lawful) :
    (∀ (valores : List Valor) (sent : List (AuthReq ⊕ Decodificada R)),
      Client.Escreve valores sent →
      ∀ chunks, Cortada protos.pedido sent chunks →
        (Sessao.decodificadas protos.protocolo .autentica valores chunks = sent ↔
          chunks = sent.map protos.pedido)) ∧
    ∀ sent : List (AuthRep ⊕ Reply), Sessao.Escreve sent →
      ∀ chunks, Cortada protos.resposta sent chunks →
        (Client.recebidas protos false chunks = sent.map some ↔
          chunks = sent.map protos.resposta) := by
  constructor
  · intro valores sent escreve chunks cut
    constructor
    · intro decoded
      exact Protos.chunks_eq_map (Protos.reads_pedidos h escreve decoded) cut.nonempty cut.stream
    · rintro rfl
      exact Protos.decodificadas_pedidos h escreve
  · intro sent escreve chunks cut
    constructor
    · intro decoded
      exact Protos.chunks_eq_map (Protos.reads_respostas h escreve decoded) cut.nonempty cut.stream
    · rintro rfl
      exact Protos.recebidas_respostas h escreve

/-- The messages as protocol buffers write them. -/
def protocolBuffers : Protos Wire.Field Binary32 where
  campo := Wire.Field.encode
  authReq := Wire.authReq
  mensagem := Wire.mensagem
  authRep := Wire.authRep
  reply := Wire.reply

theorem protocolBuffers_lawful : protocolBuffers.Lawful where
  authReq := Wire.authReq_lawful
  mensagem := Wire.mensagem_lawful
  authRep := Wire.authRep_lawful
  reply := Wire.reply_lawful

def noite : List (AuthReq ⊕ Decodificada Binary32) :=
  .inl (.de "noite" "mango") :: .inl (.de "noite" "mongo") ::
    (Client.menu [.emprestimo "OreoLda" 500] true).map (.inr ·.decodificada)

theorem framing_noite :
    Sessao.decodificadas protocolBuffers.protocolo .autentica [.invalid, .tipo 1]
        (noite.map protocolBuffers.pedido) = noite ∧
      Client.recebidas protocolBuffers false
        ([.inl ⟨false, some 0⟩, .inl ⟨true, some 1⟩, .inr ⟨true⟩].map protocolBuffers.resposta) =
        [some (.inl ⟨false, some 0⟩), some (.inl ⟨true, some 1⟩), some (.inr ⟨true⟩)] := by
  have both := framing protocolBuffers protocolBuffers_lawful
  constructor
  · refine (both.1 _ noite (.insucesso _ _ (.sucesso _ _ 1 _ true)) _ (.map ?_)).2 rfl
    have login (user password : String) : protocolBuffers.pedido (.inl (.de user password)) ≠ [] :=
      Wire.authReq_lawful.encode_ne_nil ⟨user, password, rfl⟩
    have menu (n : Mensagem Binary32) : protocolBuffers.pedido (.inr n.decodificada) ≠ [] :=
      Wire.mensagem_lawful.encode_ne_nil ⟨n, rfl⟩
    simp [noite, Client.menu, login, menu]
  · refine (both.2 _ (.insucesso (.sucesso 1 [true])) _ (.map ?_)).2 rfl
    have login (rep : AuthRep) : protocolBuffers.resposta (.inl rep) ≠ [] :=
      Wire.authRep_lawful.encode_ne_nil trivial
    have reply (rep : Reply) : protocolBuffers.resposta (.inr rep) ≠ [] :=
      Wire.reply_lawful.encode_ne_nil trivial
    simp [login, reply]

/-- A request whose first byte comes alone ends the session, and a refusal that comes together
with the next reply is not seen. -/
theorem framing_cut :
    (∃ sent chunks, Client.Escreve [.tipo 1] sent ∧ Cortada protocolBuffers.pedido sent chunks ∧
      sent = [.inl (.de "noite" "mongo")] ∧
      Sessao.decodificadas protocolBuffers.protocolo .autentica [.tipo 1] chunks = []) ∧
    ∃ sent chunks, Sessao.Escreve sent ∧ Cortada protocolBuffers.resposta sent chunks ∧
      sent = [.inl ⟨true, some 1⟩, .inr ⟨false⟩, .inr ⟨true⟩] ∧
      Client.recebidas protocolBuffers false chunks =
        [some (.inl ⟨true, some 1⟩), some (.inr ⟨true⟩)] := by
  constructor
  · have user : "noite".toByteArray.data.toList = [110, 111, 105, 116, 101] := by decide +kernel
    have password : "mongo".toByteArray.data.toList = [109, 111, 110, 103, 111] := by
      decide +kernel
    refine ⟨_, [[10], [5, 110, 111, 105, 116, 101, 18, 5, 109, 111, 110, 103, 111]],
      .sucesso "noite" "mongo" 1 [] false, ⟨by decide, ?_⟩, rfl, by decide +kernel⟩
    simp [Client.menu, Protos.pedido, Protos.campos, protocolBuffers, Wire.authReq,
      Wire.FieldType.put, AuthReq.de, Termo.encode, Wire.string, Wire.Field.encode, Wire.varint,
      user, password]
  · refine ⟨_, [[8, 1, 16, 1], [8, 0, 8, 1]], .sucesso 1 [false, true], ⟨by decide, ?_⟩, rfl,
      by decide +kernel⟩
    simp [Protos.resposta, Protos.camposResposta, protocolBuffers, Wire.authRep, Wire.reply,
      Wire.FieldType.put, Wire.bool, Wire.int32, Wire.Field.encode, Wire.varint]

end PeerLanding.Frontend
