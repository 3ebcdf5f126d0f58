import PeerLanding.Frontend
import PeerLanding.Mailbox

/-! The session processes of the front-end: one for each accepted connection, with its
mailbox, the account manager they talk to, and the producers they spawn. Every delivery,
every receive and every crash is a step of its own, so messages arrive in any order. -/

namespace PeerLanding.Frontend

open Exchange

/-- A text that `protocolo:decode_msg` leaves: a string, or another term where the field is
missing or is not UTF-8. -/
inductive Termo where
  | texto (s : String)
  | outro
  deriving DecidableEq

def Termo.encode : Termo → Option String
  | .texto s => some s
  | .outro => none

structure AuthReq where
  username : Termo
  password : Termo
  deriving DecidableEq

/-- A decoded `Mensagem`. An optional field that is absent is not in the map. -/
structure Decodificada (R : Type) where
  tipo : Termo
  juro : Option R
  quantia : Option Int32
  empresa : Option Termo
  investidor : Option Termo
  deriving DecidableEq

/-- `protocolo:decode_msg` for the two messages that a session reads; `none` where it raises. -/
structure Protocolo (Packet R : Type) where
  authReq : Packet → Option AuthReq
  mensagem : Packet → Option (Decodificada R)

variable {Packet R : Type}

def encodeOpcional : Option Termo → Option (Option String)
  | none => some none
  | some texto => texto.encode.map some

/-- `protocolo:encode_msg(Msg, 'Mensagem')` as the exchange reads it; `none` where it raises. -/
def Decodificada.encode (msg : Decodificada R) : Option (Mensagem R) := do
  let tipo ← msg.tipo.encode
  let empresa ← encodeOpcional msg.empresa
  let investidor ← encodeOpcional msg.investidor
  return { tipo, juro := msg.juro, quantia := msg.quantia, empresa, investidor }

/-! ### The account manager -/

inductive Solicitacao where
  | login (user password : Termo)
  | logout (user : Termo)
  deriving DecidableEq

inductive Valor where
  | tipo (n : Nat)
  | ok
  | invalid
  deriving DecidableEq

/-- An answer of the account manager. Only `valor` is in the message. -/
structure Resposta where
  pedido : Solicitacao
  valor : Valor
  deriving DecidableEq

/-- One turn of `loop`. Only strings are users and passwords of its map. -/
def gestor (contas : Contas) : Solicitacao → Valor × Contas
  | .login (.texto user) (.texto password) =>
      match login contas user password with
      | (some tipo, contas) => (.tipo tipo, contas)
      | (none, contas) => (.invalid, contas)
  | .login _ _ => (.invalid, contas)
  | .logout (.texto user) =>
      match logout contas user with
      | (true, contas) => (.ok, contas)
      | (false, contas) => (.invalid, contas)
  | .logout .outro => (.invalid, contas)

/-! ### One session -/

/-- A message in a session's mailbox. `de`, the producer's pid, is not in the message. -/
inductive Recado (Packet : Type) where
  | tcp (packet : Packet)
  | tcpClosed
  | gestor (resposta : Resposta)
  | producer (de : Nat) (sucesso : Bool)
  deriving DecidableEq

/-- Where a session waits: in `usersession/2`, in `accountManager:login/2`, in
`usersession/3`, in `accountManager:logout/1`, or nowhere, because it has ended. -/
inductive Estado where
  | autentica
  | login (user password : Termo)
  | sessao (user : Termo)
  | logout (user : Termo)
  | fim
  deriving DecidableEq

inductive Escrita where
  | authRep (sucesso : Bool) (tipo : Nat)
  | reply (sucesso : Bool)
  deriving DecidableEq

inductive Efeito (R : Type) where
  | nada
  | solicita (p : Solicitacao)
  | spawn (pedido : Decodificada R)
  | send (escrita : Escrita)

structure Sessao (Packet : Type) where
  estado : Estado
  caixa : List (Recado Packet)
  deriving DecidableEq

def Sessao.morta : Sessao Packet := ⟨.fim, []⟩

def Sessao.deposita (m : Recado Packet) (sessao : Sessao Packet) : Sessao Packet :=
  if sessao.estado = .fim then sessao else { sessao with caixa := sessao.caixa ++ [m] }

namespace Sessao

variable (protocolo : Protocolo Packet R)

def usersession2 : Recado Packet → Estado × Efeito R
  | .tcp packet =>
      match protocolo.authReq packet with
      | some authReq =>
          (.login authReq.username authReq.password,
            .solicita (.login authReq.username authReq.password))
      | none => (.fim, .nada)
  | _ => (.fim, .nada)

/-- The first message is the answer of `accountManager:login/2`. `protocolo:encode_msg` raises
when it is neither `invalid` nor an integer. -/
def login (username : Termo) : Recado Packet → Estado × Efeito R
  | .gestor resposta =>
      match resposta.valor with
      | .invalid => (.autentica, .send (.authRep false 0))
      | .tipo tipo => (.sessao username, .send (.authRep true tipo))
      | .ok => (.fim, .nada)
  | _ => (.fim, .nada)

def pedido (username : Termo) (msg : Decodificada R) : Estado × Efeito R :=
  if msg.tipo = .texto "licitar" then
    (.sessao username, .spawn { msg with investidor := some username })
  else if msg.tipo = .texto "emprestimo" then
    (.sessao username, .spawn { msg with investidor := some username })
  else if msg.tipo = .texto "leilao" then
    (.sessao username, .spawn { msg with empresa := some username })
  else if msg.tipo = .texto "emissao" then
    (.sessao username, .spawn { msg with empresa := some username })
  else if msg.tipo = .texto "logout" then (.logout username, .solicita (.logout username))
  else (.fim, .nada)

/-- `usersession/3`. Other messages match no pattern and stay in the mailbox. -/
def usersession3 (username : Termo) : Recado Packet → Option (Estado × Efeito R)
  | .tcp packet =>
      match protocolo.mensagem packet with
      | some msg => some (pedido username msg)
      | none => some (.fim, .nada)
  | .producer _ sucesso => some (.sessao username, .send (.reply sucesso))
  | _ => none

def trata : Estado → Recado Packet → Option (Estado × Efeito R)
  | .autentica => fun m => some (usersession2 protocolo m)
  | .login username _ => fun m => some (login username m)
  | .sessao username => usersession3 protocolo username
  | .logout _ => fun _ => some (.fim, .nada)
  | .fim => fun _ => none

def recebe (sessao : Sessao Packet) : Option (Sessao Packet × Efeito R) :=
  (Mailbox.receive (trata protocolo sessao.estado) sessao.caixa).map fun p =>
    (if p.1.1 = .fim then morta else ⟨p.1.1, p.2⟩, p.1.2)

end Sessao

/-! ### All processes -/

structure Producer (R : Type) where
  pid : Nat
  sessao : Nat
  msg : Decodificada R
  deriving DecidableEq

/-- A request that a producer has sent to an exchange, while it waits for the reply. -/
structure Enviado (R : Type) where
  pid : Nat
  sessao : Nat
  endereco : String
  mensagem : Mensagem R
  deriving DecidableEq

/-- The front-end: the manager's map, the sessions by number, and all that is in flight. -/
structure Portal (Packet R : Type) where
  contas : Contas
  sessoes : List (Sessao Packet)
  pedidos : List (Nat × Solicitacao)
  producers : List (Producer R)
  enviados : List (Enviado R)
  transito : List (Nat × Recado Packet)
  novoPid : Nat

inductive Evento (Packet : Type) where
  | aceita
  | tcp (i : Nat) (packet : Packet)
  | tcpClosed (i : Nat)
  | recebe (i : Nat)
  | morre (i : Nat)
  | gestor (n : Nat)
  | entrega (n : Nat)
  | producer (n : Nat)
  | exchange (n : Nat) (sucesso : Bool)

namespace Portal

def deposita (s : Portal Packet R) (i : Nat) (m : Recado Packet) : Portal Packet R :=
  { s with sessoes := s.sessoes.modify i (Sessao.deposita m) }

def aceita (s : Portal Packet R) : Portal Packet R :=
  { s with sessoes := s.sessoes ++ [⟨.autentica, []⟩] }

def poe (s : Portal Packet R) (i : Nat) (sessao : Sessao Packet) : Portal Packet R :=
  { s with sessoes := s.sessoes.set i sessao }

def responde (s : Portal Packet R) (i : Nat) (m : Recado Packet) : Portal Packet R :=
  { s with transito := s.transito ++ [(i, m)] }

def aplica (s : Portal Packet R) (i : Nat) :
    Efeito R → Option (Nat × Escrita) × Portal Packet R
  | .nada => (none, s)
  | .solicita p => (none, { s with pedidos := s.pedidos ++ [(i, p)] })
  | .spawn msg =>
      (none, { s with
        producers := s.producers ++ [⟨s.novoPid, i, msg⟩]
        novoPid := s.novoPid + 1 })
  | .send escrita => (some (i, escrita), s)

/-- `producer:run` up to `erlzmq:recv`. It fails without a company and on a text that is not
one, and answers at once for a company that is not in the table. -/
def run (s : Portal Packet R) (p : Producer R) : Portal Packet R :=
  match p.msg.empresa with
  | none => s
  | some empresa =>
      match empresa.encode.bind (empresas.lookup ·) with
      | none => s.responde p.sessao (.producer p.pid false)
      | some endereco =>
          match p.msg.encode with
          | none => s
          | some mensagem =>
              { s with enviados := s.enviados ++ [⟨p.pid, p.sessao, endereco, mensagem⟩] }

/-- The `n`-th message in flight is delivered, the `n`-th producer runs, the `n`-th request
at an exchange is answered. -/
def proximo (protocolo : Protocolo Packet R) (s : Portal Packet R) :
    Evento Packet → Option (Option (Nat × Escrita) × Portal Packet R)
  | .aceita => some (none, s.aceita)
  | .tcp i packet => some (none, s.deposita i (.tcp packet))
  | .tcpClosed i => some (none, s.deposita i .tcpClosed)
  | .recebe i =>
      match s.sessoes[i]? with
      | none => none
      | some sessao =>
          (sessao.recebe protocolo).map fun p => (s.poe i p.1).aplica i p.2
  | .morre i => some (none, s.poe i .morta)
  | .gestor n =>
      match s.pedidos[n]? with
      | none => none
      | some (i, p) =>
          let s' := { s with
            pedidos := s.pedidos.eraseIdx n
            contas := (gestor s.contas p).2 }
          some (none, s'.responde i (.gestor ⟨p, (gestor s.contas p).1⟩))
  | .entrega n =>
      match s.transito[n]? with
      | none => none
      | some (i, m) =>
          some (none, { s with transito := s.transito.eraseIdx n }.deposita i m)
  | .producer n =>
      match s.producers[n]? with
      | none => none
      | some p => some (none, { s with producers := s.producers.eraseIdx n }.run p)
  | .exchange n sucesso =>
      match s.enviados[n]? with
      | none => none
      | some q =>
          some (none, { s with enviados := s.enviados.eraseIdx n }.responde q.sessao
            (.producer q.pid sucesso))

def inicial : Portal Packet R := ⟨accountService, [], [], [], [], [], 0⟩

def Passa (protocolo : Protocolo Packet R) (s : Portal Packet R) (e : Evento Packet)
    (r : Option (Nat × Escrita)) (s' : Portal Packet R) : Prop :=
  s.proximo protocolo e = some (r, s')

end Portal

abbrev Lance (Packet R : Type) : Type :=
  Runs.Transition (Portal Packet R) (Evento Packet) (Option (Nat × Escrita))

abbrev Portal.Run (protocolo : Protocolo Packet R) :
    List (Lance Packet R) → Portal Packet R → Prop :=
  Runs.Run (Portal.Passa protocolo) Portal.inicial

def Portal.corrida (protocolo : Protocolo Packet R) (eventos : List (Evento Packet)) :
    Option (List (Lance Packet R) × Portal Packet R) :=
  Runs.exec (Portal.proximo protocolo) Portal.inicial eventos

theorem Portal.run_corrida {protocolo : Protocolo Packet R} {eventos : List (Evento Packet)}
    (h : (corrida protocolo eventos).isSome) :
    Portal.Run protocolo ((corrida protocolo eventos).get h).1
      ((corrida protocolo eventos).get h).2 := Runs.run_exec h

theorem Portal.labels_corrida {protocolo : Protocolo Packet R} {eventos : List (Evento Packet)}
    (h : (corrida protocolo eventos).isSome) :
    ((corrida protocolo eventos).get h).1.map (·.label) = eventos :=
  Runs.exec_labels (Option.some_get h).symm

/-- Packets that are the messages themselves. -/
def Protocolo.direto : Protocolo (AuthReq ⊕ Decodificada R) R where
  authReq := Sum.getLeft?
  mensagem := Sum.getRight?

end PeerLanding.Frontend
