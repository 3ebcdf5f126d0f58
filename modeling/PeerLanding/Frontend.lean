import PeerLanding.Exchange.Steps

/-! The front-end: the account manager, what a session makes of a request, the table that
`producer:run` routes with, and the exchanges that `Exchange.main` starts at its addresses. -/

namespace PeerLanding.Frontend

open Exchange

structure Conta where
  password : String
  tipo : Nat
  ativa : Bool
  deriving DecidableEq

abbrev Contas : Type := String → Option Conta

def accountService : Contas := fun user =>
  [("noite", ⟨"mongo", 1, false⟩), ("sapin", ⟨"mongo", 1, false⟩),
    ("adin", ⟨"mongo", 1, false⟩), ("3dentes", ⟨"mongo", 1, false⟩),
    ("CanecaLda", ⟨"mongo", 2, false⟩), ("SapatoLda", ⟨"mongo", 2, false⟩),
    ("IsqueiroLda", ⟨"mongo", 2, false⟩), ("MesasLda", ⟨"mongo", 2, false⟩),
    ("AguaLda", ⟨"mongo", 2, false⟩), ("VinhoLda", ⟨"mongo", 2, false⟩),
    ("SandesLda", ⟨"mongo", 2, false⟩), ("OreoLda", ⟨"mongo", 2, false⟩),
    ("MongoLda", ⟨"mongo", 2, false⟩), ("RelogioLda", ⟨"mongo", 2, false⟩)].lookup user

def login (contas : Contas) (user password : String) : Option Nat × Contas :=
  match contas user with
  | some conta =>
      if conta.password = password ∧ conta.ativa = false then
        (some conta.tipo, Function.update contas user (some { conta with ativa := true }))
      else (none, contas)
  | none => (none, contas)

def logout (contas : Contas) (user : String) : Bool × Contas :=
  match contas user with
  | some conta =>
      if conta.ativa = true then
        (true, Function.update contas user (some { conta with ativa := false }))
      else (false, contas)
  | none => (false, contas)

inductive Conversa where
  | login (user password : String)
  | logout (user : String)

def loop (contas : Contas) : List Conversa → Contas
  | [] => contas
  | .login user password :: resto => loop (login contas user password).2 resto
  | .logout user :: resto => loop (logout contas user).2 resto

def Autenticado (user : String) : Prop :=
  ∃ conversas password tipo, (login (loop accountService conversas) user password).1 = some tipo

variable {R : Type}

def usersession (username : String) (msg : Mensagem R) : Option (Mensagem R) :=
  if msg.tipo = "licitar" then some { msg with investidor := some username }
  else if msg.tipo = "emprestimo" then some { msg with investidor := some username }
  else if msg.tipo = "leilao" then some { msg with empresa := some username }
  else if msg.tipo = "emissao" then some { msg with empresa := some username }
  else none

/-- The addresses that `acceptorService` hands to its sessions. -/
def empresas : List (String × String) :=
  [("CanecaLda", "tcp://localhost:4000"), ("SapatoLda", "tcp://localhost:4000"),
    ("IsqueiroLda", "tcp://localhost:4001"), ("MesasLda", "tcp://localhost:4001"),
    ("AguaLda", "tcp://localhost:4002"), ("VinhoLda", "tcp://localhost:4002"),
    ("SandesLda", "tcp://localhost:4003"), ("OreoLda", "tcp://localhost:4003"),
    ("MongoLda", "tcp://localhost:4004"), ("RelogioLda", "tcp://localhost:4004")]

/-- The address to which `producer:run` sends a request. Without a company `maps:get` fails,
and a company that is not in the table is answered at once. -/
def producer (msg : Mensagem R) : Option String := msg.empresa.bind (empresas.lookup ·)

/-- The companies of the five exchanges that `Exchange.main` starts. -/
def lmap : List (List String) :=
  [["CanecaLda", "SapatoLda"], ["IsqueiroLda"], ["MesasLda", "AguaLda", "VinhoLda"],
    ["SandesLda", "OreoLda"], ["MongoLda", "RelogioLda"]]

/-- Each exchange with the address that its `rep` socket is bound to. -/
def main : List (String × List String) :=
  lmap.mapIdx fun i nomes => ("tcp://localhost:" ++ toString (4000 + i), nomes)

theorem mem_of_lookup {α : Type} {table : List (String × α)} {nome : String} {valor : α}
    (found : table.lookup nome = some valor) : (nome, valor) ∈ table := by
  obtain ⟨before, after, rfl, _⟩ := List.lookup_eq_some_iff.1 found
  simp

theorem forall_of_lookup {α : Type} {table : List (String × α)} {nome : String} {valor : α}
    (P : α → Prop) (every : ∀ row ∈ table, P row.2) (found : table.lookup nome = some valor) :
    P valor := every _ (mem_of_lookup found)

/-- An authenticated user's session turns `msg` into `enviada`, which is sent to `endereco`. -/
structure Encaminhada (username : String) (msg enviada : Mensagem R) (endereco : String) :
    Prop where
  autenticado : Autenticado username
  reescrita : usersession username msg = some enviada
  rota : producer enviada = some endereco

/-- Every company is routed to an exchange that hosts it, except `MesasLda`. -/
theorem empresas_main : ∀ rota ∈ empresas, ∃ nomes ∈ main.lookup rota.2,
    (rota.1 ∈ nomes ↔ rota.1 ≠ "MesasLda") := by decide +kernel

theorem Encaminhada.hospedada {username endereco : String} {msg enviada : Mensagem R}
    (h : Encaminhada username msg enviada endereco) :
    ∃ nomes, main.lookup endereco = some nomes ∧
      (enviada.empresa.getD "" ∈ nomes ↔ enviada.empresa.getD "" ≠ "MesasLda") := by
  obtain ⟨empresa, he, found⟩ := Option.bind_eq_some_iff.1 h.rota
  simpa [he] using empresas_main _ (mem_of_lookup found)

end PeerLanding.Frontend
