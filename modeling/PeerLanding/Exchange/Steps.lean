import PeerLanding.Exchange.Operations
import PeerLanding.Runs

/-! The exchange as a labelled system. A step is one request handled by the loop of
`Exchange.run`, or one settlement thread run to its end. A request that raises an
exception ends the loop; a settlement thread may run at any time after its start. -/

namespace PeerLanding

/-- The message the front-end forwards; the getters below give protobuf's defaults. -/
structure Mensagem (R : Type) where
  tipo : String
  juro : Option R
  quantia : Option Int32
  empresa : Option String
  investidor : Option String
  deriving DecidableEq

namespace Exchange

variable {R : Type}

/-- The cases of the `switch` in `Exchange.run`, with the arguments each one passes. -/
inductive Pedido (R : Type) where
  | licitar (empresa investidor : String) (quantia : Int32) (juro : R)
  | emprestimo (empresa investidor : String) (quantia : Int32)
  | emissao (empresa : String) (quantia : Int32)
  | leilao (empresa : String) (quantia : Int32) (juro : R)
  | outro
  deriving DecidableEq

inductive Passo (R : Type) where
  | pedido (amb : Ambiente) (p : Pedido R)
  | terminaLeilao (amb : Ambiente) (thread : TerminaLeilao)
  | terminaEmissao (amb : Ambiente) (thread : TerminaEmissao)

/-- A reply, an exception that ended the thread, or the normal end of a settlement thread. -/
inductive Resultado where
  | resposta (sucesso : Bool)
  | excecao (e : Excecao)
  | fim
  deriving DecidableEq

variable [JavaFloat R]

def pedido (m : Mensagem R) : Pedido R :=
  let empresa := m.empresa.getD ""
  let investidor := m.investidor.getD ""
  let quantia := m.quantia.getD 0
  let juro := m.juro.getD JavaFloat.zero
  if m.tipo = "licitar" then .licitar empresa investidor quantia juro
  else if m.tipo = "emprestimo" then .emprestimo empresa investidor quantia
  else if m.tipo = "emissao" then .emissao empresa quantia
  else if m.tipo = "leilao" then .leilao empresa quantia juro
  else .outro

variable [Gson R]

def atende (amb : Ambiente) : Pedido R → Programa R Bool
  | .licitar empresa investidor quantia juro => licitar amb empresa investidor quantia juro
  | .emprestimo empresa investidor quantia => emprestimo amb empresa investidor quantia
  | .emissao empresa quantia => emissao amb empresa quantia
  | .leilao empresa quantia juro => leilao amb empresa quantia juro
  | .outro => return false

end Exchange

open Exchange

variable {R : Type} [JavaFloat R] [Gson R]

/-- A settlement thread's end: its exceptions stop nothing but the thread. -/
def Sistema.corre (x : EStateM.Result Excecao (Sistema R) Unit) : Resultado × Sistema R :=
  match x with
  | .ok _ s => (.fim, s)
  | .error e s => (.excecao e, s)

def Sistema.proximo (s : Sistema R) : Passo R → Option (Resultado × Sistema R)
  | .pedido amb p =>
      if s.vivo then
        match (atende amb p).run s with
        | .ok sucesso s' => some (.resposta sucesso, s')
        | .error e s' => some (.excecao e, { s' with vivo := false })
      else none
  | .terminaLeilao amb thread =>
      if thread ∈ s.terminaLeiloes then
        some (Sistema.corre ((thread.run amb).run
          { s with terminaLeiloes := s.terminaLeiloes.erase thread }))
      else none
  | .terminaEmissao amb thread =>
      if thread ∈ s.terminaEmissoes then
        some (Sistema.corre ((thread.run amb).run
          { s with terminaEmissoes := s.terminaEmissoes.erase thread }))
      else none

def Sistema.Passa (s : Sistema R) (l : Passo R) (r : Resultado) (s' : Sistema R) : Prop :=
  s.proximo l = some (r, s')

def Sistema.inicial (nomes registadas : List String) : Sistema R where
  empresas := fun nome => if nome ∈ nomes then some (Empresa.novo nome) else none
  leiloes := fun _ => none
  emissoes := fun _ => none
  terminaLeiloes := []
  terminaEmissoes := []
  novaRef := 0
  vivo := true
  diretorio := Directory.vazio registadas

abbrev Transicao (R : Type) : Type := Runs.Transition (Sistema R) (Passo R) Resultado

abbrev Sistema.Run (nomes registadas : List String) :
    List (Transicao R) → Sistema R → Prop :=
  Runs.Run Sistema.Passa (Sistema.inicial nomes registadas)

def Sistema.corrida (nomes registadas : List String) (passos : List (Passo R)) :
    Option (List (Transicao R) × Sistema R) :=
  Runs.exec Sistema.proximo (Sistema.inicial nomes registadas) passos

theorem Sistema.run_corrida {nomes registadas : List String} {passos : List (Passo R)}
    (h : (corrida nomes registadas passos).isSome) :
    Sistema.Run nomes registadas ((corrida nomes registadas passos).get h).1
      ((corrida nomes registadas passos).get h).2 := Runs.run_exec h

theorem Sistema.labels_corrida {nomes registadas : List String} {passos : List (Passo R)}
    (h : (corrida nomes registadas passos).isSome) {P : Passo R → Prop}
    (hp : ∀ l ∈ passos, P l) :
    ∀ e ∈ ((corrida nomes registadas passos).get h).1, P e.label := by
  intro e he
  have labels := Runs.exec_labels (Option.some_get h).symm
  exact hp _ (labels ▸ List.mem_map_of_mem he)

/-- The `n`-th instant, on both clocks, with the call delivered. -/
def Exchange.Ambiente.em (n : Nat) : Ambiente := ⟨.atNano n, .atNano n, true⟩

end PeerLanding
