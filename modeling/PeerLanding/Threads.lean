import PeerLanding.Exchange.Steps

/-! The exchange thread and the settlement threads, one operation at a time: every operation
on a map, a history or a list of bids and every call of the Directory is a step of its own, and
the steps of different threads come in any order. An auction or an emission is in memory under
its reference, and its list of bids is part of it. -/

namespace PeerLanding.Threads

open Exchange

/-- The two histories of an `Empresa`, as references. -/
structure Empresa where
  historicoLeiloes : List Nat
  historicoEmissoes : List Nat
  deriving DecidableEq

/-! ### Where a thread stands

Each point is named after the operation that comes next, and has the local variables that the
rest of the method uses. -/

inductive EmLicitar where
  | get
  | add (leilaoAtual : Nat)
  | empresa (leilaoAtual : Nat)
  | historico (leilaoAtual : Nat)
  | size (leilaoAtual idL : Nat)
  | post (leilaoAtual idL : Nat) (id : Int)
  deriving DecidableEq

inductive EmEmprestimo where
  | get
  | add (emissaoAtual : Nat)
  | empresa (emissaoAtual : Nat)
  | historico (emissaoAtual : Nat)
  | size (emissaoAtual idL : Nat)
  | post (emissaoAtual idL : Nat) (id : Int)
  deriving DecidableEq

/-- `taxaEmissao`. The last two tests read `emissao.isSucesso()` one after the other. -/
inductive EmTaxa where
  | lastLeilao
  | size (leilao : Nat)
  | lastEmissao (leilao : Nat)
  | sucesso (leilao emissao : Nat)
  | insucesso (emissao : Nat)
  | maxima (leilao : Nat)
  deriving DecidableEq

inductive EmEmissao (R : Type) where
  | get
  | size
  | lastElement
  | taxa (em : EmTaxa)
  | empresa (taxaMaxima : R)
  | historico (taxaMaxima : R)
  | put (taxaMaxima : R) (idL : Nat)
  | thread (taxaMaxima : R) (idL novaEmissao : Nat)
  | post (taxaMaxima : R) (idL novaEmissao : Nat)
  deriving DecidableEq

inductive EmLeilao where
  | get
  | put
  | empresa (leilao : Nat)
  | historico (leilao : Nat)
  | thread (leilao idL : Nat)
  | post (leilao idL : Nat)
  deriving DecidableEq

/-- The exchange thread: in `rep.recv`, in one of the four requests, about to reply, or ended.
When it replies true, `objeto` and `idL` are those of the request. -/
inductive Ponto (R : Type) where
  | recv
  | licitar (empresa investidor : String) (quantia : Int32) (juro : R) (em : EmLicitar)
  | emprestimo (empresa investidor : String) (quantia : Int32) (em : EmEmprestimo)
  | emissao (empresa : String) (quantia : Int32) (em : EmEmissao R)
  | leilao (empresa : String) (quantia : Int32) (juro : R) (em : EmLeilao)
  | aceita (p : Pedido R) (objeto idL : Nat)
  | recusa
  | fim
  deriving DecidableEq

/-- `alocou` says whether the request has the bids of the auction. -/
inductive EmTerminaLeilao (R : Type) where
  | remove
  | soma (leilao : Nat)
  | ordena (leilao : Nat)
  | size (leilao : Nat) (alocados : List (Licitacao R))
  | empresa (leilao : Nat) (sucesso alocou : Bool)
  | add (leilao : Nat) (sucesso alocou : Bool)
  | json (leilao : Nat) (sucesso alocou : Bool)
  | put (data : Directory.RestRequest R)
  | fim
  deriving DecidableEq

inductive EmTerminaEmissao (R : Type) where
  | remove
  | setSucesso (emissao : Nat)
  | empresa (emissao : Nat)
  | add (emissao : Nat)
  | soma (emissao : Nat)
  | desfecho (emissao : Nat) (sucesso : Bool)
  | json (sucesso : Bool)
  | put (data : Directory.RestRequest R)
  | fim
  deriving DecidableEq

/-- A settlement thread: its fields and where it stands. -/
structure Fio (Em : Type) where
  empresa : String
  idL : Nat
  em : Em
  deriving DecidableEq

/-- One exchange and the Directory. Settlement threads are under the reference of the object
they were started for. -/
structure Memoria (R : Type) where
  empresas : String → Option Empresa
  leiloes : String → Option Nat
  emissoes : String → Option Nat
  leilao : Nat → Leilao R
  emissao : Nat → Emissao R
  novaRef : Nat
  exchange : Ponto R
  terminaLeiloes : Nat → Option (Fio (EmTerminaLeilao R))
  terminaEmissoes : Nat → Option (Fio (EmTerminaEmissao R))
  diretorio : Directory R

variable {R : Type} [JavaFloat R] [Gson R]

def toJson (rr : RestRequest R) : Except Excecao (Directory.RestRequest R) :=
  (Gson.toJson rr).map Directory.RestRequest.ofJson

namespace Memoria

def em (m : Memoria R) (ponto : Ponto R) : Memoria R := { m with exchange := ponto }

def empresaDe (m : Memoria R) (empresa : String) : Except Excecao Empresa :=
  match m.empresas empresa with
  | some empresaObj => .ok empresaObj
  | none => .error .nullPointer

def chama (m : Memoria R) (handler : Directory.Handler R Nat) : Memoria R :=
  { m with diretorio := Java.after handler m.diretorio }

end Memoria

/-! ### The requests -/

def licitar (empresa investidor : String) (quantia : Int32) (juro : R) (m : Memoria R) :
    EmLicitar → Except Excecao (Memoria R)
  | .get =>
      match m.leiloes empresa with
      | some leilaoAtual =>
          if JavaFloat.lt juro (m.leilao leilaoAtual).taxaMaxima && quantia % 100 == 0 then
            .ok (m.em (.licitar empresa investidor quantia juro (.add leilaoAtual)))
          else .ok (m.em .recusa)
      | none => .ok (m.em .recusa)
  | .add leilaoAtual =>
      let licitacao := ⟨investidor, juro, quantia⟩
      let leilao := { m.leilao leilaoAtual with
        licitacoes := (m.leilao leilaoAtual).licitacoes ++ [licitacao] }
      .ok { m with
        leilao := Function.update m.leilao leilaoAtual leilao
        exchange := .licitar empresa investidor quantia juro (.empresa leilaoAtual) }
  | .empresa leilaoAtual => do
      let _ ← m.empresaDe empresa
      return m.em (.licitar empresa investidor quantia juro (.historico leilaoAtual))
  | .historico leilaoAtual => do
      let empresaObj ← m.empresaDe empresa
      return m.em (.licitar empresa investidor quantia juro
        (.size leilaoAtual empresaObj.historicoLeiloes.length))
  | .size leilaoAtual idL =>
      .ok (m.em (.licitar empresa investidor quantia juro
        (.post leilaoAtual idL ((m.leilao leilaoAtual).licitacoes.length - 1))))
  | .post leilaoAtual idL id => do
      let data ← toJson (RestRequest.licitacao empresa idL id investidor juro quantia)
      return (m.chama (Directory.postLeilaoLicitacao data)).em
        (.aceita (.licitar empresa investidor quantia juro) leilaoAtual idL)

def emprestimo (empresa investidor : String) (quantia : Int32) (m : Memoria R) :
    EmEmprestimo → Except Excecao (Memoria R)
  | .get =>
      match m.emissoes empresa with
      | some emissaoAtual =>
          if quantia % 100 == 0 then
            .ok (m.em (.emprestimo empresa investidor quantia (.add emissaoAtual)))
          else .ok (m.em .recusa)
      | none => .ok (m.em .recusa)
  | .add emissaoAtual =>
      let licitacao := Licitacao.semTaxa investidor quantia
      let emissao := { m.emissao emissaoAtual with
        licitacoes := (m.emissao emissaoAtual).licitacoes ++ [licitacao] }
      .ok { m with
        emissao := Function.update m.emissao emissaoAtual emissao
        exchange := .emprestimo empresa investidor quantia (.empresa emissaoAtual) }
  | .empresa emissaoAtual => do
      let _ ← m.empresaDe empresa
      return m.em (.emprestimo empresa investidor quantia (.historico emissaoAtual))
  | .historico emissaoAtual => do
      let empresaObj ← m.empresaDe empresa
      return m.em (.emprestimo empresa investidor quantia
        (.size emissaoAtual empresaObj.historicoEmissoes.length))
  | .size emissaoAtual idL =>
      .ok (m.em (.emprestimo empresa investidor quantia
        (.post emissaoAtual idL ((m.emissao emissaoAtual).licitacoes.length - 1))))
  | .post emissaoAtual idL id => do
      let data ← toJson (RestRequest.emprestimo empresa idL id investidor quantia)
      return (m.chama (Directory.postEmissaoLicitacao data)).em
        (.aceita (.emprestimo empresa investidor quantia) emissaoAtual idL)

/-- One operation of `taxaEmissao`: its result, or where it goes on. -/
def taxaEmissao (m : Memoria R) (empresaObj : Empresa) : EmTaxa → Except Excecao (R ⊕ EmTaxa)
  | .lastLeilao =>
      match empresaObj.historicoLeiloes.getLast? with
      | some leilao => .ok (.inr (.size leilao))
      | none => .error .noSuchElement
  | .size leilao =>
      if empresaObj.historicoEmissoes.length > 0 then .ok (.inr (.lastEmissao leilao))
      else if (m.leilao leilao).sucesso then .ok (.inr (.maxima leilao))
      else .ok (.inl JavaFloat.zero)
  | .lastEmissao leilao =>
      match empresaObj.historicoEmissoes.getLast? with
      | some emissao => .ok (.inr (.sucesso leilao emissao))
      | none => .error .noSuchElement
  | .sucesso leilao emissao =>
      if (m.leilao leilao).data.isAfter (m.emissao emissao).data && (m.leilao leilao).sucesso then
        .ok (.inr (.maxima leilao))
      else if (m.leilao leilao).data.isAfter (m.emissao emissao).data then
        .ok (.inl JavaFloat.zero)
      else if (m.emissao emissao).sucesso then .ok (.inl (m.emissao emissao).taxa)
      else .ok (.inr (.insucesso emissao))
  | .insucesso emissao =>
      if !(m.emissao emissao).sucesso then .ok (.inl (JavaFloat.mul110 (m.emissao emissao).taxa))
      else .ok (.inl JavaFloat.zero)
  | .maxima leilao => .ok (.inl (m.leilao leilao).getTaxaLicitacaoMaxima)

def emissao (empresa : String) (quantia : Int32) (agora : LocalDateTime) (m : Memoria R) :
    EmEmissao R → Except Excecao (Memoria R)
  | .get =>
      match m.empresas empresa with
      | some _ => .ok (m.em (.emissao empresa quantia .size))
      | none => .ok (m.em .recusa)
  | .size => do
      let empresaObj ← m.empresaDe empresa
      if empresaObj.historicoLeiloes.length > 0 then
        return m.em (.emissao empresa quantia .lastElement)
      else return m.em .recusa
  | .lastElement => do
      let empresaObj ← m.empresaDe empresa
      match empresaObj.historicoLeiloes.getLast? with
      | some ultimoLeilao =>
          if (m.leilao ultimoLeilao).sucesso && quantia % 1000 == 0 then
            return m.em (.emissao empresa quantia (.taxa .lastLeilao))
          else return m.em .recusa
      | none => throw .noSuchElement
  | .taxa em => do
      let empresaObj ← m.empresaDe empresa
      match ← taxaEmissao m empresaObj em with
      | .inl taxaMaxima => return m.em (.emissao empresa quantia (.empresa taxaMaxima))
      | .inr em => return m.em (.emissao empresa quantia (.taxa em))
  | .empresa taxaMaxima => do
      let _ ← m.empresaDe empresa
      return m.em (.emissao empresa quantia (.historico taxaMaxima))
  | .historico taxaMaxima => do
      let empresaObj ← m.empresaDe empresa
      return m.em (.emissao empresa quantia
        (.put taxaMaxima empresaObj.historicoEmissoes.length))
  | .put taxaMaxima idL =>
      let novaEmissao := Emissao.novo m.novaRef taxaMaxima quantia empresa agora
      .ok { m with
        emissao := Function.update m.emissao m.novaRef novaEmissao
        emissoes := Function.update m.emissoes empresa (some m.novaRef)
        novaRef := m.novaRef + 1
        exchange := .emissao empresa quantia (.thread taxaMaxima idL m.novaRef) }
  | .thread taxaMaxima idL novaEmissao =>
      .ok { m with
        terminaEmissoes :=
          Function.update m.terminaEmissoes novaEmissao (some ⟨empresa, idL, .remove⟩)
        exchange := .emissao empresa quantia (.post taxaMaxima idL novaEmissao) }
  | .post taxaMaxima idL novaEmissao => do
      let data ← toJson (RestRequest.abertura empresa idL taxaMaxima quantia)
      return (m.chama (Directory.postEmissao data)).em
        (.aceita (.emissao empresa quantia) novaEmissao idL)

def leilao (empresa : String) (quantia : Int32) (juro : R)
    (agora agoraDiretorio : LocalDateTime) (m : Memoria R) : EmLeilao → Except Excecao (Memoria R)
  | .get =>
      match m.leiloes empresa with
      | none =>
          if quantia % 1000 == 0 then .ok (m.em (.leilao empresa quantia juro .put))
          else .ok (m.em .recusa)
      | some _ => .ok (m.em .recusa)
  | .put =>
      let leilao := Leilao.novo m.novaRef juro quantia empresa agora
      .ok { m with
        leilao := Function.update m.leilao m.novaRef leilao
        leiloes := Function.update m.leiloes empresa (some m.novaRef)
        novaRef := m.novaRef + 1
        exchange := .leilao empresa quantia juro (.empresa m.novaRef) }
  | .empresa leilao => do
      let _ ← m.empresaDe empresa
      return m.em (.leilao empresa quantia juro (.historico leilao))
  | .historico leilao => do
      let empresaObj ← m.empresaDe empresa
      return m.em (.leilao empresa quantia juro
        (.thread leilao empresaObj.historicoLeiloes.length))
  | .thread leilao idL =>
      .ok { m with
        terminaLeiloes := Function.update m.terminaLeiloes leilao (some ⟨empresa, idL, .remove⟩)
        exchange := .leilao empresa quantia juro (.post leilao idL) }
  | .post leilao idL => do
      let data ← toJson (RestRequest.abertura empresa idL juro quantia)
      return (m.chama (Directory.postLeilao agoraDiretorio data)).em
        (.aceita (.leilao empresa quantia juro) leilao idL)

/-! ### The settlement threads -/

def terminaLeilao (empresa : String) (idL : Nat) (m : Memoria R) :
    EmTerminaLeilao R → Except Excecao (EmTerminaLeilao R × Memoria R)
  | .remove =>
      match m.leiloes empresa with
      | some leilao =>
          .ok (.soma leilao, { m with leiloes := Function.update m.leiloes empresa none })
      | none => .error .nullPointer
  | .soma leilao =>
      if (m.leilao leilao).montanteTotal ≤ (m.leilao leilao).getInvestimentoTotal then
        .ok (.ordena leilao, { m with
          leilao := Function.update m.leilao leilao { m.leilao leilao with sucesso := true } })
      else .ok (.empresa leilao false false, m)
  | .ordena leilao =>
      .ok (.size leilao
        (alocados (m.leilao leilao).montanteTotal 0 (ordena (m.leilao leilao).licitacoes)), m)
  | .size leilao alocados =>
      if (m.leilao leilao).licitacoes.length = alocados.length then
        .ok (.empresa leilao true false, m)
      else
        let alocado := { m.leilao leilao with licitacoes := alocados }
        .ok (.empresa leilao true true,
          { m with leilao := Function.update m.leilao leilao alocado })
  | .empresa leilao sucesso alocou => do
      let _ ← m.empresaDe empresa
      return (.add leilao sucesso alocou, m)
  | .add leilao sucesso alocou => do
      let empresaObj ← m.empresaDe empresa
      let historicoLeiloes := empresaObj.historicoLeiloes ++ [leilao]
      return (.json leilao sucesso alocou, { m with
        empresas := Function.update m.empresas empresa
          (some { empresaObj with historicoLeiloes }) })
  | .json leilao sucesso alocou => do
      let rr :=
        if alocou then RestRequest.alocacao empresa idL false true (m.leilao leilao).licitacoes
        else RestRequest.desfecho empresa idL false sucesso
      return (.put (← toJson rr), m)
  | .put data => .ok (.fim, m.chama (Directory.putLeilaoSucesso data))
  | .fim => .ok (.fim, m)

def terminaEmissao (empresa : String) (idL : Nat) (m : Memoria R) :
    EmTerminaEmissao R → Except Excecao (EmTerminaEmissao R × Memoria R)
  | .remove =>
      match m.emissoes empresa with
      | some emissao =>
          .ok (.setSucesso emissao, { m with emissoes := Function.update m.emissoes empresa none })
      | none => .error .nullPointer
  | .setSucesso emissao =>
      .ok (.empresa emissao, { m with
        emissao := Function.update m.emissao emissao { m.emissao emissao with sucesso := true } })
  | .empresa emissao => do
      let _ ← m.empresaDe empresa
      return (.add emissao, m)
  | .add emissao => do
      let empresaObj ← m.empresaDe empresa
      let historicoEmissoes := empresaObj.historicoEmissoes ++ [emissao]
      return (.soma emissao, { m with
        empresas := Function.update m.empresas empresa
          (some { empresaObj with historicoEmissoes }) })
  | .soma emissao =>
      let sucesso := decide
        ((m.emissao emissao).montanteTotal ≤ (m.emissao emissao).getInvestimentoTotal)
      .ok (.desfecho emissao sucesso, m)
  | .desfecho emissao sucesso =>
      .ok (.json sucesso, { m with
        emissao := Function.update m.emissao emissao { m.emissao emissao with sucesso } })
  | .json sucesso => do
      return (.put (← toJson (RestRequest.desfecho empresa idL false sucesso)), m)
  | .put data => .ok (.fim, m.chama (Directory.putEmissaoSucesso data))
  | .fim => .ok (.fim, m)

/-! ### Steps -/

/-- A request arrives, or a thread takes its next operation. A clock is read where the operation
creates an object or a record. -/
inductive Passo (R : Type) where
  | recv (p : Pedido R)
  | exchange (agora agoraDiretorio : LocalDateTime)
  | terminaLeilao (ref : Nat)
  | terminaEmissao (ref : Nat)
  deriving DecidableEq

def inicio : Pedido R → Ponto R
  | .licitar empresa investidor quantia juro => .licitar empresa investidor quantia juro .get
  | .emprestimo empresa investidor quantia => .emprestimo empresa investidor quantia .get
  | .emissao empresa quantia => .emissao empresa quantia .get
  | .leilao empresa quantia juro => .leilao empresa quantia juro .get
  | .outro => .recusa

/-- An exception ends `Exchange.run`. -/
def Memoria.seguinte (m : Memoria R) :
    Except Excecao (Memoria R) → Option Resultado × Memoria R
  | .ok m' => (none, m')
  | .error e => (some (.excecao e), m.em .fim)

def Memoria.passa (m : Memoria R) (agora agoraDiretorio : LocalDateTime) :
    Option (Option Resultado × Memoria R) :=
  match m.exchange with
  | .recv => none
  | .licitar empresa investidor quantia juro em =>
      some (m.seguinte (licitar empresa investidor quantia juro m em))
  | .emprestimo empresa investidor quantia em =>
      some (m.seguinte (emprestimo empresa investidor quantia m em))
  | .emissao empresa quantia em =>
      some (m.seguinte (Threads.emissao empresa quantia agora m em))
  | .leilao empresa quantia juro em =>
      some (m.seguinte (Threads.leilao empresa quantia juro agora agoraDiretorio m em))
  | .aceita _ _ _ => some (some (.resposta true), m.em .recv)
  | .recusa => some (some (.resposta false), m.em .recv)
  | .fim => none

def Memoria.poeTerminaLeilao (m : Memoria R) (ref : Nat) (fio : Fio (EmTerminaLeilao R)) :
    Memoria R :=
  { m with terminaLeiloes := Function.update m.terminaLeiloes ref (some fio) }

def Memoria.poeTerminaEmissao (m : Memoria R) (ref : Nat) (fio : Fio (EmTerminaEmissao R)) :
    Memoria R :=
  { m with terminaEmissoes := Function.update m.terminaEmissoes ref (some fio) }

def Memoria.proximo (m : Memoria R) : Passo R → Option (Option Resultado × Memoria R)
  | .recv p =>
      match m.exchange with
      | .recv => some (none, m.em (inicio p))
      | _ => none
  | .exchange agora agoraDiretorio => m.passa agora agoraDiretorio
  | .terminaLeilao ref =>
      match m.terminaLeiloes ref with
      | none => none
      | some ⟨_, _, .fim⟩ => none
      | some ⟨empresa, idL, em⟩ =>
          match terminaLeilao empresa idL m em with
          | .ok (em, m') => some (none, m'.poeTerminaLeilao ref ⟨empresa, idL, em⟩)
          | .error e => some (some (.excecao e), m.poeTerminaLeilao ref ⟨empresa, idL, .fim⟩)
  | .terminaEmissao ref =>
      match m.terminaEmissoes ref with
      | none => none
      | some ⟨_, _, .fim⟩ => none
      | some ⟨empresa, idL, em⟩ =>
          match terminaEmissao empresa idL m em with
          | .ok (em, m') => some (none, m'.poeTerminaEmissao ref ⟨empresa, idL, em⟩)
          | .error e => some (some (.excecao e), m.poeTerminaEmissao ref ⟨empresa, idL, .fim⟩)

def Memoria.Passa (m : Memoria R) (l : Passo R) (r : Option Resultado) (m' : Memoria R) : Prop :=
  m.proximo l = some (r, m')

def Memoria.inicial (nomes registadas : List String) : Memoria R where
  empresas := fun nome => if nome ∈ nomes then some ⟨[], []⟩ else none
  leiloes := fun _ => none
  emissoes := fun _ => none
  leilao := fun ref => .novo ref JavaFloat.zero 0 "" (.atNano 0)
  emissao := fun ref => .novo ref JavaFloat.zero 0 "" (.atNano 0)
  novaRef := 0
  exchange := .recv
  terminaLeiloes := fun _ => none
  terminaEmissoes := fun _ => none
  diretorio := Directory.vazio registadas

abbrev Lance (R : Type) : Type := Runs.Transition (Memoria R) (Passo R) (Option Resultado)

abbrev Run (nomes registadas : List String) : List (Lance R) → Memoria R → Prop :=
  Runs.Run Memoria.Passa (Memoria.inicial nomes registadas)

/-! ### Runs from a list of labels -/

def Memoria.corrida (nomes registadas : List String) (ls : List (Passo Binary32)) :
    Option (List (Lance Binary32) × Memoria Binary32) :=
  Runs.exec Memoria.proximo (.inicial nomes registadas) ls

theorem Memoria.run_corrida {nomes registadas : List String} {ls : List (Passo Binary32)}
    (taken : (Memoria.corrida nomes registadas ls).isSome) :
    Run nomes registadas ((Memoria.corrida nomes registadas ls).get taken).1
      ((Memoria.corrida nomes registadas ls).get taken).2 :=
  Runs.run_exec taken

/-- An auction of `CanecaLda` for 1000 at 0.1, with every operation up to the reply. -/
def umLeilao : List (Passo Binary32) :=
  .recv (.leilao "CanecaLda" 1000 (.intBitsToFloat 0x3DCCCCCD)) ::
    List.replicate 7 (.exchange (.atNano 0) (.atNano 0))

end PeerLanding.Threads
