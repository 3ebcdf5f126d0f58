import PeerLanding.Directory.Resources
import PeerLanding.Exchange.RestRequest

/-! The four requests of `Exchange`, and the two settlement threads `TerminaLeilao`
and `TerminaEmissao`, over the exchange's maps, its unfired threads and the
Directory it reports to. Messages on the `pub` socket are not part of the state.
A settlement thread carries `ref`, the object it was started for; no program reads it. -/

namespace PeerLanding

namespace Exchange

structure TerminaLeilao where
  empresa : String
  idL : Nat
  ref : Nat
  deriving DecidableEq

structure TerminaEmissao where
  empresa : String
  idL : Nat
  ref : Nat
  deriving DecidableEq

/-- What a step takes from outside: the two clocks, and whether its HTTP call gets through. -/
structure Ambiente where
  agora : LocalDateTime
  agoraDiretorio : LocalDateTime
  entregue : Bool

end Exchange

open Exchange

/-- One exchange and the Directory. `vivo` is false once `Exchange.run` has ended. -/
structure Sistema (R : Type) where
  empresas : String → Option (Empresa R)
  leiloes : String → Option (Leilao R)
  emissoes : String → Option (Emissao R)
  terminaLeiloes : List TerminaLeilao
  terminaEmissoes : List TerminaEmissao
  novaRef : Nat
  vivo : Bool
  diretorio : Directory R

namespace Exchange

abbrev Programa (R : Type) : Type → Type := EStateM Excecao (Sistema R)

inductive Recurso where
  | leilao
  | emissao
  deriving DecidableEq

variable {R : Type}

/-- `empresas.get(empresa)` where the result is dereferenced. -/
def empresaDe (empresa : String) : Programa R (Empresa R) := do
  match (← get).empresas empresa with
  | some empresaObj => return empresaObj
  | none => throw .nullPointer

def novoObjeto : Programa R Nat :=
  modifyGet fun s => (s.novaRef, { s with novaRef := s.novaRef + 1 })

/-- `sendPost` and `sendPut`: a failed call is swallowed, and so is an error response. -/
def envia (amb : Ambiente) (handler : Directory.Handler R Nat) : Programa R Unit :=
  modify fun s =>
    if amb.entregue then { s with diretorio := Java.after handler s.diretorio } else s

variable [JavaFloat R] [Gson R]

/-- `new Gson().toJson(rr)`, decoded at the other end. -/
def toJson (rr : RestRequest R) : Programa R (Directory.RestRequest R) :=
  match Gson.toJson rr with
  | .ok data => return Directory.RestRequest.ofJson data
  | .error e => throw e

def postDiretorioEmpresa (amb : Ambiente) (tipo : Recurso) (empresa : String) (idL : Int)
    (taxaMaxima : R) (quantia : Int32) : Programa R Unit := do
  let data ← toJson (RestRequest.abertura empresa idL taxaMaxima quantia)
  match tipo with
  | .leilao => envia amb (Directory.postLeilao amb.agoraDiretorio data)
  | .emissao => envia amb (Directory.postEmissao data)

def postDiretorioInvestidor (amb : Ambiente) (tipo : Recurso) (empresa : String)
    (idL id : Int) (investidor : String) (juro : R) (quantia : Int32) : Programa R Unit := do
  match tipo with
  | .leilao =>
      let data ← toJson (RestRequest.licitacao empresa idL id investidor juro quantia)
      envia amb (Directory.postLeilaoLicitacao data)
  | .emissao =>
      let data ← toJson (RestRequest.emprestimo empresa idL id investidor quantia)
      envia amb (Directory.postEmissaoLicitacao data)

def licitar (amb : Ambiente) (empresa investidor : String) (quantia : Int32) (juro : R) :
    Programa R Bool := do
  match (← get).leiloes empresa with
  | none => return false
  | some leilaoAtual =>
      if JavaFloat.lt juro leilaoAtual.taxaMaxima && quantia % 100 == 0 then
        let licitacao := ⟨investidor, juro, quantia⟩
        let leilaoAtual :=
          { leilaoAtual with licitacoes := leilaoAtual.licitacoes ++ [licitacao] }
        modify fun s =>
          { s with leiloes := Function.update s.leiloes empresa (some leilaoAtual) }
        let empresaObj ← empresaDe empresa
        postDiretorioInvestidor amb .leilao empresa empresaObj.historicoLeiloes.length
          (leilaoAtual.licitacoes.length - 1) investidor juro quantia
        return true
      else
        return false

def emprestimo (amb : Ambiente) (empresa investidor : String) (quantia : Int32) :
    Programa R Bool := do
  match (← get).emissoes empresa with
  | none => return false
  | some emissaoAtual =>
      if quantia % 100 == 0 then
        let licitacao := Licitacao.semTaxa investidor quantia
        let emissaoAtual :=
          { emissaoAtual with licitacoes := emissaoAtual.licitacoes ++ [licitacao] }
        modify fun s =>
          { s with emissoes := Function.update s.emissoes empresa (some emissaoAtual) }
        let empresaObj ← empresaDe empresa
        postDiretorioInvestidor amb .emissao empresa empresaObj.historicoEmissoes.length
          (emissaoAtual.licitacoes.length - 1) investidor JavaFloat.zero quantia
        return true
      else
        return false

def emissao (amb : Ambiente) (empresa : String) (quantia : Int32) : Programa R Bool := do
  match (← get).empresas empresa with
  | none => return false
  | some empresaObj =>
      match empresaObj.historicoLeiloes.getLast? with
      | none => return false
      | some ultimoLeilao =>
          if ultimoLeilao.sucesso && quantia % 1000 == 0 then
            match empresaObj.taxaEmissao with
            | .error e => throw e
            | .ok taxaMaxima =>
                let idL := empresaObj.historicoEmissoes.length
                let ref ← novoObjeto
                let novaEmissao := Emissao.novo ref taxaMaxima quantia empresa amb.agora
                modify fun s =>
                  { s with
                    emissoes := Function.update s.emissoes empresa (some novaEmissao)
                    terminaEmissoes := s.terminaEmissoes ++ [⟨empresa, idL, ref⟩] }
                postDiretorioEmpresa amb .emissao empresa idL taxaMaxima quantia
                return true
          else
            return false

def leilao (amb : Ambiente) (empresa : String) (quantia : Int32) (juro : R) :
    Programa R Bool := do
  match (← get).leiloes empresa with
  | some _ => return false
  | none =>
      if quantia % 1000 == 0 then
        let ref ← novoObjeto
        let leilao := Leilao.novo ref juro quantia empresa amb.agora
        modify fun s => { s with leiloes := Function.update s.leiloes empresa (some leilao) }
        let idL := (← empresaDe empresa).historicoLeiloes.length
        modify fun s => { s with terminaLeiloes := s.terminaLeiloes ++ [⟨empresa, idL, ref⟩] }
        postDiretorioEmpresa amb .leilao empresa idL juro quantia
        return true
      else
        return false

/-- The outcome of an auction, and the request that reports it. -/
def Leilao.termina (leilao : Leilao R) (empresa : String) (idL : Int) :
    Leilao R × RestRequest R :=
  if leilao.montanteTotal ≤ leilao.getInvestimentoTotal then
    let leilao := { leilao with sucesso := true }
    match leilao.alocaInvestidores with
    | (true, leilao) => (leilao, RestRequest.alocacao empresa idL false true leilao.licitacoes)
    | (false, leilao) => (leilao, RestRequest.desfecho empresa idL false true)
  else
    (leilao, RestRequest.desfecho empresa idL false false)

def TerminaLeilao.run (amb : Ambiente) (this : TerminaLeilao) : Programa R Unit := do
  let leilao := (← get).leiloes this.empresa
  modify fun s => { s with leiloes := Function.update s.leiloes this.empresa none }
  match leilao with
  | none => throw .nullPointer
  | some leilao =>
      let (leilao, rr) := leilao.termina this.empresa this.idL
      let empresa ← empresaDe this.empresa
      let historicoLeiloes := empresa.historicoLeiloes ++ [leilao]
      modify fun s =>
        { s with
          empresas := Function.update s.empresas this.empresa
            (some { empresa with historicoLeiloes }) }
      let data ← toJson rr
      envia amb (Directory.putLeilaoSucesso data)

/-- The flag is set before the sum is compared, and set again afterwards. -/
def Emissao.termina (emissao : Emissao R) (empresa : String) (idL : Int) :
    Emissao R × RestRequest R :=
  let emissao := { emissao with sucesso := true }
  if emissao.montanteTotal ≤ emissao.getInvestimentoTotal then
    ({ emissao with sucesso := true }, RestRequest.desfecho empresa idL false true)
  else
    ({ emissao with sucesso := false }, RestRequest.desfecho empresa idL false false)

def TerminaEmissao.run (amb : Ambiente) (this : TerminaEmissao) : Programa R Unit := do
  let emissao := (← get).emissoes this.empresa
  modify fun s => { s with emissoes := Function.update s.emissoes this.empresa none }
  match emissao with
  | none => throw .nullPointer
  | some emissao =>
      let (emissao, rr) := emissao.termina this.empresa this.idL
      let empresa ← empresaDe this.empresa
      let historicoEmissoes := empresa.historicoEmissoes ++ [emissao]
      modify fun s =>
        { s with
          empresas := Function.update s.empresas this.empresa
            (some { empresa with historicoEmissoes }) }
      let data ← toJson rr
      envia amb (Directory.putEmissaoSucesso data)

end Exchange

end PeerLanding
