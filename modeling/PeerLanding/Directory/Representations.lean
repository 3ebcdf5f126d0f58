import Mathlib.Tactic.Simps.Basic
import PeerLanding.Json
import PeerLanding.LocalDateTime

/-! The classes the Directory keeps: `Licitacao`, `Leilao`, `Emissao`, `Empresa`,
and its own `RestRequest`, read from JSON by the names in the annotations. -/

namespace PeerLanding.Directory

structure Licitacao (R : Type) where
  id : Int
  investidor : Option String
  taxa : R
  quantia : Int32
  deriving DecidableEq

structure Leilao (R : Type) where
  id : Int
  taxaMaxima : R
  montanteTotal : Int32
  empresa : String
  data : String
  sucesso : Bool
  ativo : Bool
  licitacoes : List (Licitacao R)
  deriving DecidableEq

structure Emissao (R : Type) where
  id : Int
  taxa : R
  montanteTotal : Int32
  empresa : String
  sucesso : Bool
  ativo : Bool
  licitacoes : List (Licitacao R)
  deriving DecidableEq

structure Empresa (R : Type) where
  nome : String
  historicoLeiloes : List (Leilao R)
  historicoEmissoes : List (Emissao R)
  deriving DecidableEq

structure RestRequest (R : Type) where
  nome : Option String
  id : Int
  taxaMaxima : R
  montanteTotal : Int32
  idL : Int
  investidor : Option String
  juro : R
  quantia : Int32
  sucesso : Bool
  ativo : Bool
  licitacaos : Option (List (Licitacao R))
  deriving DecidableEq

def Empresa.novo {R : Type} (nome : String) : Empresa R := ⟨nome, [], []⟩

variable {R : Type}

def Leilao.recebe (l : Licitacao R) (leilao : Leilao R) : Leilao R :=
  { leilao with licitacoes := leilao.licitacoes ++ [l] }

/-- A null `licitacaos` leaves the bids as they are. -/
def Leilao.encerra (rr : RestRequest R) (leilao : Leilao R) : Leilao R :=
  { leilao with
    sucesso := rr.sucesso
    ativo := rr.ativo
    licitacoes := rr.licitacaos.getD leilao.licitacoes }

def Emissao.recebe (l : Licitacao R) (emissao : Emissao R) : Emissao R :=
  { emissao with licitacoes := emissao.licitacoes ++ [l] }

def Emissao.encerra (rr : RestRequest R) (emissao : Emissao R) : Emissao R :=
  { emissao with sucesso := rr.sucesso, ativo := rr.ativo }

section Leitura

variable [JavaFloat R]

/-- The `@JsonCreator` of `Licitacao`. -/
def Licitacao.ofJson (j : Json R) : Licitacao R where
  id := (j.field "id").asInt
  investidor := (j.field "investidor").asString
  taxa := (j.field "taxa").asFloat
  quantia := Int32.ofInt (j.field "quantia").asInt

/-- The `@JsonCreator` of `RestRequest`. -/
def RestRequest.ofJson (j : Json R) : RestRequest R where
  nome := (j.field "nome").asString
  id := (j.field "id").asInt
  taxaMaxima := (j.field "taxaMaxima").asFloat
  montanteTotal := Int32.ofInt (j.field "montanteTotal").asInt
  idL := (j.field "idL").asInt
  investidor := (j.field "investidor").asString
  juro := (j.field "juro").asFloat
  quantia := Int32.ofInt (j.field "quantia").asInt
  sucesso := (j.field "sucesso").asBool
  ativo := (j.field "ativo").asBool
  licitacaos := (j.field "licitacaos").asList.map (·.map Licitacao.ofJson)

end Leitura

namespace Empresa

@[simps] def addLeilao (empresa : Empresa R) (id : Int) (taxaMaxima : R) (montanteTotal : Int32)
    (data : LocalDateTime) (sucesso : Bool) : Empresa R :=
  let leilao := ⟨id, taxaMaxima, montanteTotal, empresa.nome, data.format, sucesso, true, []⟩
  { empresa with historicoLeiloes := empresa.historicoLeiloes ++ [leilao] }

/-- The constructor of `Emissao` without `ativo` sets it to true. -/
@[simps] def addEmissao (empresa : Empresa R) (id : Int) (taxa : R) (montanteTotal : Int32)
    (sucesso : Bool) (licitacoes : List (Licitacao R)) : Empresa R :=
  let emissao := ⟨id, taxa, montanteTotal, empresa.nome, sucesso, true, licitacoes⟩
  { empresa with historicoEmissoes := empresa.historicoEmissoes ++ [emissao] }

end Empresa

end PeerLanding.Directory
