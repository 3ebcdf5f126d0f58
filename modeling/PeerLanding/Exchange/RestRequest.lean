import PeerLanding.Exchange.Objects
import PeerLanding.Json

/-! `Exchange.RestRequest` with its five constructors, and what the exchange
relies on in Gson, which is not part of the repository. -/

namespace PeerLanding.Exchange

structure RestRequest (R : Type) where
  nome : Option String
  id : Int
  taxaMaxima : R
  montanteTotal : Int32
  idL : Int
  investidor : Option String
  juro : R
  quantia : Int32
  sucesso : Bool
  ativo : Bool
  licitacaos : Option (List (Licitacao R))

variable {R : Type} [JavaFloat R]

namespace RestRequest

def abertura (nome : String) (id : Int) (taxaMaxima : R) (montanteTotal : Int32) :
    RestRequest R where
  nome := nome
  id := id
  taxaMaxima := taxaMaxima
  montanteTotal := montanteTotal
  idL := -1
  investidor := none
  juro := JavaFloat.zero
  quantia := 0
  ativo := false
  sucesso := false
  licitacaos := none

def licitacao (empresa : String) (id idL : Int) (investidor : String) (juro : R)
    (quantia : Int32) : RestRequest R where
  nome := empresa
  id := id
  taxaMaxima := JavaFloat.zero
  montanteTotal := 0
  idL := idL
  investidor := investidor
  juro := juro
  quantia := quantia
  ativo := false
  sucesso := false
  licitacaos := none

def emprestimo (empresa : String) (id idL : Int) (investidor : String) (quantia : Int32) :
    RestRequest R where
  nome := empresa
  id := id
  taxaMaxima := JavaFloat.zero
  montanteTotal := 0
  idL := idL
  investidor := investidor
  juro := JavaFloat.zero
  quantia := quantia
  ativo := false
  sucesso := false
  licitacaos := none

def desfecho (empresa : String) (id : Int) (ativo sucesso : Bool) : RestRequest R where
  nome := empresa
  id := id
  taxaMaxima := JavaFloat.zero
  montanteTotal := 0
  idL := -1
  investidor := none
  juro := JavaFloat.zero
  quantia := 0
  ativo := ativo
  sucesso := sucesso
  licitacaos := none

def alocacao (empresa : String) (id : Int) (ativo sucesso : Bool)
    (licitacaos : List (Licitacao R)) : RestRequest R where
  nome := empresa
  id := id
  taxaMaxima := JavaFloat.zero
  montanteTotal := 0
  idL := -1
  investidor := none
  juro := JavaFloat.zero
  quantia := 0
  ativo := ativo
  sucesso := sucesso
  licitacaos := some licitacaos

end RestRequest

def Licitacao.json (l : Licitacao R) : Json R :=
  .obj [("investidor", .str l.investidor), ("taxa", .float l.taxa),
    ("quantia", .int l.quantia.toInt)]

/-- Null references are left out. -/
def RestRequest.json (rr : RestRequest R) : Json R :=
  .obj (Json.optional "nome" (rr.nome.map .str) ++
    [("id", .int rr.id), ("taxaMaxima", .float rr.taxaMaxima),
      ("montanteTotal", .int rr.montanteTotal.toInt), ("idL", .int rr.idL)] ++
    Json.optional "investidor" (rr.investidor.map .str) ++
    [("juro", .float rr.juro), ("quantia", .int rr.quantia.toInt),
      ("sucesso", .bool rr.sucesso), ("ativo", .bool rr.ativo)] ++
    Json.optional "licitacaos" (rr.licitacaos.map fun ls => .arr (ls.map Licitacao.json)))

def RestRequest.finito (rr : RestRequest R) : Bool :=
  JavaFloat.isFinite rr.taxaMaxima && JavaFloat.isFinite rr.juro &&
    (rr.licitacaos.getD []).all fun l => JavaFloat.isFinite l.taxa

/-- `new Gson().toJson(rr)`: the fields by name, except that Gson refuses infinite
and NaN floats with an `IllegalArgumentException`. -/
class Gson (R : Type) [JavaFloat R] where
  toJson : RestRequest R → Except Excecao (Json R)
  toJson_finito : ∀ rr, rr.finito = true → toJson rr = .ok rr.json
  toJson_especial : ∀ rr, rr.finito = false → toJson rr = .error .illegalArgument

instance (priority := low) : Gson R where
  toJson rr := if rr.finito then .ok rr.json else .error .illegalArgument
  toJson_finito rr h := by rw [if_pos h]
  toJson_especial rr h := by rw [if_neg (by simp [h])]

end PeerLanding.Exchange
