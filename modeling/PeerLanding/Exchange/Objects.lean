import Mathlib.Data.List.Sort
import Mathlib.Tactic.Simps.Basic
import PeerLanding.Java
import PeerLanding.JavaFloat
import PeerLanding.LocalDateTime

/-! The classes of the exchange: `Licitacao`, `Leilao`, `Emissao`, `Empresa`.
A `Leilao` or `Emissao` carries `ref`, its object identity, which the source has
implicitly. Getters are the fields; setters are record updates. -/

namespace PeerLanding.Exchange

@[ext] structure Licitacao (R : Type) where
  investidor : String
  taxa : R
  quantia : Int32
  deriving DecidableEq

structure Leilao (R : Type) where
  ref : Nat
  taxaMaxima : R
  montanteTotal : Int32
  empresa : String
  data : LocalDateTime
  sucesso : Bool
  licitacoes : List (Licitacao R)
  deriving DecidableEq

structure Emissao (R : Type) where
  ref : Nat
  taxa : R
  montanteTotal : Int32
  empresa : String
  sucesso : Bool
  data : LocalDateTime
  licitacoes : List (Licitacao R)
  deriving DecidableEq

structure Empresa (R : Type) where
  nome : String
  historicoLeiloes : List (Leilao R)
  historicoEmissoes : List (Emissao R)
  deriving DecidableEq

@[simps] def Empresa.novo {R : Type} (nome : String) : Empresa R := ⟨nome, [], []⟩

variable {R : Type} [JavaFloat R]

/-- The constructor without a rate: `taxa` keeps the default of a `float` field. -/
def Licitacao.semTaxa (investidor : String) (quantia : Int32) : Licitacao R :=
  ⟨investidor, JavaFloat.zero, quantia⟩

@[simps] def Leilao.novo (ref : Nat) (taxaMaxima : R) (montanteTotal : Int32) (empresa : String)
    (agora : LocalDateTime) : Leilao R :=
  ⟨ref, taxaMaxima, montanteTotal, empresa, agora, false, []⟩

@[simps] def Emissao.novo (ref : Nat) (taxa : R) (montanteTotal : Int32) (empresa : String)
    (agora : LocalDateTime) : Emissao R :=
  ⟨ref, taxa, montanteTotal, empresa, false, agora, []⟩

/-- `stream().map(a -> a.quantia).reduce(0, Integer::sum)`, the same in both classes. -/
def somaQuantias (licitacoes : List (Licitacao R)) : Int32 :=
  (licitacoes.map (·.quantia)).foldl (· + ·) 0

def Leilao.getInvestimentoTotal (leilao : Leilao R) : Int32 := somaQuantias leilao.licitacoes

def Emissao.getInvestimentoTotal (emissao : Emissao R) : Int32 := somaQuantias emissao.licitacoes

def Leilao.getTaxaLicitacaoMaxima (leilao : Leilao R) : R :=
  (leilao.licitacoes.map (·.taxa)).foldl JavaFloat.max JavaFloat.minValue

/-- The comparator `(o1, o2) -> Float.compare(o1.taxa, o2.taxa)`, as "not after". -/
abbrev naoDepois (o1 o2 : Licitacao R) : Prop := JavaFloat.compare o1.taxa o2.taxa ≠ .gt

/-- `stream().sorted(..)`, which is stable: insertion sort computes the same list. -/
def ordena (licitacoes : List (Licitacao R)) : List (Licitacao R) :=
  licitacoes.insertionSort naoDepois

/-- The loop of `alocaInvestidores`; the result is `alocados`. -/
def alocados (montanteTotal : Int32) : Int32 → List (Licitacao R) → List (Licitacao R)
  | _, [] => []
  | sum, l :: resto =>
      let sum := sum + l.quantia
      if sum ≥ montanteTotal then [l] else l :: alocados montanteTotal sum resto

def Leilao.alocaInvestidores (leilao : Leilao R) : Bool × Leilao R :=
  let alocados := alocados leilao.montanteTotal 0 (ordena leilao.licitacoes)
  if leilao.licitacoes.length = alocados.length then (false, leilao)
  else (true, { leilao with licitacoes := alocados })

/-- `taxaEmissao`. `lastElement` of an empty history raises `NoSuchElementException`;
the last statement is the fall-through `return 0`. -/
def Empresa.taxaEmissao (empresa : Empresa R) : Except Excecao R :=
  match empresa.historicoLeiloes.getLast? with
  | none => .error .noSuchElement
  | some leilao =>
      match empresa.historicoEmissoes.getLast? with
      | some emissao =>
          if leilao.data.isAfter emissao.data && leilao.sucesso then
            .ok leilao.getTaxaLicitacaoMaxima
          else if !leilao.data.isAfter emissao.data && emissao.sucesso then
            .ok emissao.taxa
          else if !leilao.data.isAfter emissao.data && !emissao.sucesso then
            .ok (JavaFloat.mul110 emissao.taxa)
          else .ok JavaFloat.zero
      | none =>
          if leilao.sucesso then .ok leilao.getTaxaLicitacaoMaxima
          else .ok JavaFloat.zero

end PeerLanding.Exchange
