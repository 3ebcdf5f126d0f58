import PeerLanding.Directory.Resources

/-! The GET handlers of the resource class `Directory` that look up one auction, one emission,
a list of bids or a single bid. -/

namespace PeerLanding.Directory

inductive Response (α : Type) where
  | entity (obj : α)
  | notFound
  deriving DecidableEq

/-- A GET handler reads the map; an exception becomes an error response. -/
abbrev Consulta (R α : Type) : Type := Directory R → Except Excecao (Response α)

variable {R α β : Type}

/-- `nome == null` has status 404. Otherwise `empresas.get(nome)` is dereferenced. -/
def daEmpresa (nome : Option String) (f : Empresa R → Except Excecao (Response α)) :
    Consulta R α := fun empresas =>
  match nome with
  | none => .ok .notFound
  | some nome =>
      match empresas nome with
      | none => .error .nullPointer
      | some empresa => f empresa

/-- `id >= xs.size()` has status 404. Otherwise the answer is made from `xs.get(id)`. -/
def porId (xs : List α) (id : Int) (f : α → Except Excecao (Response β)) :
    Except Excecao (Response β) :=
  if id ≥ xs.length then .ok .notFound
  else do f (← Java.get xs id)

theorem daEmpresa_some {nome : String} {empresas : Directory R} {empresa : Empresa R}
    (h : empresas nome = some empresa) (f : Empresa R → Except Excecao (Response α)) :
    daEmpresa (some nome) f empresas = f empresa := by
  simp [daEmpresa, h]

theorem porId_of_found {xs : List α} {n : Nat} {x : α} (found : xs[n]? = some x)
    (f : α → Except Excecao (Response β)) : porId xs n f = f x := by
  have inside := (List.getElem?_eq_some_iff.1 found).1
  rw [porId, if_neg (by simpa using inside), Java.get_natCast.2 found]
  rfl

theorem porId_of_past {xs : List α} {n : Nat} (past : xs[n]? = none)
    (f : α → Except Excecao (Response β)) : porId xs n f = .ok .notFound := by
  rw [porId, if_pos (by simpa using past)]

theorem porId_negative (xs : List α) (n : Nat) (f : α → Except Excecao (Response β)) :
    porId xs (.negSucc n) f = .error .indexOutOfBounds := by
  rw [porId, if_neg (by omega)]
  rfl

/-! ### The handlers -/

def getLeilao (nome : Option String) (id : Int) : Consulta R (Leilao R) :=
  daEmpresa nome fun empresa =>
    porId empresa.historicoLeiloes id fun leilao => .ok (.entity leilao)

/-- The entity is a `clone()` with the same fields. -/
def getEmissao (nome : Option String) (id : Int) : Consulta R (Emissao R) :=
  daEmpresa nome fun empresa =>
    porId empresa.historicoEmissoes id fun emissao => .ok (.entity emissao)

def getLicitacoesLeilao (nome : Option String) (id : Int) : Consulta R (List (Licitacao R)) :=
  daEmpresa nome fun empresa =>
    porId empresa.historicoLeiloes id fun leilao => .ok (.entity leilao.licitacoes)

def getLicitacoesEmissao (nome : Option String) (id : Int) : Consulta R (List (Licitacao R)) :=
  daEmpresa nome fun empresa =>
    porId empresa.historicoEmissoes id fun emissao => .ok (.entity emissao.licitacoes)

def getLicitacaoLeilao (nome : Option String) (idL id : Int) : Consulta R (Licitacao R) :=
  daEmpresa nome fun empresa =>
    porId empresa.historicoLeiloes idL fun leilao =>
      porId leilao.licitacoes id fun licitacao => .ok (.entity licitacao)

def getLicitacaoEmissao (nome : Option String) (idE id : Int) : Consulta R (Licitacao R) :=
  daEmpresa nome fun empresa =>
    porId empresa.historicoEmissoes idE fun emissao =>
      porId emissao.licitacoes id fun licitacao => .ok (.entity licitacao)

end PeerLanding.Directory
