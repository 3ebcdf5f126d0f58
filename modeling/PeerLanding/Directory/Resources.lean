import Mathlib.Logic.Function.Basic
import PeerLanding.Directory.Representations
import PeerLanding.Java

/-! The resource class `Directory`: the map of companies and its POST and PUT
handlers. An exception in a handler becomes an error response and leaves the
map as the handler left it. -/

namespace PeerLanding

abbrev Directory (R : Type) : Type := String → Option (Directory.Empresa R)

namespace Directory

variable {R : Type}

/-- The companies of the constructor `Directory()`. -/
def nomes : List String :=
  ["SapatoLda", "IsqueiroLda", "MesasLda", "AguaLda", "VinhoLda", "SandesLda", "OreoLda",
    "MongoLda", "RelogioLda", "CanecaLda"]

def vazio (nomes : List String) : Directory R :=
  fun nome => if nome ∈ nomes then some (Empresa.novo nome) else none

def novo : Directory R := vazio nomes

theorem eq_novo_of_vazio {nomes : List String} {c : String} {empresa : Empresa R}
    (h : empresa ∈ (vazio nomes : Directory R) c) : empresa = Empresa.novo c := by
  rw [Option.mem_def, vazio] at h
  split_ifs at h
  exact (Option.some.inj h).symm

/-- Handlers return the status of their response. -/
abbrev Handler (R : Type) : Type → Type := EStateM Excecao (Directory R)

/-- `empresas.get(restRequest.getNome())` followed by an update of that company. -/
def naEmpresa (nome : Option String) (f : Empresa R → Except Excecao (Empresa R)) :
    Handler R Nat := do
  match nome with
  | none => throw .nullPointer
  | some nome =>
      match (← get) nome with
      | none => throw .nullPointer
      | some empresa =>
          match f empresa with
          | .error e => throw e
          | .ok empresa =>
              modify fun empresas => Function.update empresas nome (some empresa)
              return 201

namespace Empresa

@[simps] def noLeilao (empresa : Empresa R) (n : Nat) (f : Leilao R → Leilao R) : Empresa R :=
  { empresa with historicoLeiloes := empresa.historicoLeiloes.modify n f }

@[simps] def naEmissao (empresa : Empresa R) (n : Nat) (f : Emissao R → Emissao R) : Empresa R :=
  { empresa with historicoEmissoes := empresa.historicoEmissoes.modify n f }

end Empresa

/-- The company a handler leaves: its update, or the company itself after an exception. -/
def apply (f : Empresa R → Except Excecao (Empresa R)) (empresa : Empresa R) : Empresa R :=
  match f empresa with
  | .ok empresa' => empresa'
  | .error _ => empresa

theorem after_naEmpresa (nome : String) (f : Empresa R → Except Excecao (Empresa R))
    (d : Directory R) :
    Java.after (naEmpresa (some nome) f) d =
      Function.update d nome ((d nome).map (apply f)) := by
  cases hd : d nome with
  | none =>
      rw [Option.map_none, ← hd, Function.update_eq_self]
      simp [Java.after, naEmpresa, hd]
  | some empresa =>
      cases hf : f empresa with
      | ok empresa' => simp [Java.after, naEmpresa, hd, hf, apply]
      | error e =>
          rw [Option.map_some, apply, hf, ← hd, Function.update_eq_self]
          simp [Java.after, naEmpresa, hd, hf]

theorem apply_noLeilao (n : Nat) (f : Leilao R → Leilao R) :
    apply (fun empresa => do
      let historicoLeiloes ← Java.update empresa.historicoLeiloes n f
      return { empresa with historicoLeiloes }) = fun empresa => empresa.noLeilao n f := by
  funext empresa
  by_cases h : n < empresa.historicoLeiloes.length
  · simp [apply, Java.update_natCast, h, Empresa.noLeilao]
  · simp [apply, Java.update_natCast, h, Empresa.noLeilao, List.modify_eq_self (not_lt.1 h)]

theorem apply_naEmissao (n : Nat) (f : Emissao R → Emissao R) :
    apply (fun empresa => do
      let historicoEmissoes ← Java.update empresa.historicoEmissoes n f
      return { empresa with historicoEmissoes }) = fun empresa => empresa.naEmissao n f := by
  funext empresa
  by_cases h : n < empresa.historicoEmissoes.length
  · simp [apply, Java.update_natCast, h, Empresa.naEmissao]
  · simp [apply, Java.update_natCast, h, Empresa.naEmissao, List.modify_eq_self (not_lt.1 h)]

/-! ### The handlers -/
/-- The record takes its `taxaMaxima` from the field `juro`. -/
def postLeilao (agora : LocalDateTime) (rr : RestRequest R) : Handler R Nat :=
  naEmpresa rr.nome fun empresa =>
    .ok (empresa.addLeilao rr.id rr.juro rr.montanteTotal agora false)

def postLeilaoLicitacao (rr : RestRequest R) : Handler R Nat :=
  naEmpresa rr.nome fun empresa => do
    let historicoLeiloes ← Java.update empresa.historicoLeiloes rr.id
      (Leilao.recebe ⟨rr.idL, rr.investidor, rr.juro, rr.quantia⟩)
    return { empresa with historicoLeiloes }

def putLeilaoSucesso (rr : RestRequest R) : Handler R Nat :=
  naEmpresa rr.nome fun empresa => do
    let historicoLeiloes ← Java.update empresa.historicoLeiloes rr.id (Leilao.encerra rr)
    return { empresa with historicoLeiloes }

/-- `post`, the handler of `POST /empresa/emissao`. -/
def postEmissao (rr : RestRequest R) : Handler R Nat :=
  naEmpresa rr.nome fun empresa =>
    .ok (empresa.addEmissao rr.id rr.taxaMaxima rr.montanteTotal false [])

def postEmissaoLicitacao [JavaFloat R] (rr : RestRequest R) : Handler R Nat :=
  naEmpresa rr.nome fun empresa => do
    let historicoEmissoes ← Java.update empresa.historicoEmissoes rr.id
      (Emissao.recebe ⟨rr.idL, rr.investidor, JavaFloat.zero, rr.quantia⟩)
    return { empresa with historicoEmissoes }

def putEmissaoSucesso (rr : RestRequest R) : Handler R Nat :=
  naEmpresa rr.nome fun empresa => do
    let historicoEmissoes ← Java.update empresa.historicoEmissoes rr.id (Emissao.encerra rr)
    return { empresa with historicoEmissoes }

/-! ### The handlers addressed to record `n` of a company -/

variable {rr : RestRequest R} {c : String} {n : Nat} {d : Directory R}

theorem after_postLeilaoLicitacao (nome : rr.nome = some c) (id : rr.id = n) :
    Java.after (postLeilaoLicitacao rr) d = Function.update d c ((d c).map fun empresa =>
      empresa.noLeilao n (Leilao.recebe ⟨rr.idL, rr.investidor, rr.juro, rr.quantia⟩)) := by
  rw [postLeilaoLicitacao, nome, id, after_naEmpresa, apply_noLeilao]

theorem after_putLeilaoSucesso (nome : rr.nome = some c) (id : rr.id = n) :
    Java.after (putLeilaoSucesso rr) d = Function.update d c ((d c).map fun empresa =>
      empresa.noLeilao n (Leilao.encerra rr)) := by
  rw [putLeilaoSucesso, nome, id, after_naEmpresa, apply_noLeilao]

theorem after_postEmissaoLicitacao [JavaFloat R] (nome : rr.nome = some c) (id : rr.id = n) :
    Java.after (postEmissaoLicitacao rr) d = Function.update d c ((d c).map fun empresa =>
      empresa.naEmissao n
        (Emissao.recebe ⟨rr.idL, rr.investidor, JavaFloat.zero, rr.quantia⟩)) := by
  rw [postEmissaoLicitacao, nome, id, after_naEmpresa, apply_naEmissao]

theorem after_putEmissaoSucesso (nome : rr.nome = some c) (id : rr.id = n) :
    Java.after (putEmissaoSucesso rr) d = Function.update d c ((d c).map fun empresa =>
      empresa.naEmissao n (Emissao.encerra rr)) := by
  rw [putEmissaoSucesso, nome, id, after_naEmpresa, apply_naEmissao]

end Directory

end PeerLanding
