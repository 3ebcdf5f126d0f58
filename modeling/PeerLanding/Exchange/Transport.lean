import PeerLanding.Exchange.Operations

/-! What a request of the exchange is when the Directory has read it, and what
the six updates then do to the Directory. -/

namespace PeerLanding.Exchange

variable {R : Type} [JavaFloat R]

/-- A bid as the Directory reads it: the bid has no `id`, so it reads `0`. -/
def Licitacao.recebida (l : Licitacao R) : Directory.Licitacao R :=
  ⟨0, some l.investidor, l.taxa, l.quantia⟩

def RestRequest.recebido (rr : RestRequest R) : Directory.RestRequest R where
  nome := rr.nome
  id := rr.id
  taxaMaxima := rr.taxaMaxima
  montanteTotal := rr.montanteTotal
  idL := rr.idL
  investidor := rr.investidor
  juro := rr.juro
  quantia := rr.quantia
  sucesso := rr.sucesso
  ativo := rr.ativo
  licitacaos := rr.licitacaos.map (·.map Licitacao.recebida)

theorem Licitacao.ofJson_json (l : Licitacao R) :
    Directory.Licitacao.ofJson l.json = l.recebida := by
  simp [Directory.Licitacao.ofJson, Licitacao.json, Licitacao.recebida, Json.field,
    Json.asInt, Json.asString, Json.asFloat, List.lookup_cons]

/-- Every field is read back from where it was written. -/
theorem RestRequest.ofJson_json (rr : RestRequest R) :
    Directory.RestRequest.ofJson rr.json = rr.recebido := by
  obtain ⟨nome, id, taxaMaxima, montanteTotal, idL, investidor, juro, quantia, sucesso, ativo,
    licitacaos⟩ := rr
  have bids : ∀ ls : List (Licitacao R),
      ls.map (Directory.Licitacao.ofJson ∘ Licitacao.json) = ls.map Licitacao.recebida :=
    fun ls => List.map_congr_left fun l _ => Licitacao.ofJson_json l
  cases nome <;> cases investidor <;> cases licitacaos <;>
    simp [Directory.RestRequest.ofJson, RestRequest.json, RestRequest.recebido, Json.field,
      Json.optional, Json.asInt, Json.asString, Json.asFloat, Json.asBool, Json.asList,
      List.lookup_cons, bids]

theorem toJson_run [Gson R] (rr : RestRequest R) (s : Sistema R) :
    (toJson rr).run s =
      if rr.finito then .ok rr.recebido s else .error .illegalArgument s := by
  unfold toJson
  cases h : rr.finito with
  | true => simp [Gson.toJson_finito rr h, RestRequest.ofJson_json]
  | false => simp [Gson.toJson_especial rr h]

theorem toJson_bind_run [Gson R] {α : Type} (rr : RestRequest R)
    (k : Directory.RestRequest R → Programa R α) (s : Sistema R) :
    (toJson rr >>= k).run s =
      if rr.finito then (k rr.recebido).run s else .error .illegalArgument s := by
  rw [EStateM.run_bind, toJson_run]
  cases rr.finito <;> rfl

theorem RestRequest.finito_abertura (c : String) (idL : Int) (taxaMaxima : R)
    (quantia : Int32) :
    (abertura c idL taxaMaxima quantia).finito = JavaFloat.isFinite taxaMaxima := by
  simp [finito, abertura, JavaFloat.isFinite_zero]

theorem RestRequest.finito_licitacao (c : String) (id idL : Int) (investidor : String)
    (juro : R) (quantia : Int32) :
    (licitacao c id idL investidor juro quantia).finito = JavaFloat.isFinite juro := by
  simp [finito, licitacao, JavaFloat.isFinite_zero]

theorem RestRequest.finito_emprestimo (c : String) (id idL : Int) (investidor : String)
    (quantia : Int32) :
    (emprestimo (R := R) c id idL investidor quantia).finito = true := by
  simp [finito, emprestimo, JavaFloat.isFinite_zero]

theorem RestRequest.finito_desfecho (c : String) (id : Int) (ativo sucesso : Bool) :
    (desfecho (R := R) c id ativo sucesso).finito = true := by
  simp [finito, desfecho, JavaFloat.isFinite_zero]

end PeerLanding.Exchange

namespace PeerLanding

open Exchange

/-- The Directory after a call about company `c` that changes its record by `f`. -/
def Sistema.relata {R : Type} (s : Sistema R) (amb : Ambiente) (c : String)
    (f : Directory.Empresa R → Directory.Empresa R) : Sistema R :=
  if amb.entregue then
    { s with diretorio := Function.update s.diretorio c ((s.diretorio c).map f) }
  else s

namespace Exchange

variable {R : Type} {s : Sistema R} {amb : Ambiente} {c : String}

theorem envia_run {handler : Directory.Handler R Nat}
    {f : Directory.Empresa R → Directory.Empresa R}
    (h : Java.after handler s.diretorio =
      Function.update s.diretorio c ((s.diretorio c).map f)) :
    (envia amb handler).run s = .ok () (s.relata amb c f) := by
  simp [envia, Sistema.relata, h]

variable [JavaFloat R] [Gson R]

/-- The record of an opened auction gets the rate `juro` of the request, which is zero. -/
theorem postDiretorioEmpresa_leilao_run (idL : Int) (taxaMaxima : R) (quantia : Int32) :
    (postDiretorioEmpresa amb .leilao c idL taxaMaxima quantia).run s =
      if JavaFloat.isFinite taxaMaxima then
        .ok () (s.relata amb c fun empresa =>
          empresa.addLeilao idL JavaFloat.zero quantia amb.agoraDiretorio false)
      else .error .illegalArgument s := by
  rw [postDiretorioEmpresa, toJson_bind_run, RestRequest.finito_abertura]
  congr 1
  exact envia_run (Directory.after_naEmpresa c _ _)

theorem postDiretorioEmpresa_emissao_run (idL : Int) (taxaMaxima : R) (quantia : Int32) :
    (postDiretorioEmpresa amb .emissao c idL taxaMaxima quantia).run s =
      if JavaFloat.isFinite taxaMaxima then
        .ok () (s.relata amb c fun empresa =>
          empresa.addEmissao idL taxaMaxima quantia false [])
      else .error .illegalArgument s := by
  rw [postDiretorioEmpresa, toJson_bind_run, RestRequest.finito_abertura]
  congr 1
  exact envia_run (Directory.after_naEmpresa c _ _)

theorem postDiretorioInvestidor_leilao_run (n : Nat) (id : Int) (investidor : String)
    (juro : R) (quantia : Int32) :
    (postDiretorioInvestidor amb .leilao c n id investidor juro quantia).run s =
      if JavaFloat.isFinite juro then
        .ok () (s.relata amb c fun empresa =>
          empresa.noLeilao n (Directory.Leilao.recebe ⟨id, investidor, juro, quantia⟩))
      else .error .illegalArgument s := by
  rw [postDiretorioInvestidor, toJson_bind_run, RestRequest.finito_licitacao]
  congr 1
  exact envia_run (Directory.after_postLeilaoLicitacao rfl rfl)

theorem postDiretorioInvestidor_emissao_run (n : Nat) (id : Int) (investidor : String)
    (juro : R) (quantia : Int32) :
    (postDiretorioInvestidor amb .emissao c n id investidor juro quantia).run s =
      .ok () (s.relata amb c fun empresa =>
        empresa.naEmissao n
          (Directory.Emissao.recebe ⟨id, investidor, JavaFloat.zero, quantia⟩)) := by
  rw [postDiretorioInvestidor, toJson_bind_run, RestRequest.finito_emprestimo, if_pos rfl]
  exact envia_run (Directory.after_postEmissaoLicitacao rfl rfl)

end Exchange

end PeerLanding
