import PeerLanding.Exchange.Specs
import PeerLanding.Exchange.Steps

/-! The six updates that the exchange sends to the Directory, what each has to leave there to
carry the values of the exchange, and what the Directory makes of it. -/

namespace PeerLanding

open Exchange

/-- An update about a company: `idL` is the number of its auction or emission, `id` that of a
bid. A settled auction comes with its bids when they have been allocated. -/
inductive Exchange.Relato (R : Type) where
  | leilao (idL : Int) (taxaMaxima : R) (montanteTotal : Int32)
  | emissao (idL : Int) (taxa : R) (montanteTotal : Int32)
  | licitacao (idL id : Int) (licitacao : Licitacao R)
  | emprestimo (idL id : Int) (investidor : String) (quantia : Int32)
  | terminaLeilao (idL : Int) (sucesso : Bool) (alocados : Option (List (Licitacao R)))
  | terminaEmissao (idL : Int) (sucesso : Bool)

namespace Directory

variable {R : Type}

def emPosicao {α : Type} (f : α → α) (xs : List α) : Int → List α
  | .ofNat n => xs.modify n f
  | .negSucc _ => xs

theorem apply_leilao (i : Int) (f : Leilao R → Leilao R) :
    apply (fun empresa => do
      let historicoLeiloes ← Java.update empresa.historicoLeiloes i f
      return { empresa with historicoLeiloes }) = fun empresa : Empresa R =>
        { empresa with historicoLeiloes := emPosicao f empresa.historicoLeiloes i } := by
  cases i with
  | ofNat n => exact apply_noLeilao n f
  | negSucc n => rfl

theorem apply_emissao (i : Int) (f : Emissao R → Emissao R) :
    apply (fun empresa => do
      let historicoEmissoes ← Java.update empresa.historicoEmissoes i f
      return { empresa with historicoEmissoes }) = fun empresa : Empresa R =>
        { empresa with historicoEmissoes := emPosicao f empresa.historicoEmissoes i } := by
  cases i with
  | ofNat n => exact apply_naEmissao n f
  | negSucc n => rfl

end Directory

namespace Exchange

variable {R : Type} [JavaFloat R]

/-- The request that reports the outcome of an auction. -/
def RestRequest.terminado (empresa : String) (idL : Int) (sucesso : Bool) :
    Option (List (Licitacao R)) → RestRequest R
  | none => desfecho empresa idL false sucesso
  | some alocados => alocacao empresa idL false sucesso alocados

/-- The bids that a settlement sends along: those it has allocated, when some are left out. -/
def Leilao.enviadas (leilao : Leilao R) : Option (List (Licitacao R)) :=
  if leilao.montanteTotal ≤ leilao.getInvestimentoTotal ∧
      leilao.licitacoes.length ≠ leilao.alocadas.length then some leilao.alocadas
  else none

theorem Leilao.enviadas_eq_some {leilao : Leilao R} {ls : List (Licitacao R)} :
    leilao.enviadas = some ls ↔ (leilao.montanteTotal ≤ leilao.getInvestimentoTotal ∧
      leilao.licitacoes.length ≠ leilao.alocadas.length) ∧ ls = leilao.alocadas := by
  rw [enviadas, Option.ite_none_right_eq_some, Option.some.injEq, eq_comm (a := ls)]

/-- `TerminaLeilao` reports success, and the bids kept when some were left out. -/
theorem Leilao.termina_terminado (leilao : Leilao R) (c : String) (idL : Int) :
    (leilao.termina c idL).2 = RestRequest.terminado c idL
      (decide (leilao.montanteTotal ≤ leilao.getInvestimentoTotal)) leilao.enviadas := by
  rcases leilao.termina_cases c idL with ⟨failed, h⟩ | ⟨funded, all, h⟩ | ⟨funded, part, h⟩
  · rw [h]
    simp [failed, enviadas, RestRequest.terminado]
  · rw [h]
    simp [funded, all, enviadas, RestRequest.terminado]
  · rw [h]
    simp [funded, part, enviadas, RestRequest.terminado]

theorem RestRequest.finito_terminado (c : String) (idL : Int) (sucesso : Bool)
    (alocados : Option (List (Licitacao R))) :
    (terminado c idL sucesso alocados).finito =
      (alocados.getD []).all fun l => JavaFloat.isFinite l.taxa := by
  cases alocados with
  | none => exact finito_desfecho c idL false sucesso
  | some alocados => simp [terminado, finito, alocacao, JavaFloat.isFinite_zero]

namespace Relato

variable [Gson R]

def envia (amb : Ambiente) (empresa : String) : Relato R → Programa R Unit
  | .leilao idL taxaMaxima montanteTotal =>
      postDiretorioEmpresa amb .leilao empresa idL taxaMaxima montanteTotal
  | .emissao idL taxa montanteTotal =>
      postDiretorioEmpresa amb .emissao empresa idL taxa montanteTotal
  | .licitacao idL id ⟨investidor, taxa, quantia⟩ =>
      postDiretorioInvestidor amb .leilao empresa idL id investidor taxa quantia
  | .emprestimo idL id investidor quantia =>
      postDiretorioInvestidor amb .emissao empresa idL id investidor JavaFloat.zero quantia
  | .terminaLeilao idL sucesso alocados => do
      let data ← toJson (RestRequest.terminado empresa idL sucesso alocados)
      Exchange.envia amb (Directory.putLeilaoSucesso data)
  | .terminaEmissao idL sucesso => do
      let data ← toJson (RestRequest.desfecho empresa idL false sucesso)
      Exchange.envia amb (Directory.putEmissaoSucesso data)

omit [Gson R]

/-- The company's record with the values of the update in it. A bid in an outcome has no number
at the exchange, so the Directory reads `0`. -/
def fiel (agora : LocalDateTime) (registo : Directory.Empresa R) :
    Relato R → Directory.Empresa R
  | .leilao idL taxaMaxima montanteTotal =>
      { registo with
        historicoLeiloes := registo.historicoLeiloes ++
          [⟨idL, taxaMaxima, montanteTotal, registo.nome, agora.format, false, true, []⟩] }
  | .emissao idL taxa montanteTotal =>
      { registo with
        historicoEmissoes := registo.historicoEmissoes ++
          [⟨idL, taxa, montanteTotal, registo.nome, false, true, []⟩] }
  | .licitacao idL id l =>
      { registo with
        historicoLeiloes := Directory.emPosicao (fun leilao =>
          { leilao with
            licitacoes := leilao.licitacoes ++ [⟨id, some l.investidor, l.taxa, l.quantia⟩] })
          registo.historicoLeiloes idL }
  | .emprestimo idL id investidor quantia =>
      { registo with
        historicoEmissoes := Directory.emPosicao (fun emissao =>
          { emissao with
            licitacoes := emissao.licitacoes ++
              [⟨id, some investidor, JavaFloat.zero, quantia⟩] })
          registo.historicoEmissoes idL }
  | .terminaLeilao idL sucesso alocados =>
      { registo with
        historicoLeiloes := Directory.emPosicao (fun leilao =>
          { leilao with
            sucesso
            ativo := false
            licitacoes := match alocados with
              | none => leilao.licitacoes
              | some ls => ls.map fun l => ⟨0, some l.investidor, l.taxa, l.quantia⟩ })
          registo.historicoLeiloes idL }
  | .terminaEmissao idL sucesso =>
      { registo with
        historicoEmissoes := Directory.emPosicao (fun emissao =>
          { emissao with sucesso, ativo := false }) registo.historicoEmissoes idL }

def finito : Relato R → Bool
  | .leilao _ taxa _ => JavaFloat.isFinite taxa
  | .emissao _ taxa _ => JavaFloat.isFinite taxa
  | .licitacao _ _ l => JavaFloat.isFinite l.taxa
  | .emprestimo _ _ _ _ => true
  | .terminaLeilao _ _ alocados => (alocados.getD []).all fun l => JavaFloat.isFinite l.taxa
  | .terminaEmissao _ _ => true

/-- The update as the Directory takes it: `postLeilao` reads the rate from `juro`, which the
request of an opened auction leaves at zero. -/
def lido : Relato R → Relato R
  | .leilao idL _ montanteTotal => .leilao idL JavaFloat.zero montanteTotal
  | u => u

variable [Gson R] {amb : Ambiente} {c : String} {s s' : Sistema R}

theorem envia_run (u : Relato R) :
    (u.envia amb c).run s =
      if u.finito then .ok () (s.relata amb c fun registo => u.lido.fiel amb.agoraDiretorio registo)
      else .error .illegalArgument s := by
  cases u with
  | leilao idL taxaMaxima montanteTotal => exact postDiretorioEmpresa_leilao_run _ _ _
  | emissao idL taxa montanteTotal => exact postDiretorioEmpresa_emissao_run _ _ _
  | licitacao idL id l =>
      rw [envia, postDiretorioInvestidor, toJson_bind_run, RestRequest.finito_licitacao]
      congr 1
      refine Exchange.envia_run ?_
      rw [Directory.postLeilaoLicitacao]
      exact (Directory.after_naEmpresa c _ _).trans (by rw [Directory.apply_leilao]; rfl)
  | emprestimo idL id investidor quantia =>
      rw [envia, postDiretorioInvestidor, toJson_bind_run, RestRequest.finito_emprestimo]
      refine Exchange.envia_run ?_
      rw [Directory.postEmissaoLicitacao]
      exact (Directory.after_naEmpresa c _ _).trans (by rw [Directory.apply_emissao]; rfl)
  | terminaLeilao idL sucesso alocados =>
      rw [envia, toJson_bind_run, RestRequest.finito_terminado]
      congr 1
      refine Exchange.envia_run ?_
      rw [Directory.putLeilaoSucesso]
      cases alocados with
      | none => exact (Directory.after_naEmpresa c _ _).trans (by rw [Directory.apply_leilao]; rfl)
      | some alocados =>
          exact (Directory.after_naEmpresa c _ _).trans (by rw [Directory.apply_leilao]; rfl)
  | terminaEmissao idL sucesso =>
      rw [envia, toJson_bind_run, RestRequest.finito_desfecho]
      refine Exchange.envia_run ?_
      rw [Directory.putEmissaoSucesso]
      exact (Directory.after_naEmpresa c _ _).trans (by rw [Directory.apply_emissao]; rfl)

omit [Gson R] in
theorem fiel_lido (u : Relato R) (agora : LocalDateTime) (registo : Directory.Empresa R) :
    u.lido.fiel agora registo = u.fiel agora registo ↔
      ∀ idL taxaMaxima montanteTotal, u = .leilao idL taxaMaxima montanteTotal →
        taxaMaxima = JavaFloat.zero := by
  cases u with
  | leilao idL taxaMaxima montanteTotal => simp [lido, fiel, eq_comm]
  | _ => simp [lido]

end Relato

end Exchange

open Exchange

variable {R : Type} [JavaFloat R] [Gson R] {amb : Ambiente} {c : String} {s s' : Sistema R}

/-- A delivered update leaves in the Directory what the exchange had, unless it opens an auction
and its maximum rate is not zero. -/
theorem updatesAgree {u : Relato R} (sent : amb.entregue = true)
    (emitted : (u.envia amb c).run s = .ok () s') :
    s'.diretorio = Function.update s.diretorio c
        ((s.diretorio c).map fun registo => u.fiel amb.agoraDiretorio registo) ↔
      ∀ idL taxaMaxima montanteTotal, u = .leilao idL taxaMaxima montanteTotal →
        (s.diretorio c).isSome → taxaMaxima = JavaFloat.zero := by
  rw [Relato.envia_run] at emitted
  split_ifs at emitted with finite
  obtain rfl : s.relata amb c (fun registo => u.lido.fiel amb.agoraDiretorio registo) = s' := by
    simpa using emitted
  rw [Sistema.relata, if_pos sent, (Function.update_injective s.diretorio c).eq_iff]
  cases hd : s.diretorio c with
  | none => simp
  | some registo => simpa using u.fiel_lido amb.agoraDiretorio registo

abbrev openedAuction : Relato Binary32 := .leilao 0 (.intBitsToFloat 0x3DCCCCCD) 1000

theorem updatesAgree_rate :
    ∃ s' : Sistema Binary32,
      (openedAuction.envia (.em 1) "CanecaLda").run (.inicial ["CanecaLda"] Directory.nomes) =
        .ok () s' ∧
      (s'.diretorio "CanecaLda").map (fun registo =>
        registo.historicoLeiloes.map fun leilao => (leilao.id, leilao.taxaMaxima)) =
          some [(0, Binary32.zero)] ∧
      s'.diretorio ≠ Function.update (Directory.vazio Directory.nomes) "CanecaLda"
        ((Directory.vazio Directory.nomes "CanecaLda").map fun registo =>
          openedAuction.fiel (.atNano 1) registo) := by
  refine ⟨_, Relato.envia_run openedAuction, by decide +kernel, ?_⟩
  intro same
  have rates := congrArg (fun d : Directory Binary32 => (d "CanecaLda").map fun registo =>
    registo.historicoLeiloes.map (·.taxaMaxima)) same
  exact absurd rates (by decide +kernel)

/-- An emission for 1000 at `0.1` is recorded as it was sent. -/
theorem updatesAgree_emission :
    ∃ s' : Sistema Binary32,
      ((Relato.emissao 0 (.intBitsToFloat 0x3DCCCCCD) 1000).envia (.em 1) "CanecaLda").run
        (.inicial ["CanecaLda"] Directory.nomes) = .ok () s' ∧
      s'.diretorio = Function.update (Directory.vazio Directory.nomes) "CanecaLda"
        ((Directory.vazio Directory.nomes "CanecaLda").map fun registo =>
          (Relato.emissao 0 (.intBitsToFloat 0x3DCCCCCD) 1000).fiel (.atNano 1) registo) := by
  have emitted := @Relato.envia_run Binary32 _ _ (.em 1) "CanecaLda"
    (.inicial ["CanecaLda"] Directory.nomes) (.emissao 0 (.intBitsToFloat 0x3DCCCCCD) 1000)
  exact ⟨_, emitted, (updatesAgree rfl emitted).2 fun _ _ _ opened => by cases opened⟩

end PeerLanding
