import PeerLanding.Exchange.Transport

/-! Equations for the requests and the settlement threads: what each one leaves and
how it ends, with the updates that survive an exception. -/

namespace PeerLanding.Exchange

section Testes

variable {R : Type} [JavaFloat R]

def Leilao.Aceita (leilao : Leilao R) (quantia : Int32) (juro : R) : Prop :=
  JavaFloat.lt juro leilao.taxaMaxima = true ∧ quantia % 100 = 0

instance (leilao : Leilao R) (quantia : Int32) (juro : R) :
    Decidable (leilao.Aceita quantia juro) := inferInstanceAs (Decidable (_ ∧ _))

def Empresa.PodeEmitir (empresa : Empresa R) (quantia : Int32) : Prop :=
  (∃ leilao, empresa.historicoLeiloes.getLast? = some leilao ∧ leilao.sucesso = true) ∧
    quantia % 1000 = 0

instance (empresa : Empresa R) (quantia : Int32) : Decidable (empresa.PodeEmitir quantia) :=
  decidable_of_iff
    (empresa.historicoLeiloes.getLast?.any (·.sucesso) = true ∧ quantia % 1000 = 0)
    (by rw [Option.any_eq_true]; rfl)

@[simps] def Leilao.comLicitacao (leilao : Leilao R) (l : Licitacao R) : Leilao R :=
  { leilao with licitacoes := leilao.licitacoes ++ [l] }

@[simps] def Emissao.comLicitacao (emissao : Emissao R) (l : Licitacao R) : Emissao R :=
  { emissao with licitacoes := emissao.licitacoes ++ [l] }

@[simps] def Empresa.comLeilao (empresa : Empresa R) (leilao : Leilao R) : Empresa R :=
  { empresa with historicoLeiloes := empresa.historicoLeiloes ++ [leilao] }

@[simps] def Empresa.comEmissao (empresa : Empresa R) (emissao : Emissao R) : Empresa R :=
  { empresa with historicoEmissoes := empresa.historicoEmissoes ++ [emissao] }

theorem Empresa.taxaEmissao_ok {empresa : Empresa R} {quantia : Int32}
    (h : empresa.PodeEmitir quantia) : ∃ taxa, empresa.taxaEmissao = .ok taxa := by
  obtain ⟨⟨leilao, hl, hs⟩, _⟩ := h
  unfold taxaEmissao
  rw [hl]
  cases empresa.historicoEmissoes.getLast? with
  | none => exact ⟨_, if_pos hs⟩
  | some emissao =>
      dsimp only
      split_ifs <;> exact ⟨_, rfl⟩

/-- The bids that the loop of `alocaInvestidores` takes. -/
def Leilao.alocadas (leilao : Leilao R) : List (Licitacao R) :=
  alocados leilao.montanteTotal 0 (ordena leilao.licitacoes)

/-- An auction fails, succeeds with all its bids, or succeeds with those that were allocated. -/
theorem Leilao.termina_cases (leilao : Leilao R) (c : String) (idL : Int) :
    (¬leilao.montanteTotal ≤ leilao.getInvestimentoTotal ∧
      leilao.termina c idL = (leilao, RestRequest.desfecho c idL false false)) ∨
    (leilao.montanteTotal ≤ leilao.getInvestimentoTotal ∧
      leilao.licitacoes.length = leilao.alocadas.length ∧
      leilao.termina c idL =
        ({ leilao with sucesso := true }, RestRequest.desfecho c idL false true)) ∨
    (leilao.montanteTotal ≤ leilao.getInvestimentoTotal ∧
      leilao.licitacoes.length ≠ leilao.alocadas.length ∧
      leilao.termina c idL =
        ({ leilao with sucesso := true, licitacoes := leilao.alocadas },
          RestRequest.alocacao c idL false true leilao.alocadas)) := by
  unfold termina alocaInvestidores
  by_cases funded : leilao.montanteTotal ≤ leilao.getInvestimentoTotal
  · by_cases all : leilao.licitacoes.length = leilao.alocadas.length
    · refine .inr (.inl ⟨funded, all, ?_⟩)
      rw [alocadas] at all
      simp [funded, all]
    · refine .inr (.inr ⟨funded, all, ?_⟩)
      rw [alocadas] at all ⊢
      simp [funded, all]
  · exact .inl ⟨funded, if_neg funded⟩

theorem Leilao.termina_rr (leilao : Leilao R) (c : String) (idL : Int) :
    (leilao.termina c idL).2.nome = some c ∧ (leilao.termina c idL).2.id = idL := by
  rcases leilao.termina_cases c idL with ⟨_, h⟩ | ⟨_, _, h⟩ | ⟨_, _, h⟩ <;> rw [h] <;>
    exact ⟨rfl, rfl⟩

@[simp] theorem Leilao.termina_ref (leilao : Leilao R) (c : String) (idL : Int) :
    (leilao.termina c idL).1.ref = leilao.ref := by
  rcases leilao.termina_cases c idL with ⟨_, h⟩ | ⟨_, _, h⟩ | ⟨_, _, h⟩ <;> rw [h]

theorem Emissao.termina_eq (emissao : Emissao R) (c : String) (idL : Int) :
    ∃ sucesso, emissao.termina c idL =
      ({ emissao with sucesso }, RestRequest.desfecho c idL false sucesso) := by
  unfold termina
  dsimp only
  split_ifs
  · exact ⟨true, rfl⟩
  · exact ⟨false, rfl⟩

@[simp] theorem Emissao.termina_licitacoes (emissao : Emissao R) (c : String) (idL : Int) :
    (emissao.termina c idL).1.licitacoes = emissao.licitacoes := by
  obtain ⟨sucesso, h⟩ := emissao.termina_eq c idL
  rw [h]

@[simp] theorem Emissao.termina_ref (emissao : Emissao R) (c : String) (idL : Int) :
    (emissao.termina c idL).1.ref = emissao.ref := by
  obtain ⟨sucesso, h⟩ := emissao.termina_eq c idL
  rw [h]

theorem Emissao.termina_rr (emissao : Emissao R) (c : String) (idL : Int) :
    (emissao.termina c idL).2.nome = some c ∧ (emissao.termina c idL).2.id = idL := by
  obtain ⟨sucesso, h⟩ := emissao.termina_eq c idL
  rw [h]
  exact ⟨rfl, rfl⟩

theorem Emissao.termina_finito (emissao : Emissao R) (c : String) (idL : Int) :
    (emissao.termina c idL).2.finito = true := by
  obtain ⟨sucesso, h⟩ := emissao.termina_eq c idL
  rw [h]
  exact RestRequest.finito_desfecho _ _ _ _

end Testes

variable {R : Type} [JavaFloat R] [Gson R] {s : Sistema R} {amb : Ambiente}
  {c investidor : String} {quantia : Int32} {juro : R}

omit [JavaFloat R] [Gson R] in
theorem empresaDe_run (c : String) (s : Sistema R) :
    (empresaDe c).run s =
      match s.empresas c with
      | some empresa => .ok empresa s
      | none => .error .nullPointer s := by
  cases h : s.empresas c <;> simp [empresaDe, h]

theorem licitar_rejeita
    (h : ∀ leilao, s.leiloes c = some leilao → ¬leilao.Aceita quantia juro) :
    (licitar amb c investidor quantia juro).run s = .ok false s := by
  cases hl : s.leiloes c with
  | none => simp [licitar, hl]
  | some leilao =>
      have reject := h leilao hl
      unfold Leilao.Aceita at reject
      simp [licitar, hl, reject]

theorem licitar_aceita {leilao : Leilao R} (hl : s.leiloes c = some leilao)
    (ha : leilao.Aceita quantia juro) :
    (licitar amb c investidor quantia juro).run s =
      let novo := leilao.comLicitacao ⟨investidor, juro, quantia⟩
      let s' := { s with leiloes := Function.update s.leiloes c (some novo) }
      match s.empresas c with
      | none => .error .nullPointer s'
      | some empresa =>
          if JavaFloat.isFinite juro then
            .ok true (s'.relata amb c fun registo =>
              registo.noLeilao empresa.historicoLeiloes.length
                (Directory.Leilao.recebe ⟨leilao.licitacoes.length, investidor, juro, quantia⟩))
          else .error .illegalArgument s' := by
  unfold Leilao.Aceita at ha
  cases he : s.empresas c with
  | none => simp [licitar, hl, ha, empresaDe_run, he, Leilao.comLicitacao]
  | some empresa =>
      cases hf : JavaFloat.isFinite juro <;>
        simp [licitar, hl, ha, empresaDe_run, he, Leilao.comLicitacao,
          postDiretorioInvestidor_leilao_run, hf]

theorem emprestimo_rejeita (h : s.emissoes c = none ∨ quantia % 100 ≠ 0) :
    (emprestimo amb c investidor quantia).run s = .ok false s := by
  cases hl : s.emissoes c with
  | none => simp [emprestimo, hl]
  | some emissao =>
      have reject : quantia % 100 ≠ 0 := by simpa [hl] using h
      simp [emprestimo, hl, reject]

theorem emprestimo_aceita {emissao : Emissao R} (hl : s.emissoes c = some emissao)
    (ha : quantia % 100 = 0) :
    (emprestimo amb c investidor quantia).run s =
      let novo := emissao.comLicitacao (.semTaxa investidor quantia)
      let s' := { s with emissoes := Function.update s.emissoes c (some novo) }
      match s.empresas c with
      | none => .error .nullPointer s'
      | some empresa =>
          .ok true (s'.relata amb c fun registo =>
            registo.naEmissao empresa.historicoEmissoes.length (Directory.Emissao.recebe
              ⟨emissao.licitacoes.length, investidor, JavaFloat.zero, quantia⟩)) := by
  cases he : s.empresas c with
  | none => simp [emprestimo, hl, ha, empresaDe_run, he, Emissao.comLicitacao]
  | some empresa =>
      simp [emprestimo, hl, ha, empresaDe_run, he, Emissao.comLicitacao,
        postDiretorioInvestidor_emissao_run]

theorem emissao_rejeita
    (h : ∀ empresa, s.empresas c = some empresa → ¬empresa.PodeEmitir quantia) :
    (emissao amb c quantia).run s = .ok false s := by
  cases he : s.empresas c with
  | none => simp [emissao, he]
  | some empresa =>
      have reject := h empresa he
      unfold Empresa.PodeEmitir at reject
      cases hl : empresa.historicoLeiloes.getLast? with
      | none => simp [emissao, he, hl]
      | some leilao =>
          simp only [hl, Option.some.injEq, exists_eq_left'] at reject
          simp [emissao, he, hl, reject]

theorem emissao_aceita {empresa : Empresa R} (he : s.empresas c = some empresa)
    (ha : empresa.PodeEmitir quantia) {taxa : R} (ht : empresa.taxaEmissao = .ok taxa) :
    (emissao amb c quantia).run s =
      let idL := empresa.historicoEmissoes.length
      let novo := Emissao.novo s.novaRef taxa quantia c amb.agora
      let s' := { s with
        novaRef := s.novaRef + 1
        emissoes := Function.update s.emissoes c (some novo)
        terminaEmissoes := s.terminaEmissoes ++ [⟨c, idL, s.novaRef⟩] }
      if JavaFloat.isFinite taxa then
        .ok true (s'.relata amb c fun registo => registo.addEmissao idL taxa quantia false [])
      else .error .illegalArgument s' := by
  obtain ⟨⟨leilao, hl, hs⟩, hq⟩ := ha
  cases hf : JavaFloat.isFinite taxa <;>
    simp [emissao, he, hl, hs, hq, ht, novoObjeto, postDiretorioEmpresa_emissao_run, hf]

theorem leilao_rejeita (h : s.leiloes c ≠ none ∨ quantia % 1000 ≠ 0) :
    (leilao amb c quantia juro).run s = .ok false s := by
  cases hl : s.leiloes c with
  | some _ => simp [leilao, hl]
  | none =>
      have reject : quantia % 1000 ≠ 0 := by simpa [hl] using h
      simp [leilao, hl, reject]

theorem leilao_aceita (hl : s.leiloes c = none) (ha : quantia % 1000 = 0) :
    (leilao amb c quantia juro).run s =
      let novo := Leilao.novo s.novaRef juro quantia c amb.agora
      let s' := { s with
        novaRef := s.novaRef + 1
        leiloes := Function.update s.leiloes c (some novo) }
      match s.empresas c with
      | none => .error .nullPointer s'
      | some empresa =>
          let idL := empresa.historicoLeiloes.length
          let s'' := { s' with terminaLeiloes := s.terminaLeiloes ++ [⟨c, idL, s.novaRef⟩] }
          if JavaFloat.isFinite juro then
            .ok true (s''.relata amb c fun registo =>
              registo.addLeilao idL JavaFloat.zero quantia amb.agoraDiretorio false)
          else .error .illegalArgument s'' := by
  cases he : s.empresas c with
  | none => simp [leilao, hl, ha, novoObjeto, empresaDe_run, he]
  | some empresa =>
      cases hf : JavaFloat.isFinite juro <;>
        simp [leilao, hl, ha, novoObjeto, empresaDe_run, he,
          postDiretorioEmpresa_leilao_run, hf]

theorem terminaLeilao_nulo {this : TerminaLeilao} (hl : s.leiloes this.empresa = none) :
    (this.run amb).run s = .error .nullPointer
      { s with leiloes := Function.update s.leiloes this.empresa none } := by
  simp [TerminaLeilao.run, hl]

theorem terminaLeilao_run {this : TerminaLeilao} {leilao : Leilao R}
    (hl : s.leiloes this.empresa = some leilao) :
    (this.run amb).run s =
      let fim := leilao.termina this.empresa this.idL
      let s' := { s with leiloes := Function.update s.leiloes this.empresa none }
      match s.empresas this.empresa with
      | none => .error .nullPointer s'
      | some empresa =>
          let s'' := { s' with
            empresas := Function.update s.empresas this.empresa (some (empresa.comLeilao fim.1)) }
          if fim.2.finito then
            .ok () (s''.relata amb this.empresa fun registo =>
              registo.noLeilao this.idL (Directory.Leilao.encerra fim.2.recebido))
          else .error .illegalArgument s'' := by
  have rr := leilao.termina_rr this.empresa this.idL
  cases he : s.empresas this.empresa with
  | none => simp [TerminaLeilao.run, hl, empresaDe_run, he]
  | some empresa =>
      cases hf : (leilao.termina this.empresa this.idL).2.finito <;>
        simp [TerminaLeilao.run, hl, empresaDe_run, he, toJson_run, hf, Empresa.comLeilao,
          envia_run (@Directory.after_putLeilaoSucesso _ (leilao.termina _ _).2.recebido _ _ _
            rr.1 rr.2)]

theorem terminaEmissao_nulo {this : TerminaEmissao} (hl : s.emissoes this.empresa = none) :
    (this.run amb).run s = .error .nullPointer
      { s with emissoes := Function.update s.emissoes this.empresa none } := by
  simp [TerminaEmissao.run, hl]

theorem terminaEmissao_run {this : TerminaEmissao} {emissao : Emissao R}
    (hl : s.emissoes this.empresa = some emissao) :
    (this.run amb).run s =
      let fim := emissao.termina this.empresa this.idL
      let s' := { s with emissoes := Function.update s.emissoes this.empresa none }
      match s.empresas this.empresa with
      | none => .error .nullPointer s'
      | some empresa =>
          let s'' := { s' with
            empresas := Function.update s.empresas this.empresa
              (some (empresa.comEmissao fim.1)) }
          .ok () (s''.relata amb this.empresa fun registo =>
            registo.naEmissao this.idL (Directory.Emissao.encerra fim.2.recebido)) := by
  have rr := emissao.termina_rr this.empresa this.idL
  cases he : s.empresas this.empresa with
  | none => simp [TerminaEmissao.run, hl, empresaDe_run, he]
  | some empresa =>
      simp [TerminaEmissao.run, hl, empresaDe_run, he, toJson_run, Empresa.comEmissao,
        emissao.termina_finito,
        envia_run (@Directory.after_putEmissaoSucesso _ (emissao.termina _ _).2.recebido _ _ _
          rr.1 rr.2)]

end PeerLanding.Exchange
