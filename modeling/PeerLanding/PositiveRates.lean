import PeerLanding.Rates

/-! No emission is opened at a zero or negative rate: `emissao` takes its rate from a
successful auction, where `Float.MIN_VALUE` bounds it, or from an emission before it. -/

namespace PeerLanding

open Exchange

variable {ε : {q : ℚ // 0 < q}}

theorem Exchange.Leilao.maxima_pos (leilao : Leilao (Exact ε)) :
    0 < leilao.getTaxaLicitacaoMaxima := by
  have identity := (Exact.notAfter_iff _ _).1
    (JavaFloat.le_foldl_max (leilao.licitacoes.map (·.taxa)) JavaFloat.minValue).1
  exact lt_of_lt_of_le ε.property identity

theorem Exchange.Emissao.proxima_pos {emissao : Emissao (Exact ε)} (h : 0 < emissao.taxa) :
    0 < emissao.proxima := by
  unfold proxima
  split_ifs
  · exact h
  · rw [Exact.mul110_eq]
    exact mul_pos h Exact.aumento_pos

def Ficha.TaxasPositivas (f : Ficha (Exact ε)) : Prop :=
  ∀ emissao ∈ f.emissoes, 0 < emissao.taxa

variable {c : String} {registadas nomes : List String} {t : List (Momento (Exact ε))}
  {f f' : Ficha (Exact ε)} {l : Passo (Exact ε)} {r : Resultado}

/-- When `emissao` asks for a rate it gets one, and it is positive: neither `lastElement`
of an empty history nor the fall-through is reached. -/
theorem Ficha.TaxasPositivas.taxaEmissao (h : f.TaxasPositivas) {quantia : Int32}
    (pode : f.empresa.PodeEmitir quantia) :
    ∃ taxa, f.empresa.taxaEmissao = .ok taxa ∧ 0 < taxa := by
  obtain ⟨leilao, last, sucesso⟩ := pode.1
  cases again : f.empresa.reinicia with
  | true =>
      exact ⟨_, Empresa.taxaEmissao_reinicia last sucesso again, leilao.maxima_pos⟩
  | false =>
      obtain ⟨anterior, settled, price⟩ := Empresa.taxaEmissao_continua last again
      have before : anterior ∈ f.emissoes :=
        List.mem_append_left _ (List.mem_of_getLast? settled)
      exact ⟨_, price, Emissao.proxima_pos (h anterior before)⟩

theorem Ficha.Passa.taxasPositivas (hs : f.Passa c l r f') (h : f.TaxasPositivas) :
    f'.TaxasPositivas := by
  have issued {quantia : Int32} {taxa : Exact ε} (pode : f.empresa.PodeEmitir quantia)
      (preco : f.empresa.taxaEmissao = .ok taxa) : 0 < taxa := by
    obtain ⟨outra, price, positive⟩ := h.taxaEmissao pode
    rw [preco, Except.ok.injEq] at price
    exact price ▸ positive
  unfold Ficha.TaxasPositivas Ficha.emissoes at *
  cases hs with
  | emissao amb pode preco _ =>
      have positive := issued pode preco
      simp_all [or_imp, forall_and]
  | emissaoEspecial amb pode preco _ =>
      have positive := issued pode preco
      simp_all [or_imp, forall_and]
  | @terminaEmissao amb thread emissao _ _ aberta =>
      obtain ⟨sucesso, outcome⟩ := emissao.termina_eq c thread.idL
      simp_all [or_imp, forall_and]
  | _ => simp_all [or_imp, forall_and]

theorem Ficha.Run.taxasPositivas (h : Ficha.Run c registadas t f) : f.TaxasPositivas := by
  refine Runs.Run.invariant (fun _ f => f.TaxasPositivas) h ?_ ?_
  · intro emissao he
    cases he
  · intro t f l r f' _ ih hs
    exact hs.taxasPositivas ih

/-! ### Companies that are not hosted -/

structure Sistema.SemEmissao (s : Sistema (Exact ε)) (c : String) : Prop where
  empresa : s.empresas c = none
  emissao : s.emissoes c = none

namespace Sistema.SemEmissao

variable [Gson (Exact ε)] {s s' : Sistema (Exact ε)} {amb : Ambiente}

theorem atende (h : s.SemEmissao c) {p : Pedido (Exact ε)}
    (about : (Passo.pedido amb p).empresa = some c) :
    (Java.state ((Exchange.atende amb p).run s)).SemEmissao c := by
  cases p with
  | licitar d investidor quantia juro =>
      cases about
      by_cases ha : ∃ leilao, s.leiloes c = some leilao ∧ leilao.Aceita quantia juro
      · obtain ⟨leilao, hl, ha⟩ := ha
        rw [Exchange.atende, licitar_aceita hl ha, h.empresa]
        exact ⟨h.empresa, h.emissao⟩
      · rw [Exchange.atende, licitar_rejeita (by simpa using ha)]
        exact h
  | emprestimo d investidor quantia =>
      cases about
      rw [Exchange.atende, emprestimo_rejeita (.inl h.emissao)]
      exact h
  | emissao d quantia =>
      cases about
      rw [Exchange.atende, emissao_rejeita (by simp [h.empresa])]
      exact h
  | leilao d quantia juro =>
      cases about
      by_cases ha : s.leiloes c = none ∧ quantia % 1000 = 0
      · rw [Exchange.atende, leilao_aceita ha.1 ha.2, h.empresa]
        exact ⟨h.empresa, h.emissao⟩
      · rw [Exchange.atende, leilao_rejeita (by tauto)]
        exact h
  | outro => cases about

theorem terminaLeilao {thread : TerminaLeilao} (h : s.SemEmissao thread.empresa) :
    (Java.state ((thread.run amb).run s)).SemEmissao thread.empresa := by
  cases hl : s.leiloes thread.empresa with
  | none => exact terminaLeilao_nulo hl ▸ ⟨h.empresa, h.emissao⟩
  | some leilao =>
      rw [terminaLeilao_run hl, h.empresa]
      exact ⟨h.empresa, h.emissao⟩

theorem terminaEmissao {thread : TerminaEmissao} (h : s.SemEmissao thread.empresa) :
    (Java.state ((thread.run amb).run s)).SemEmissao thread.empresa := by
  rw [terminaEmissao_nulo h.emissao]
  exact ⟨h.empresa, Function.update_self _ _ _⟩

theorem passa (h : s.SemEmissao c) (step : s.Passa l r s') : s'.SemEmissao c := by
  refine passa_mantem (c := c) (P := fun s => s.SemEmissao c) ?_ ?_ ?_ ?_ ?_ ?_ ?_ h step
  · intro s s' spared h
    exact ⟨spared.empresa.trans h.empresa, (congrArg Ficha.emissao spared.ficha).trans h.emissao⟩
  · exact fun s vivo h => ⟨h.empresa, h.emissao⟩
  · exact fun s threads h => ⟨h.empresa, h.emissao⟩
  · exact fun s threads h => ⟨h.empresa, h.emissao⟩
  · exact fun s amb p about h => h.atende about
  · rintro s amb thread rfl h
    exact h.terminaLeilao
  · rintro s amb thread rfl h
    exact h.terminaEmissao

end Sistema.SemEmissao

section Runs

variable [Gson (Exact ε)] {t : List (Transicao (Exact ε))} {s : Sistema (Exact ε)}

theorem Sistema.Run.semEmissao (h : Sistema.Run nomes registadas t s) (hc : c ∉ nomes) :
    s.SemEmissao c := by
  refine Runs.Run.invariant (fun _ s => s.SemEmissao c) h ⟨if_neg hc, rfl⟩ ?_
  intro t s l r s' _ ih step
  exact ih.passa step

theorem Sistema.Run.taxasPositivas (h : Sistema.Run nomes registadas t s) (c : String) :
    (s.ficha c).TaxasPositivas := by
  by_cases hc : c ∈ nomes
  · exact (h.percurso hc).taxasPositivas
  · obtain ⟨empresa, emissao⟩ := Sistema.Run.semEmissao h hc
    simp [Ficha.TaxasPositivas, Ficha.emissoes, Sistema.ficha, empresa, emissao]

/-- In every reachable state every emission of every company has a positive rate, and an
`emissao` request, whatever it does then, has asked for a rate only to be given a positive
one. -/
theorem positiveRates (h : Sistema.Run nomes registadas t s) (c : String) :
    (∀ emissao ∈ s.emissoes c, 0 < emissao.taxa) ∧
      ∀ empresa ∈ s.empresas c,
        (∀ emissao ∈ empresa.historicoEmissoes, 0 < emissao.taxa) ∧
        ∀ quantia, empresa.PodeEmitir quantia →
          ∃ taxa, empresa.taxaEmissao = .ok taxa ∧ 0 < taxa := by
  have positive := Sistema.Run.taxasPositivas h c
  refine ⟨?_, ?_⟩
  · intro emissao aberta
    refine positive emissao (List.mem_append_right _ ?_)
    exact Option.mem_toList.2 aberta
  · intro empresa hosted
    have same : (s.ficha c).empresa = empresa := by simp [Sistema.ficha, Option.mem_def.1 hosted]
    rw [← same]
    refine ⟨?_, fun quantia pode => positive.taxaEmissao pode⟩
    intro emissao issued
    exact positive emissao (List.mem_append_left _ issued)

end Runs

theorem positiveRates_crossing :
    ∃ (t : List (Transicao (Exact milesimo))) (s : Sistema (Exact milesimo)),
      Sistema.Run ["CanecaLda", "SapatoLda"] Directory.nomes t s ∧ t.length = 10 ∧
        (s.emissoes "CanecaLda").isSome ∧ ∀ emissao ∈ s.emissoes "CanecaLda", 0 < emissao.taxa :=
  ⟨_, _, Sistema.run_corrida crossingSteps_taken, by decide +kernel, by decide +kernel,
    (positiveRates (Sistema.run_corrida crossingSteps_taken) "CanecaLda").1⟩

end PeerLanding
