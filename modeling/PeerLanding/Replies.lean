import PeerLanding.Company

/-! Which requests are answered, and for how long: the loop of `Exchange.run` stays
alive until a request raises an exception. -/

namespace PeerLanding

open Exchange

variable {R : Type} [JavaFloat R] [Gson R] {s s' : Sistema R} {l : Passo R} {r : Resultado}
  {c : String} {amb : Ambiente}

namespace Sistema

theorem passa_of_ok (vivo : s.vivo = true) {p : Pedido R} {sucesso : Bool}
    (h : (atende amb p).run s = .ok sucesso s') :
    s.Passa (.pedido amb p) (.resposta sucesso) s' := by
  simp [Passa, proximo, vivo, h]

theorem passa_terminaLeilao (amb : Ambiente) {thread : TerminaLeilao}
    (por : thread ∈ s.terminaLeiloes) :
    ∃ r s', s.Passa (.terminaLeilao amb thread) r s' :=
  ⟨_, _, if_pos por⟩

theorem vivo_of_run {u : List (Transicao R)} (h : Runs.Run Passa s u s')
    (vivo : s'.vivo = true) : s.vivo = true := by
  induction h with
  | nil => exact vivo
  | snoc _ step ih => exact ih (passa_vivo step vivo)

theorem hospeda_of_run {u : List (Transicao R)} (h : Runs.Run Passa s u s')
    (he : (s.empresas c).isSome) : (s'.empresas c).isSome := by
  induction h with
  | nil => exact he
  | snoc _ step ih => exact passa_hospeda ih step

theorem licitar_responde {leilao : Leilao R} {quantia : Int32} {juro : R} (amb : Ambiente)
    (investidor : String) (hosted : (s.empresas c).isSome)
    (aberto : s.leiloes c = some leilao) (aceita : leilao.Aceita quantia juro)
    (finito : JavaFloat.isFinite juro = true) (vivo : s.vivo = true) :
    ∃ s', s.Passa (.pedido amb (.licitar c investidor quantia juro)) (.resposta true) s' := by
  obtain ⟨empresa, he⟩ := Option.isSome_iff_exists.1 hosted
  have answered : (atende amb (.licitar c investidor quantia juro)).run s = _ :=
    licitar_aceita aberto aceita
  simp only [he, finito, if_true] at answered
  exact ⟨_, passa_of_ok vivo answered⟩

theorem emprestimo_responde {emissao : Emissao R} {quantia : Int32} (amb : Ambiente)
    (investidor : String) (hosted : (s.empresas c).isSome)
    (aberta : s.emissoes c = some emissao) (multiplo : quantia % 100 = 0)
    (vivo : s.vivo = true) :
    ∃ s', s.Passa (.pedido amb (.emprestimo c investidor quantia)) (.resposta true) s' := by
  obtain ⟨empresa, he⟩ := Option.isSome_iff_exists.1 hosted
  have answered : (atende amb (.emprestimo c investidor quantia)).run s = _ :=
    emprestimo_aceita aberta multiplo
  simp only [he] at answered
  exact ⟨_, passa_of_ok vivo answered⟩

theorem leilao_responde {quantia : Int32} {juro : R} (amb : Ambiente)
    (hosted : (s.empresas c).isSome) (livre : s.leiloes c = none)
    (multiplo : quantia % 1000 = 0) (finito : JavaFloat.isFinite juro = true)
    (vivo : s.vivo = true) :
    ∃ s', s.Passa (.pedido amb (.leilao c quantia juro)) (.resposta true) s' := by
  obtain ⟨empresa, he⟩ := Option.isSome_iff_exists.1 hosted
  have answered : (atende amb (.leilao c quantia juro)).run s = _ :=
    leilao_aceita livre multiplo
  simp only [he, finito, if_true] at answered
  exact ⟨_, passa_of_ok vivo answered⟩

theorem emissao_responde {empresa : Empresa R} {quantia : Int32} {taxa : R} (amb : Ambiente)
    (he : s.empresas c = some empresa) (pode : empresa.PodeEmitir quantia)
    (preco : empresa.taxaEmissao = .ok taxa) (finito : JavaFloat.isFinite taxa = true)
    (vivo : s.vivo = true) :
    ∃ s', s.Passa (.pedido amb (.emissao c quantia)) (.resposta true) s' := by
  have answered : (atende amb (.emissao c quantia)).run s = _ :=
    emissao_aceita he pode preco
  simp only [finito, if_true] at answered
  exact ⟨_, passa_of_ok vivo answered⟩

/-- A live exchange has no open auction with an infinite or NaN rate: opening it would
have ended the loop. -/
theorem taxaMaxima_finita {nomes registadas : List String} {t : List (Transicao R)}
    (hc : c ∈ nomes) (h : Sistema.Run nomes registadas t s) :
    s.vivo = true → ∀ leilao ∈ s.leiloes c, JavaFloat.isFinite leilao.taxaMaxima = true := by
  refine Runs.Run.invariant (fun _ s => s.vivo = true →
    ∀ leilao ∈ s.leiloes c, JavaFloat.isFinite leilao.taxaMaxima = true) h ?_ ?_
  · intro _ leilao hl
    cases hl
  · intro t s l r s' run ih step vivo
    have before := ih (passa_vivo step vivo)
    have hosted := Sistema.Run.hospeda run hc
    have seen := ficha_passa (Option.some_get hosted).symm step
    change ∀ leilao ∈ (s.ficha c).leilao, _ at before
    change ∀ leilao ∈ (s'.ficha c).leilao, _
    generalize s.ficha c = f at seen before
    generalize s'.ficha c = f' at seen
    cases seen with
    | leilaoEspecial amb livre multiplo especial =>
        have ended := passa_pedido step
        simp [vivo] at ended
    | _ => simp_all

end Sistema

end PeerLanding
