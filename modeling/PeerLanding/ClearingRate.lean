import Mathlib.Data.List.Forall2
import PeerLanding.Rates
import PeerLanding.Settlement

/-! The clearing rate of a successful auction. `getTaxaLicitacaoMaxima` reduces from
`Float.MIN_VALUE`, the smallest positive float, so it is a bid's rate exactly when a bid
with a positive rate was allocated. -/

namespace PeerLanding

open Exchange

variable {R : Type} [JavaFloat R] {c : String} {registadas : List String}
  {t : List (Momento R)} {f f' : Ficha R} {l : Passo R} {r : Resultado}

theorem Exchange.Leilao.termina_fst (leilao : Leilao R) (c d : String) (i j : Int) :
    (leilao.termina c i).1 = (leilao.termina d j).1 := by
  rcases leilao.termina_cases c i with ⟨_, h⟩ | ⟨_, _, h⟩ | ⟨_, _, h⟩ <;>
    rcases leilao.termina_cases d j with ⟨_, h'⟩ | ⟨_, _, h'⟩ | ⟨_, _, h'⟩ <;>
    simp_all

/-- The history is what settling made of the auctions taken out, in order. -/
theorem Ficha.Run.historicoLeiloes (h : Ficha.Run c registadas t f) :
    f.empresa.historicoLeiloes =
      (leiloesTerminados c t).map fun leilao => (leilao.termina c 0).1 := by
  refine Runs.Run.invariant (fun t f => f.empresa.historicoLeiloes =
    (leiloesTerminados c t).map fun leilao => (leilao.termina c 0).1) h rfl ?_
  intro t f l r f' _ ih hs
  cases hs with
  | @terminaLeilao amb thread leilao por dela aberto finito =>
      simp [ih, dela, aberto, leilao.termina_fst c c thread.idL 0]
  | @terminaLeilaoEspecial amb thread leilao por dela aberto especial =>
      simp [ih, dela, aberto, leilao.termina_fst c c thread.idL 0]
  | _ => simp_all

theorem Ficha.Run.abertos (h : Ficha.Run c registadas t f) :
    ∀ leilao ∈ leiloesTerminados c t, leilao.sucesso = false := by
  refine Runs.Run.invariant
    (fun t _ => ∀ leilao ∈ leiloesTerminados c t, leilao.sucesso = false) h ?_ ?_
  · intro leilao hl
    cases hl
  · intro t f l r f' run ih hs leilao hl
    have undecided := Ficha.Run.semDesfecho run
    rw [leiloesTerminados_concat, List.mem_append] at hl
    cases hl with
    | inl old => exact ih leilao old
    | inr new => cases hs <;> simp_all

theorem Exchange.Leilao.termina_maiorTaxa {leilao : Leilao R} (aberto : leilao.sucesso = false)
    (c : String) (idL : Int) (sucesso : (leilao.termina c idL).1.sucesso = true) :
    (leilao.termina c idL).1.MaiorTaxa (leilao.termina c idL).1.getTaxaLicitacaoMaxima ↔
      leilao.AtingeJuro := by
  have funded := (termina_sucesso aberto c idL).1 sucesso
  rw [maiorTaxa_iff, ← alocadas_positiva]
  simp only [mem_termina funded]

/-- A settled auction, if it was a success, clears at the greatest allocated rate exactly
when the auction that was settled reaches a positive rate. -/
def ClearsAtBid (aberto liquidado : Leilao R) : Prop :=
  liquidado.sucesso = true →
    (liquidado.MaiorTaxa liquidado.getTaxaLicitacaoMaxima ↔ aberto.AtingeJuro)

theorem Ficha.Run.clearsAtBid (h : Ficha.Run c registadas t f) :
    List.Forall₂ ClearsAtBid (leiloesTerminados c t) f.empresa.historicoLeiloes := by
  rw [h.historicoLeiloes, List.forall₂_map_right_iff, List.forall₂_same]
  intro leilao hl sucesso
  exact Leilao.termina_maiorTaxa (h.abertos leilao hl) c 0 sucesso

/-- An accepted emission that starts again from the last settled auction pays the greatest
rate at which that auction was allocated exactly when the auction reached a positive rate. -/
def PaysClearingRate (c : String) (u : List (Momento R)) (e : Momento R) : Prop :=
  e.abriuEmissao c = true → e.pre.empresa.reinicia = true →
    ∃ aberto liquidado emissao, (leiloesTerminados c u).getLast? = some aberto ∧
      e.pre.empresa.historicoLeiloes.getLast? = some liquidado ∧
      liquidado.sucesso = true ∧ e.post.emissao = some emissao ∧
      (liquidado.MaiorTaxa emissao.taxa ↔ aberto.AtingeJuro)

theorem Ficha.Passa.paysClearingRate (hs : f.Passa c l r f') (h : Ficha.Run c registadas t f) :
    PaysClearingRate c t ⟨f, l, r, f'⟩ := by
  intro opens again
  obtain ⟨liquidado, emissao, last, sucesso, aberta, preco⟩ := hs.emitida opens
  have history := h.historicoLeiloes
  rw [Empresa.taxaEmissao_reinicia last sucesso again, Except.ok.injEq] at preco
  rw [history, List.getLast?_map, Option.map_eq_some_iff] at last
  obtain ⟨aberto, settled, outcome⟩ := last
  have undecided := h.abertos aberto (List.mem_of_getLast? settled)
  refine ⟨aberto, liquidado, emissao, settled, ?_, sucesso, aberta, ?_⟩
  · simp [history, settled, outcome]
  · subst outcome
    rw [← preco]
    exact Leilao.termina_maiorTaxa undecided c 0 sucesso

/-- In every reachable state, for every successfully settled auction and for every emission
priced from one, the clearing rate is the greatest allocated rate exactly when some bid has
a positive rate and the bids without one do not reach the amount on their own. -/
theorem clearingRate_iff [Gson R] {nomes : List String} {t : List (Transicao R)}
    {s : Sistema R} (hc : c ∈ nomes) (h : Sistema.Run nomes registadas t s) :
    List.Forall₂ ClearsAtBid (leiloesTerminados c (percurso c t))
        (s.ficha c).empresa.historicoLeiloes ∧
      ∀ u e, u ++ [e] <+: percurso c t → PaysClearingRate c u e := by
  have run := h.percurso hc
  refine ⟨run.clearsAtBid, ?_⟩
  intro u e he
  obtain ⟨before, step⟩ := run.of_concat he
  exact step.paysClearingRate before

/-- An auction filled by a bid at a rate of zero, and the emission after it. -/
def zeroRateSteps : List (Passo Binary32) :=
  [.pedido (.em 1) (.leilao "CanecaLda" 1000 (.intBitsToFloat 0x3DCCCCCD)),
    .pedido (.em 2) (.licitar "CanecaLda" "ana" 1000 (.intBitsToFloat 0)),
    .terminaLeilao (.em 3) ⟨"CanecaLda", 0, 0⟩,
    .pedido (.em 4) (.emissao "CanecaLda" 1000)]

theorem zeroRateSteps_taken :
    (Sistema.corrida ["CanecaLda", "SapatoLda"] Directory.nomes zeroRateSteps).isSome := by
  decide

abbrev zeroRateState : Sistema Binary32 :=
  ((Sistema.corrida ["CanecaLda", "SapatoLda"] Directory.nomes zeroRateSteps).get
    zeroRateSteps_taken).2

theorem zeroRateState_settled :
    (zeroRateState.ficha "CanecaLda").empresa.historicoLeiloes.getLast?.isSome := by decide

theorem zeroRateState_open : (zeroRateState.emissoes "CanecaLda").isSome := by decide

/-- The only bid of a successful auction is at zero, and the emission pays `Float.MIN_VALUE`. -/
theorem clearingRate_zero :
    ∃ (t : List (Transicao Binary32)) (s : Sistema Binary32) (leilao : Leilao Binary32)
      (emissao : Emissao Binary32),
      Sistema.Run ["CanecaLda", "SapatoLda"] Directory.nomes t s ∧
        (s.ficha "CanecaLda").empresa.historicoLeiloes.getLast? = some leilao ∧
        leilao.sucesso = true ∧ leilao.licitacoes.map (·.taxa) = [.zero] ∧
        ¬leilao.MaiorTaxa leilao.getTaxaLicitacaoMaxima ∧
        s.emissoes "CanecaLda" = some emissao ∧ emissao.taxa = .minValue := by
  refine ⟨_, _, _, _, Sistema.run_corrida zeroRateSteps_taken,
    (Option.some_get zeroRateState_settled).symm, by decide, by decide, ?_,
    (Option.some_get zeroRateState_open).symm, by decide⟩
  unfold Leilao.MaiorTaxa
  decide

theorem clearingRate_caneca :
    ∃ (t : List (Transicao Binary32)) (s : Sistema Binary32),
      Sistema.Run ["CanecaLda", "SapatoLda"] Directory.nomes t s ∧ t.length = 4 ∧
        List.Forall₂ ClearsAtBid (leiloesTerminados "CanecaLda" (percurso "CanecaLda" t))
          (s.ficha "CanecaLda").empresa.historicoLeiloes :=
  ⟨_, _, Sistema.run_corrida zeroRateSteps_taken, by decide,
    (clearingRate_iff (by decide) (Sistema.run_corrida zeroRateSteps_taken)).1⟩

end PeerLanding
