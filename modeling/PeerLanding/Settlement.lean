import PeerLanding.AuctionLifecycle
import PeerLanding.WrapSum

/-! The outcome of a settlement against the exact sum of the accepted amounts. The code
adds 32-bit integers, so the outcome is right exactly when the exact sum, brought back
into the 32-bit range, stays on its side of the amount asked for. -/

namespace PeerLanding

open Exchange WrapSum

variable {R : Type}

def totalExato (licitacoes : List (Licitacao R)) : Int :=
  exactSum (licitacoes.map (·.quantia))

/-- The outcome is what the unbounded sum says. -/
def DecidesTrueTotal (montanteTotal : Int32) (licitacoes : List (Licitacao R))
    (sucesso : Bool) : Prop :=
  sucesso = true ↔ montanteTotal.toInt ≤ totalExato licitacoes

instance (montanteTotal : Int32) (licitacoes : List (Licitacao R)) (sucesso : Bool) :
    Decidable (DecidesTrueTotal montanteTotal licitacoes sucesso) :=
  inferInstanceAs (Decidable (_ ↔ _))

theorem le_somaQuantias_iff (m : Int32) (ls : List (Licitacao R)) :
    (m ≤ somaQuantias ls ↔ m.toInt ≤ totalExato ls) ↔ SameSide m.toInt (totalExato ls) := by
  rw [Int32.le_iff_toInt_le, somaQuantias, toInt_sum]
  exact le_bmod_iff m.le_toInt m.toInt_lt

variable [JavaFloat R] {c : String}

theorem Exchange.Leilao.termina_sucesso {leilao : Leilao R} (aberto : leilao.sucesso = false)
    (c : String) (idL : Int) :
    (leilao.termina c idL).1.sucesso = true ↔
      leilao.montanteTotal ≤ somaQuantias leilao.licitacoes := by
  rcases leilao.termina_cases c idL with ⟨failed, ht⟩ | ⟨funded, _, ht⟩ | ⟨funded, _, ht⟩
  · rw [ht, aberto]
    exact iff_of_false Bool.false_ne_true failed
  · rw [ht]
    exact iff_of_true rfl funded
  · rw [ht]
    exact iff_of_true rfl funded

theorem Exchange.Emissao.termina_sucesso (emissao : Emissao R) (c : String) (idL : Int) :
    (emissao.termina c idL).1.sucesso = true ↔
      emissao.montanteTotal ≤ somaQuantias emissao.licitacoes := by
  unfold termina
  dsimp only
  split_ifs with funded
  · exact iff_of_true rfl funded
  · exact iff_of_false not_false funded

variable {f f' : Ficha R} {amb : Ambiente} {r : Resultado}

theorem Ficha.Passa.terminado {thread : TerminaLeilao} {leilao : Leilao R}
    (hs : f.Passa c (.terminaLeilao amb thread) r f') (dela : thread.empresa = c)
    (aberto : f.leilao = some leilao) :
    f'.empresa.historicoLeiloes.getLast? = some (leilao.termina c thread.idL).1 := by
  cases hs <;> simp_all

theorem Ficha.Passa.terminada {thread : TerminaEmissao} {emissao : Emissao R}
    (hs : f.Passa c (.terminaEmissao amb thread) r f') (dela : thread.empresa = c)
    (aberta : f.emissao = some emissao) :
    f'.empresa.historicoEmissoes.getLast? = some (emissao.termina c thread.idL).1 := by
  cases hs <;> simp_all

/-- In every reachable state, the settlement of an auction or emission of a hosted company
decides on the true total exactly when the unbounded sum of the accepted amounts lies on
the right side of `montanteTotal` after wrapping. -/
theorem settlement_trueTotal_iff [Gson R] {nomes registadas : List String}
    {t : List (Transicao R)} {s : Sistema R} (hc : c ∈ nomes)
    (h : Sistema.Run nomes registadas t s) :
    (∀ amb thread r s' leilao, thread.empresa = c → s.leiloes c = some leilao →
      s.Passa (.terminaLeilao amb thread) r s' →
      ∃ terminado, (s'.ficha c).empresa.historicoLeiloes.getLast? = some terminado ∧
        (DecidesTrueTotal leilao.montanteTotal leilao.licitacoes terminado.sucesso ↔
          SameSide leilao.montanteTotal.toInt (totalExato leilao.licitacoes))) ∧
    (∀ amb thread r s' emissao, thread.empresa = c → s.emissoes c = some emissao →
      s.Passa (.terminaEmissao amb thread) r s' →
      ∃ terminada, (s'.ficha c).empresa.historicoEmissoes.getLast? = some terminada ∧
        (DecidesTrueTotal emissao.montanteTotal emissao.licitacoes terminada.sucesso ↔
          SameSide emissao.montanteTotal.toInt (totalExato emissao.licitacoes))) := by
  have hosted := h.hospeda hc
  refine ⟨?_, ?_⟩
  · intro amb thread r s' leilao dela aberto step
    have seen := Sistema.ficha_passa (Option.some_get hosted).symm step
    have undecided := Ficha.Run.semDesfecho (h.percurso hc) leilao aberto
    refine ⟨_, seen.terminado dela aberto, ?_⟩
    rw [DecidesTrueTotal, Leilao.termina_sucesso undecided]
    exact le_somaQuantias_iff _ _
  · intro amb thread r s' emissao dela aberta step
    have seen := Sistema.ficha_passa (Option.some_get hosted).symm step
    refine ⟨_, seen.terminada dela aberta, ?_⟩
    rw [DecidesTrueTotal, Emissao.termina_sucesso]
    exact le_somaQuantias_iff _ _

/-- Two bids whose sum wraps around to a negative number. -/
def wrappingSteps : List (Passo Binary32) :=
  [.pedido (.em 1) (.leilao "CanecaLda" 1000 (.intBitsToFloat 0x3DCCCCCD)),
    .pedido (.em 2) (.licitar "CanecaLda" "ana" 2147483600 (.intBitsToFloat 0x3D4CCCCD)),
    .pedido (.em 3) (.licitar "CanecaLda" "rui" 2147483600 (.intBitsToFloat 0x3D4CCCCD))]

theorem wrappingSteps_taken :
    (Sistema.corrida ["CanecaLda", "SapatoLda"] Directory.nomes wrappingSteps).isSome := by
  decide

abbrev wrappingState : Sistema Binary32 :=
  ((Sistema.corrida ["CanecaLda", "SapatoLda"] Directory.nomes wrappingSteps).get
    wrappingSteps_taken).2

theorem wrappingState_open : (wrappingState.leiloes "CanecaLda").isSome := by decide

theorem wrappingState_settles :
    (wrappingState.proximo (.terminaLeilao (.em 4) ⟨"CanecaLda", 0, 0⟩)).isSome := by decide

/-- The bids sum to more than four thousand million, and the auction over 1000 fails. -/
theorem settlement_trueTotal_wraps :
    ∃ (t : List (Transicao Binary32)) (s s' : Sistema Binary32) (leilao : Leilao Binary32)
      (r : Resultado), Sistema.Run ["CanecaLda", "SapatoLda"] Directory.nomes t s ∧
        s.leiloes "CanecaLda" = some leilao ∧
        s.Passa (.terminaLeilao (.em 4) ⟨"CanecaLda", 0, 0⟩) r s' ∧
        (s'.ficha "CanecaLda").empresa.historicoLeiloes.getLast?.map (·.sucesso) = some false ∧
        ¬DecidesTrueTotal leilao.montanteTotal leilao.licitacoes false :=
  ⟨_, _, _, _, _, Sistema.run_corrida wrappingSteps_taken,
    (Option.some_get wrappingState_open).symm, (Option.some_get wrappingState_settles).symm,
    by decide, by decide⟩

theorem settlement_trueTotal_caneca :
    ∃ (s' : Sistema Binary32) (leilao terminado : Leilao Binary32),
      wrappingState.leiloes "CanecaLda" = some leilao ∧
        (s'.ficha "CanecaLda").empresa.historicoLeiloes.getLast? = some terminado ∧
        (DecidesTrueTotal leilao.montanteTotal leilao.licitacoes terminado.sucesso ↔
          SameSide leilao.montanteTotal.toInt (totalExato leilao.licitacoes)) := by
  have both := settlement_trueTotal_iff (c := "CanecaLda") (by decide)
    (Sistema.run_corrida wrappingSteps_taken)
  have aberto := (Option.some_get wrappingState_open).symm
  have settles := (Option.some_get wrappingState_settles).symm
  obtain ⟨terminado, last, decides⟩ := both.1 _ _ _ _ _ rfl aberto settles
  exact ⟨_, _, terminado, aberto, last, decides⟩

end PeerLanding
