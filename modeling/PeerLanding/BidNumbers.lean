import PeerLanding.AuctionLifecycle
import PeerLanding.Deliveries
import PeerLanding.Directory.Lookups
import PeerLanding.Exchange.Allocation

/-! The numbers of bids in the Directory, with every call delivered. An accepted bid comes with
its position, but the bids that a settlement sends along have no numbers: at the Directory all
of them read `0`, and from two bids on they are out of place. -/

namespace PeerLanding

open Exchange NumberedLists

variable {R : Type} [JavaFloat R] {c : String} {f f' : Ficha R} {l : Passo R} {r : Resultado}

/-- The auction is funded, and its settlement keeps some of its bids, at least two, all with
finite rates, and leaves others out. -/
def Exchange.Leilao.Renumera (leilao : Leilao R) : Prop :=
  leilao.montanteTotal ≤ leilao.getInvestimentoTotal ∧
    2 ≤ leilao.alocadas.length ∧ leilao.alocadas.length < leilao.licitacoes.length ∧
    ∀ l ∈ leilao.alocadas, JavaFloat.isFinite l.taxa = true

instance (leilao : Leilao R) : Decidable leilao.Renumera := inferInstanceAs (Decidable (_ ∧ _))

/-- The step settles such an auction of `c`, a company that the Directory has. -/
def Ficha.Renumera (c : String) (f : Ficha R) : Passo R → Prop
  | .terminaLeilao _ thread =>
      thread.empresa = c ∧ f.registo.isSome = true ∧ ∃ leilao ∈ f.leilao, leilao.Renumera
  | _ => False

instance (c : String) (f : Ficha R) (l : Passo R) : Decidable (f.Renumera c l) :=
  match l with
  | .terminaLeilao _ _ => inferInstanceAs (Decidable (_ ∧ _ ∧ _))
  | .pedido _ _ => inferInstanceAs (Decidable False)
  | .terminaEmissao _ _ => inferInstanceAs (Decidable False)

theorem Exchange.Leilao.alocadas_length_le (leilao : Leilao R) :
    leilao.alocadas.length ≤ leilao.licitacoes.length := by
  rw [← (ordena_perm leilao.licitacoes).length_eq]
  exact (alocados_isPrefix _ _ _).length_le

theorem Exchange.Leilao.renumera_iff (leilao : Leilao R) (c : String) (idL : Int) :
    leilao.Renumera ↔ (leilao.termina c idL).2.finito = true ∧
      ∃ ls ∈ leilao.enviadas, 2 ≤ ls.length := by
  have bound := leilao.alocadas_length_le
  rw [leilao.termina_terminado, RestRequest.finito_terminado]
  cases sent : leilao.enviadas with
  | none =>
      have whole : ¬(leilao.montanteTotal ≤ leilao.getInvestimentoTotal ∧
          leilao.licitacoes.length ≠ leilao.alocadas.length) := by
        simpa [enviadas] using sent
      refine iff_of_false ?_ (by simp)
      rintro ⟨funded, _, shorter, _⟩
      exact whole ⟨funded, by omega⟩
  | some ls =>
      obtain ⟨⟨funded, part⟩, rfl⟩ := enviadas_eq_some.1 sent
      have shorter : leilao.alocadas.length < leilao.licitacoes.length := by omega
      simp [Renumera, funded, shorter, and_comm]

/-! ### What the Directory has while no exception ends the loop -/

/-- The Directory has a record of every auction, and in the open one's record every bid. -/
structure Ficha.Sincronizada (f : Ficha R) : Prop where
  leiloes : ∀ registo ∈ f.registo, registo.historicoLeiloes.length =
    f.empresa.historicoLeiloes.length + f.leilao.toList.length
  licitacoes : ∀ registo ∈ f.registo, ∀ leilao ∈ f.leilao, ∀ registado,
    registo.historicoLeiloes[f.empresa.historicoLeiloes.length]? = some registado →
      registado.licitacoes.length = leilao.licitacoes.length

theorem Ficha.Passa.sincronizada (hs : f.Passa c l r f')
    (entregue : l.empresa = some c → l.entregue = true)
    (answered : ∀ amb p, l = .pedido amb p → ∃ sucesso, r = .resposta sucesso)
    (h : f.Sincronizada) : f'.Sincronizada := by
  obtain ⟨leiloes, licitacoes⟩ := h
  cases hs with
  | alheio _ _ => exact ⟨leiloes, licitacoes⟩
  | recusa _ _ => exact ⟨leiloes, licitacoes⟩
  | leilao amb livre _ _ =>
      have sent : amb.entregue = true := entregue rfl
      refine ⟨?_, ?_⟩ <;> simp_all [Ficha.relata_registo]
  | licitar amb investidor aberto _ _ =>
      have sent : amb.entregue = true := entregue rfl
      refine ⟨?_, ?_⟩ <;> simp_all [Ficha.relata_registo, Directory.Leilao.recebe]
  | terminaLeilao amb por dela aberto _ =>
      have sent : amb.entregue = true := entregue (by simp [dela])
      refine ⟨?_, ?_⟩ <;> simp_all [Ficha.relata_registo]
  | leilaoEspecial => simp at answered
  | licitarEspecial => simp at answered
  | emissaoEspecial => simp at answered
  | terminaLeilaoEspecial _ _ _ aberto _ => refine ⟨?_, ?_⟩ <;> simp_all
  | terminaLeilaoNulo _ _ _ _ => exact ⟨leiloes, licitacoes⟩
  | emissao amb _ _ _ =>
      have sent : amb.entregue = true := entregue rfl
      refine ⟨?_, ?_⟩ <;> simp_all [Ficha.relata_registo]
  | emprestimo amb _ _ _ =>
      have sent : amb.entregue = true := entregue rfl
      refine ⟨?_, ?_⟩ <;> simp_all [Ficha.relata_registo]
  | terminaEmissao amb _ dela _ =>
      have sent : amb.entregue = true := entregue (by simp [dela])
      refine ⟨?_, ?_⟩ <;> simp_all [Ficha.relata_registo]
  | terminaEmissaoNula _ _ _ _ => exact ⟨leiloes, licitacoes⟩

def Ficha.Registada (f : Ficha R) : Prop :=
  ∀ leilao ∈ f.leilao, leilao.licitacoes ≠ [] → ∀ registo ∈ f.registo,
    f.empresa.historicoLeiloes.length < registo.historicoLeiloes.length

theorem Ficha.Passa.registada (hs : f.Passa c l r f')
    (synced : ∀ amb p, l = .pedido amb p → f.Sincronizada) (h : f.Registada) :
    f'.Registada := by
  unfold Ficha.Registada at *
  cases hs with
  | alheio _ _ => exact h
  | recusa _ _ => exact h
  | leilao _ _ _ _ => simp
  | leilaoEspecial _ _ _ _ => simp
  | licitar amb investidor aberto _ _ =>
      have room := (synced _ _ rfl).leiloes
      rw [Ficha.relata_registo_map]
      cases amb.entregue <;> simp_all
  | licitarEspecial amb investidor aberto _ _ =>
      have room := (synced _ _ rfl).leiloes
      simp_all
  | emissao amb _ _ _ =>
      rw [Ficha.relata_registo_map]
      cases amb.entregue <;> simp_all
  | emprestimo amb _ _ _ =>
      rw [Ficha.relata_registo_map]
      cases amb.entregue <;> simp_all
  | terminaEmissao amb _ _ _ =>
      rw [Ficha.relata_registo_map]
      cases amb.entregue <;> simp_all
  | _ => simp_all

/-- The bids of a delivered outcome are in place exactly when there are not two of them. -/
theorem Ficha.numera_desfecho {leilao : Leilao R} {idL : Nat} (aberto : f.leilao = some leilao)
    (position : idL = f.empresa.historicoLeiloes.length) (kept : f.Registada) (sucesso : Bool) :
    (∀ registo ∈ f.registo,
        (Relato.terminaLeilao idL sucesso leilao.enviadas).NumeraLicitacoes registo) ↔
      ¬(f.registo.isSome = true ∧ ∃ ls ∈ leilao.enviadas, 2 ≤ ls.length) := by
  subst position
  refine ⟨?_, ?_⟩
  · rintro numera ⟨known, ls, sent, two⟩
    obtain ⟨registo, hr⟩ := Option.isSome_iff_exists.1 known
    have some_bid : leilao.licitacoes ≠ [] := by
      intro none_left
      have allocated := (leilao.enviadas_eq_some.1 sent).2
      have bound := leilao.alocadas_length_le
      rw [none_left, ← allocated] at bound
      simp only [List.length_nil] at bound
      omega
    have inside := kept leilao aberto some_bid registo hr
    have found := Java.get_natCast.2 (List.getElem?_eq_getElem inside)
    have single := numera registo hr _ found ls sent
    omega
  · intro single registo hr registado _ ls sent
    by_contra two
    exact single ⟨by simp [Option.mem_def.1 hr], ls, sent, by omega⟩

theorem Ficha.Passa.numera_licitacoes (hs : f.Passa c l r f')
    (entregue : l.empresa = some c → l.entregue = true)
    (waiting : f.terminaLeiloes = f.porTerminar c)
    (synced : ∀ amb p, l = .pedido amb p → f.Sincronizada) (kept : f.Registada) :
    (∀ u ∈ Momento.chegada c ⟨f, l, r, f'⟩, ∀ registo ∈ f.registo, u.NumeraLicitacoes registo) ↔
      ¬f.Renumera c l := by
  cases hs with
  | alheio outra _ =>
      refine iff_of_true (by simp [outra]) ?_
      intro renumera
      cases l with
      | terminaLeilao amb thread => exact outra (congrArg some renumera.1)
      | _ => cases renumera
  | licitar amb investidor aberto _ _ =>
      have sent : amb.entregue = true := entregue rfl
      have count := (synced _ _ rfl).licitacoes
      refine iff_of_true ?_ (by simp [Ficha.Renumera])
      rw [Momento.chegada_licitar aberto sent]
      intro u hu registo hr
      cases hu
      intro registado found
      rw [count registo hr _ aberto registado (Java.get_natCast.1 found)]
  | @terminaLeilao amb thread leilao por dela aberto finito =>
      have sent : amb.entregue = true := entregue (by simp [dela])
      obtain ⟨_, _, hthread⟩ := Ficha.thread_eq waiting por
      have position : thread.idL = f.empresa.historicoLeiloes.length := by rw [hthread]
      have request := Exchange.Leilao.renumera_iff leilao c thread.idL
      have outcome := Ficha.numera_desfecho aberto position kept
        (decide (leilao.montanteTotal ≤ leilao.getInvestimentoTotal))
      rw [Momento.chegada_terminaLeilao dela aberto sent]
      simp only [Option.mem_some, forall_eq', outcome]
      simp [Ficha.Renumera, dela, aberto, request, finito]
  | @terminaLeilaoEspecial amb thread leilao por dela aberto especial =>
      refine iff_of_true (by simp) ?_
      rintro ⟨_, _, outro, same, renumera⟩
      cases aberto.symm.trans same
      have written := ((Exchange.Leilao.renumera_iff leilao c thread.idL).1 renumera).1
      cases written.symm.trans especial
  | terminaLeilaoNulo amb por dela fechado =>
      refine iff_of_true (by simp) ?_
      rintro ⟨_, _, leilao, aberto, _⟩
      cases fechado.symm.trans aberto
  | emissao amb pode preco finito =>
      refine iff_of_true ?_ (by simp [Ficha.Renumera])
      simp [Momento.chegada, Momento.envio, Relato.NumeraLicitacoes, preco, Except.toOption]
  | _ =>
      refine iff_of_true ?_ (by simp [Ficha.Renumera])
      simp_all [Momento.chegada, Momento.envio, Relato.NumeraLicitacoes]

/-! ### Whole runs -/

/-- Bid `i` of an auction is number `i`, the numbers of an auction's bids are distinct, and a GET
of bid `i` answers with number `i`. -/
structure BidNumbers (d : Directory R) : Prop where
  positions : ∀ c registo, d c = some registo → ∀ leilao ∈ registo.historicoLeiloes,
    ∀ (i : Nat) l, leilao.licitacoes[i]? = some l → l.id = i
  distinct : ∀ c registo, d c = some registo → ∀ leilao ∈ registo.historicoLeiloes,
    (leilao.licitacoes.map (·.id)).Nodup
  lookup : ∀ c registo, d c = some registo → ∀ (idL : Nat) leilao,
    registo.historicoLeiloes[idL]? = some leilao → ∀ i < leilao.licitacoes.length,
      ∃ l, Directory.getLicitacaoLeilao (some c) idL i d = .ok (.entity l) ∧ l.id = i

omit [JavaFloat R] in
theorem bidNumbers_iff {d : Directory R} :
    BidNumbers d ↔ ∀ c, ∀ registo ∈ d c, registo.LicitacoesNumeradas := by
  refine ⟨fun h => h.positions, fun h => ⟨h, ?_, ?_⟩⟩
  · intro c registo hr leilao hl
    exact (h c registo hr leilao hl).nodup
  · intro c registo hr idL leilao found i inside
    have bid := List.getElem?_eq_getElem inside
    refine ⟨_, ?_, h c registo hr leilao (List.mem_of_getElem? found) i _ bid⟩
    rw [Directory.getLicitacaoLeilao, Directory.daEmpresa_some hr,
      Directory.porId_of_found found, Directory.porId_of_found bid]

namespace Sistema

variable [Gson R] {nomes registadas : List String} {t : List (Transicao R)} {s s' : Sistema R}

/-- What every delivered run keeps about a hosted company: the Directory is in step while the
loop is alive, and has a record of an open auction with bids at any time. -/
theorem Run.sincronizada (h : Sistema.Run nomes registadas t s) (hc : c ∈ nomes)
    (entregues : ∀ e ∈ t, e.label.entregue = true) :
    (s.vivo = true → (s.ficha c).Sincronizada) ∧ (s.ficha c).Registada := by
  refine Runs.Run.invariant_of_guard
    (fun _ s => (s.vivo = true → (s.ficha c).Sincronizada) ∧ (s.ficha c).Registada) _ h
    entregues ?_ ?_
  · rw [inicial_ficha hc]
    refine ⟨fun _ => ⟨?_, ?_⟩, ?_⟩
    · intro registo hr
      rw [Directory.eq_novo_of_vazio hr]
      rfl
    · intro registo _ leilao hl
      cases hl
    · intro leilao hl
      cases hl
  · intro t s l r s' run ih step sent
    have seen := ficha_passa (Option.some_get (Run.hospeda run hc)).symm step
    have synced : ∀ amb p, l = .pedido amb p → (s.ficha c).Sincronizada := by
      rintro amb p rfl
      exact ih.1 (passa_pedido step).1
    refine ⟨?_, seen.registada synced ih.2⟩
    intro vivo
    refine seen.sincronizada (fun _ => sent) ?_ (ih.1 (passa_vivo step vivo))
    rintro amb p rfl
    obtain ⟨sucesso, answered, _⟩ | ⟨e, _, ended⟩ := (passa_pedido step).2
    · exact ⟨sucesso, answered⟩
    · rw [vivo] at ended
      cases ended

theorem Run.licitacoesNumeradas_iff (h : Sistema.Run nomes registadas t s)
    (entregues : ∀ e ∈ t, e.label.entregue = true) {l : Passo R} {r : Resultado}
    (step : s.Passa l r s') (sent : l.entregue = true)
    (before : ∀ c, ∀ registo ∈ s.diretorio c, registo.LicitacoesNumeradas) :
    (∀ c, ∀ registo ∈ s'.diretorio c, registo.LicitacoesNumeradas) ↔
      ∀ c ∈ nomes, ¬(s.ficha c).Renumera c l := by
  have hosted : ∀ c ∈ nomes, (∀ registo ∈ s'.diretorio c, registo.LicitacoesNumeradas) ↔
      ¬(s.ficha c).Renumera c l := by
    intro c hc
    have seen := ficha_passa (Option.some_get (Run.hospeda h hc)).symm step
    have kept := Run.sincronizada h hc entregues
    have synced : ∀ amb p, l = .pedido amb p → (s.ficha c).Sincronizada := by
      rintro amb p rfl
      exact kept.1 (passa_pedido step).1
    rw [← seen.numera_licitacoes (fun _ => sent) (Ficha.Run.terminaLeiloes (h.percurso hc))
      synced kept.2]
    exact seen.registo_iff (fun u _ _ => u.numera_licitacoes) (before c)
  refine ⟨fun after c hc => (hosted c hc).1 (after c), fun none_such c => ?_⟩
  by_cases hc : c ∈ nomes
  · exact (hosted c hc).2 (none_such c hc)
  · rw [((Run.alheia h hc).passa step).registo, ← (Run.alheia h hc).registo]
    exact before c

end Sistema

/-- With every call delivered, bid `i` of an auction is number `i` in all states of a run exactly
when no step settles an auction by keeping two or more of its bids and leaving others out. -/
theorem bidNumbers [Gson R] {nomes registadas : List String} {t : List (Transicao R)}
    {s : Sistema R} (h : Sistema.Run nomes registadas t s)
    (entregues : ∀ e ∈ t, e.label.entregue = true) :
    (BidNumbers s.diretorio ∧ ∀ e ∈ t, BidNumbers e.pre.diretorio) ↔
      ∀ e ∈ t, ∀ c ∈ nomes, ¬(e.pre.ficha c).Renumera c e.label := by
  refine Runs.Run.always_iff (fun s => BidNumbers s.diretorio) (fun e => e.label.entregue = true)
    (fun e => ∀ c ∈ nomes, ¬(e.pre.ficha c).Renumera c e.label) h entregues ?_ ?_
  · rw [bidNumbers_iff]
    intro c registo hr
    rw [Directory.eq_novo_of_vazio hr]
    exact Directory.Empresa.licitacoesNumeradas_novo c
  · intro t s l r s' run delivered step sent before
    rw [bidNumbers_iff] at before ⊢
    exact Sistema.Run.licitacoesNumeradas_iff run delivered step sent before

/-- Three bids for an auction over 1000, of which the two cheaper ones are kept. -/
def renumberedSteps : List (Passo Binary32) :=
  [.pedido (.em 1) (.leilao "CanecaLda" 1000 (.intBitsToFloat 0x3DCCCCCD)),
    .pedido (.em 2) (.licitar "CanecaLda" "ana" 600 (.intBitsToFloat 0x3D4CCCCD)),
    .pedido (.em 3) (.licitar "CanecaLda" "rui" 500 (.intBitsToFloat 0x3D23D70A)),
    .pedido (.em 4) (.licitar "CanecaLda" "eva" 700 (.intBitsToFloat 0x3D23D70A)),
    .terminaLeilao (.em 5) ⟨"CanecaLda", 0, 0⟩]

theorem renumberedSteps_taken :
    (Sistema.corrida ["CanecaLda", "SapatoLda"] Directory.nomes renumberedSteps).isSome := by
  decide

/-- Both bids read `0` afterwards, and a GET of bid 1 answers with number `0`. -/
theorem bidNumbers_renumbered :
    ∃ (t : List (Transicao Binary32)) (s : Sistema Binary32),
      Sistema.Run ["CanecaLda", "SapatoLda"] Directory.nomes t s ∧
        (∀ e ∈ t, e.label.entregue = true) ∧
        (s.diretorio "CanecaLda").map (fun registo =>
          registo.historicoLeiloes.map fun leilao => leilao.licitacoes.map (·.id)) =
            some [[0, 0]] ∧
        Directory.getLicitacaoLeilao (some "CanecaLda") 0 1 s.diretorio =
          .ok (.entity ⟨0, some "eva", .intBitsToFloat 0x3D23D70A, 700⟩) ∧
        ¬BidNumbers s.diretorio := by
  have run := Sistema.run_corrida renumberedSteps_taken
  have entregues := Sistema.labels_corrida renumberedSteps_taken
    (show ∀ l ∈ renumberedSteps, l.entregue = true by decide)
  have numbers : (((Sistema.corrida _ _ renumberedSteps).get renumberedSteps_taken).2.diretorio
      "CanecaLda").map (fun registo =>
        registo.historicoLeiloes.map fun leilao => leilao.licitacoes.map (·.id)) =
          some [[0, 0]] := by decide +kernel
  refine ⟨_, _, run, entregues, numbers, by decide +kernel, ?_⟩
  intro numbered
  obtain ⟨registo, hr, only⟩ := Option.map_eq_some_iff.1 numbers
  obtain ⟨leilao, hl, twice⟩ := List.map_eq_singleton_iff.1 only
  have distinct := numbered.distinct _ registo hr leilao (by simp [hl])
  rw [twice] at distinct
  exact absurd distinct (by decide)

theorem bidNumbers_caneca : ∃ (t : List (Transicao Binary32)) (s : Sistema Binary32),
    Sistema.Run ["CanecaLda", "SapatoLda"] Directory.nomes t s ∧ t.length = 4 ∧
      (BidNumbers s.diretorio ∧ ∀ e ∈ t, BidNumbers e.pre.diretorio) := by
  have run := Sistema.run_corrida auctionSteps_taken
  have entregues := Sistema.labels_corrida auctionSteps_taken
    (show ∀ l ∈ auctionSteps, l.entregue = true by decide)
  exact ⟨_, _, run, by decide, (bidNumbers run entregues).2 (by decide +kernel)⟩

end PeerLanding
