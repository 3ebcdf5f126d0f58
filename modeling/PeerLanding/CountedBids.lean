import PeerLanding.ThreadBids

/-! Every bid answered with true is in its auction or emission when `getInvestimentoTotal` decides
the outcome, if the exchange thread is not about to add a bid there at that moment. -/

namespace PeerLanding.Threads

open Exchange DropBoxes

section Leitura

variable {R : Type}

/-- The auction that `licitar` is about to add its bid to. -/
def Ponto.aLicitar : Ponto R → Option Nat
  | .licitar _ _ _ _ (.add leilaoAtual) => some leilaoAtual
  | _ => none

def Ponto.aEmprestar : Ponto R → Option Nat
  | .emprestimo _ _ _ (.add emissaoAtual) => some emissaoAtual
  | _ => none

/-- The step does not sum the bids of an auction or emission that the exchange thread has looked
up and is about to add a bid to. -/
def Memoria.SomaTudo (m : Memoria R) : Passo R → Prop
  | .terminaLeilao ref =>
      ∀ fio ∈ m.terminaLeiloes ref, ∀ leilao ∈ fio.em.aSomar, m.exchange.aLicitar ≠ some leilao
  | .terminaEmissao ref =>
      ∀ fio ∈ m.terminaEmissoes ref, ∀ emissao ∈ fio.em.aSomar,
        m.exchange.aEmprestar ≠ some emissao
  | _ => True

instance (m : Memoria R) (l : Passo R) : Decidable (m.SomaTudo l) :=
  match l with
  | .terminaLeilao ref => inferInstanceAs (Decidable (∀ fio ∈ m.terminaLeiloes ref, _))
  | .terminaEmissao ref => inferInstanceAs (Decidable (∀ fio ∈ m.terminaEmissoes ref, _))
  | .recv _ => inferInstanceAs (Decidable True)
  | .exchange _ _ => inferInstanceAs (Decidable True)

/-- The bid for `leilao` that the step answers with true. -/
def Lance.licitou (leilao : Nat) (e : Lance R) : Option (Licitacao R) :=
  match e.label, e.result, e.pre.exchange with
  | .exchange _ _, some (.resposta true), .aceita (.licitar _ investidor quantia juro) objeto _ =>
      if objeto = leilao then some ⟨investidor, juro, quantia⟩ else none
  | _, _, _ => none

def Lance.emprestou [JavaFloat R] (emissao : Nat) (e : Lance R) : Option (Licitacao R) :=
  match e.label, e.result, e.pre.exchange with
  | .exchange _ _, some (.resposta true), .aceita (.emprestimo _ investidor quantia) objeto _ =>
      if objeto = emissao then some (.semTaxa investidor quantia) else none
  | _, _, _ => none

end Leitura

variable {R : Type} [JavaFloat R] {m m' : Memoria R} {nomes registadas : List String}
  {t : List (Lance R)} {e : Lance R}

/-- Whenever the bids of an auction or emission are summed, those of all its requests that the
run answers with true are among them. -/
structure CountedBids (t : List (Lance R)) : Prop where
  leiloes : ∀ e ∈ t, ∀ ref, e.label = .terminaLeilao ref →
    ∀ fio ∈ e.pre.terminaLeiloes ref, ∀ leilao ∈ fio.em.aSomar,
      (t.filterMap (Lance.licitou leilao)).Sublist (e.pre.leilao leilao).licitacoes
  emissoes : ∀ e ∈ t, ∀ ref, e.label = .terminaEmissao ref →
    ∀ fio ∈ e.pre.terminaEmissoes ref, ∀ emissao ∈ fio.em.aSomar,
      (t.filterMap (Lance.emprestou emissao)).Sublist (e.pre.emissao emissao).licitacoes

section Leituras

omit [JavaFloat R] in
theorem licitou_eq (leilao : Nat) (e : Lance R) :
    e.licitou leilao = e.licitacoes.bind (Event.ackedFor leilao) := by
  unfold Lance.licitou
  split
  · next label result at' => simp [Lance.licitacoes, label, result, at', Event.ackedFor]
  · next outro =>
      unfold Lance.licitacoes
      split
      · next label =>
          split
          · rfl
          · next result at' => exact absurd at' (outro _ _ _ _ _ _ _ _ label result)
          · rfl
      · next ref _ => cases (e.pre.terminaLeiloes ref).bind (·.em.aSomar) <;> rfl
      · rfl

theorem emprestou_eq (emissao : Nat) (e : Lance R) :
    e.emprestou emissao = e.emprestimos.bind (Event.ackedFor emissao) := by
  unfold Lance.emprestou
  split
  · next label result at' => simp [Lance.emprestimos, label, result, at', Event.ackedFor]
  · next outro =>
      unfold Lance.emprestimos
      split
      · next label =>
          split
          · rfl
          · next result at' => exact absurd at' (outro _ _ _ _ _ _ _ label result)
          · rfl
      · next ref _ => cases (e.pre.terminaEmissoes ref).bind (·.em.aSomar) <;> rfl
      · rfl

omit [JavaFloat R] in
theorem acked_log {f : Lance R → Option (Event (Licitacao R))} {g : Lance R → Option (Licitacao R)}
    {objeto : Nat} (same : ∀ e, g e = (f e).bind (Event.ackedFor objeto)) :
    acked objeto (t.filterMap f) = t.filterMap g := by
  rw [acked, List.filterMap_filterMap]
  exact List.filterMap_congr fun e _ => (same e).symm

omit [JavaFloat R] in
theorem aLicitar_of_holds {ponto : Ponto R} {leilao : Nat}
    (held : ponto.licitando = .holds leilao) : ponto.aLicitar = some leilao := by
  unfold Ponto.licitando at held
  split at held
  · next em =>
      cases em <;> cases held
      rfl
  · cases held
  · cases held

theorem aEmprestar_of_holds {ponto : Ponto R} {emissao : Nat}
    (held : ponto.emprestando = .holds emissao) : ponto.aEmprestar = some emissao := by
  unfold Ponto.emprestando at held
  split at held
  · next em =>
      cases em <;> cases held
      rfl
  · cases held
  · cases held

end Leituras

variable [Gson R]

theorem kept_leiloes (run : Run nomes registadas t m) (livre : ∀ e ∈ t, e.pre.SomaTudo e.label) :
    m.salaLeiloes.Kept (t.filterMap Lance.licitacoes) := by
  refine run.invariant_of_guard (fun t m => m.salaLeiloes.Kept (t.filterMap Lance.licitacoes))
    (fun e => e.pre.SomaTudo e.label) livre
    (Room.kept_nil (fun _ => rfl) (fun _ => rfl) rfl fun _ => rfl) ?_
  intro t m l r m' _ kept step guard
  rw [Runs.filterMap_concat]
  refine kept.step step.move.licitacoes ?_
  intro leilao vistas count held
  cases l with
  | terminaLeilao ref =>
      simp only [Lance.licitacoes, Option.map_eq_some_iff, Option.bind_eq_some_iff,
        Event.count.injEq] at count
      obtain ⟨_, ⟨fio, at', soma⟩, rfl, _⟩ := count
      exact guard fio at' _ soma (aLicitar_of_holds held)
  | exchange agora agoraDiretorio =>
      simp only [Lance.licitacoes] at count
      split at count <;> cases count
  | _ => cases count

theorem kept_emissoes (run : Run nomes registadas t m) (livre : ∀ e ∈ t, e.pre.SomaTudo e.label) :
    m.salaEmissoes.Kept (t.filterMap Lance.emprestimos) := by
  refine run.invariant_of_guard (fun t m => m.salaEmissoes.Kept (t.filterMap Lance.emprestimos))
    (fun e => e.pre.SomaTudo e.label) livre
    (Room.kept_nil (fun _ => rfl) (fun _ => rfl) rfl fun _ => rfl) ?_
  intro t m l r m' _ kept step guard
  rw [Runs.filterMap_concat]
  refine kept.step step.move.emprestimos ?_
  intro emissao vistas count held
  cases l with
  | terminaEmissao ref =>
      simp only [Lance.emprestimos, Option.map_eq_some_iff, Option.bind_eq_some_iff,
        Event.count.injEq] at count
      obtain ⟨_, ⟨fio, at', soma⟩, rfl, _⟩ := count
      exact guard fio at' _ soma (aEmprestar_of_holds held)
  | exchange agora agoraDiretorio =>
      simp only [Lance.emprestimos] at count
      split at count <;> cases count
  | _ => cases count

/-- In a run that never sums the bids of an auction or emission while the exchange thread is about
to add one there, every bid answered with true is summed. -/
theorem countedBids (run : Run nomes registadas t m)
    (livre : ∀ e ∈ t, e.pre.SomaTudo e.label) : CountedBids t where
  leiloes e recorded ref label fio at' leilao soma := by
    have counted : Event.count leilao (e.pre.leilao leilao).licitacoes ∈
        t.filterMap Lance.licitacoes := by
      refine List.mem_filterMap.2 ⟨e, recorded, ?_⟩
      rw [Option.mem_def] at at' soma
      simp [Lance.licitacoes, label, at', soma]
    rw [← acked_log (licitou_eq leilao)]
    exact (kept_leiloes run livre).acked_of_count counted
  emissoes e recorded ref label fio at' emissao soma := by
    have counted : Event.count emissao (e.pre.emissao emissao).licitacoes ∈
        t.filterMap Lance.emprestimos := by
      refine List.mem_filterMap.2 ⟨e, recorded, ?_⟩
      rw [Option.mem_def] at at' soma
      simp [Lance.emprestimos, label, at', soma]
    rw [← acked_log (emprestou_eq emissao)]
    exact (kept_emissoes run livre).acked_of_count counted

/-! ### A bid on its way -/

/-- Ana's bid for the auction of `CanecaLda`, looked up and not yet added. -/
def aCaminho : List (Passo Binary32) :=
  umLeilao ++ [.recv (.licitar "CanecaLda" "ana" 600 (.intBitsToFloat 0x3D4CCCCD)),
    .exchange (.atNano 0) (.atNano 0)]

/-- The auction is settled before the bid is added; the bid is answered with true. -/
def semLicitacao : List (Passo Binary32) :=
  aCaminho ++ List.replicate 6 (.terminaLeilao 0) ++
    List.replicate 6 (.exchange (.atNano 0) (.atNano 0))

theorem semLicitacao_taken :
    (Memoria.corrida ["CanecaLda"] Directory.nomes semLicitacao).isSome := by decide +kernel

abbrev semLicitacaoRun : List (Lance Binary32) :=
  ((Memoria.corrida ["CanecaLda"] Directory.nomes semLicitacao).get semLicitacao_taken).1

theorem semLicitacaoRun_length : semLicitacaoRun.length = 22 := by decide +kernel

abbrev semLicitacaoSoma : Lance Binary32 :=
  semLicitacaoRun.get ⟨11, by rw [semLicitacaoRun_length]; decide⟩

theorem countedBids_late :
    ∃ (t : List (Lance Binary32)) (m : Memoria Binary32),
      Run ["CanecaLda"] Directory.nomes t m ∧ ¬CountedBids t := by
  refine ⟨_, _, Memoria.run_corrida semLicitacao_taken, ?_⟩
  intro counted
  have label : semLicitacaoSoma.label = .terminaLeilao 0 := by decide +kernel
  have soma : (semLicitacaoSoma.pre.terminaLeiloes 0).bind (·.em.aSomar) = some 0 := by
    decide +kernel
  obtain ⟨fio, at', soma⟩ := Option.bind_eq_some_iff.1 soma
  have missed : ¬List.Sublist (semLicitacaoRun.filterMap (Lance.licitou 0))
      (semLicitacaoSoma.pre.leilao 0).licitacoes := by decide +kernel
  exact missed (counted.leiloes semLicitacaoSoma (List.get_mem ..) 0 label fio at' 0 soma)

def comLicitacao : List (Passo Binary32) :=
  aCaminho ++ List.replicate 6 (.exchange (.atNano 0) (.atNano 0)) ++
    List.replicate 6 (.terminaLeilao 0)

theorem comLicitacao_taken :
    (Memoria.corrida ["CanecaLda"] Directory.nomes comLicitacao).isSome := by decide +kernel

theorem countedBids_added :
    ∃ (t : List (Lance Binary32)) (m : Memoria Binary32),
      Run ["CanecaLda"] Directory.nomes t m ∧
        t.filterMap (Lance.licitou 0) = [⟨"ana", .intBitsToFloat 0x3D4CCCCD, 600⟩] ∧
        CountedBids t := by
  have livre : ∀ e ∈ ((Memoria.corrida ["CanecaLda"] Directory.nomes comLicitacao).get
      comLicitacao_taken).1, e.pre.SomaTudo e.label := by decide +kernel
  have run := Memoria.run_corrida comLicitacao_taken
  exact ⟨_, _, run, by decide +kernel, countedBids run livre⟩

end PeerLanding.Threads
