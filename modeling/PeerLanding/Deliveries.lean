import PeerLanding.NumberedLists
import PeerLanding.Trace
import PeerLanding.Updates

/-! The updates that the steps of a run deliver to the Directory, and what each of them does to
the numbers of the company's records and of their bids. -/

namespace PeerLanding

open Exchange NumberedLists

variable {R : Type} [JavaFloat R] {c : String} {f f' : Ficha R} {l : Passo R} {r : Resultado}

def Exchange.Passo.agoraDiretorio : Passo R → LocalDateTime
  | .pedido amb _ => amb.agoraDiretorio
  | .terminaLeilao amb _ => amb.agoraDiretorio
  | .terminaEmissao amb _ => amb.agoraDiretorio

/-- The update about `c` that the step sends. -/
def Momento.envio (c : String) (e : Momento R) : Option (Relato R) :=
  if e.label.empresa = some c then
    match e.label, e.result with
    | .pedido _ (.leilao _ quantia juro), .resposta true =>
        some (.leilao e.pre.empresa.historicoLeiloes.length juro quantia)
    | .pedido _ (.emissao _ quantia), .resposta true =>
        e.pre.empresa.taxaEmissao.toOption.map fun taxa =>
          .emissao e.pre.empresa.historicoEmissoes.length taxa quantia
    | .pedido _ (.licitar _ investidor quantia juro), .resposta true =>
        e.pre.leilao.map fun leilao =>
          .licitacao e.pre.empresa.historicoLeiloes.length leilao.licitacoes.length
            ⟨investidor, juro, quantia⟩
    | .pedido _ (.emprestimo _ investidor quantia), .resposta true =>
        e.pre.emissao.map fun emissao =>
          .emprestimo e.pre.empresa.historicoEmissoes.length emissao.licitacoes.length
            investidor quantia
    | .terminaLeilao _ thread, .fim =>
        e.pre.leilao.map fun leilao =>
          .terminaLeilao thread.idL (decide (leilao.montanteTotal ≤ leilao.getInvestimentoTotal))
            leilao.enviadas
    | .terminaEmissao _ thread, .fim =>
        e.pre.emissao.map fun emissao =>
          .terminaEmissao thread.idL
            (decide (emissao.montanteTotal ≤ emissao.getInvestimentoTotal))
    | _, _ => none
  else none

/-- The update about `c` that the step gets through to the Directory. -/
def Momento.chegada (c : String) (e : Momento R) : Option (Relato R) :=
  if e.label.entregue then e.envio c else none

namespace Momento

variable {amb : Ambiente} {e : Excecao}

@[simp] theorem chegada_alheio (h : l.empresa ≠ some c) : chegada c ⟨f, l, r, f'⟩ = none := by
  simp [chegada, envio, h]

@[simp] theorem chegada_recusa (p : Pedido R) :
    chegada c ⟨f, .pedido amb p, .resposta false, f'⟩ = none := by
  simp [chegada, envio]

@[simp] theorem chegada_excecao : chegada c ⟨f, l, .excecao e, f'⟩ = none := by
  cases l <;> simp [chegada, envio]

theorem chegada_licitar {leilao : Leilao R} (aberto : f.leilao = some leilao)
    (sent : amb.entregue = true) (investidor : String) (quantia : Int32) (juro : R) :
    chegada c ⟨f, .pedido amb (.licitar c investidor quantia juro), .resposta true, f'⟩ =
      some (.licitacao f.empresa.historicoLeiloes.length leilao.licitacoes.length
        ⟨investidor, juro, quantia⟩) := by
  simp [chegada, envio, aberto, sent]

theorem chegada_terminaLeilao {leilao : Leilao R} {thread : TerminaLeilao}
    (dela : thread.empresa = c) (aberto : f.leilao = some leilao) (sent : amb.entregue = true) :
    chegada c ⟨f, .terminaLeilao amb thread, .fim, f'⟩ =
      some (.terminaLeilao thread.idL
        (decide (leilao.montanteTotal ≤ leilao.getInvestimentoTotal)) leilao.enviadas) := by
  simp [chegada, envio, dela, aberto, sent]

end Momento

theorem Exchange.Leilao.termina_encerra (leilao : Leilao R) (idL : Int) :
    Directory.Leilao.encerra (leilao.termina c idL).2.recebido = fun registado =>
      { registado with
        sucesso := decide (leilao.montanteTotal ≤ leilao.getInvestimentoTotal)
        ativo := false
        licitacoes := match leilao.enviadas with
          | none => registado.licitacoes
          | some ls => ls.map fun l => ⟨0, some l.investidor, l.taxa, l.quantia⟩ } := by
  funext registado
  rw [leilao.termina_terminado]
  cases leilao.enviadas with
  | none => rfl
  | some ls => rfl

theorem Exchange.Emissao.termina_encerra (emissao : Emissao R) (idE : Int) :
    Directory.Emissao.encerra (emissao.termina c idE).2.recebido = fun registada =>
      { registada with
        sucesso := decide (emissao.montanteTotal ≤ emissao.getInvestimentoTotal)
        ativo := false } := by
  funext registada
  by_cases funded : emissao.montanteTotal ≤ emissao.getInvestimentoTotal
  · have settled : (emissao.termina c idE).2 = .desfecho c idE false true :=
      congrArg Prod.snd (if_pos funded)
    simp [settled, funded, Directory.Emissao.encerra, RestRequest.recebido, RestRequest.desfecho]
  · have settled : (emissao.termina c idE).2 = .desfecho c idE false false :=
      congrArg Prod.snd (if_neg funded)
    simp [settled, funded, Directory.Emissao.encerra, RestRequest.recebido, RestRequest.desfecho]

omit [JavaFloat R] in
theorem Ficha.relata_registo_map (f : Ficha R) (amb : Ambiente)
    (g : Directory.Empresa R → Directory.Empresa R) :
    (f.relata amb g).registo = f.registo.map (if amb.entregue then g else id) := by
  rw [Ficha.relata_registo]
  split_ifs <;> simp

theorem Ficha.Passa.registo_eq (hs : f.Passa c l r f') :
    f'.registo = f.registo.map fun registo =>
      match Momento.chegada c ⟨f, l, r, f'⟩ with
      | none => registo
      | some u => u.lido.fiel l.agoraDiretorio registo := by
  cases hs with
  | alheio outra _ => simp [outra]
  | recusa amb p => simp
  | leilao amb livre multiplo finito =>
      rw [Ficha.relata_registo_map]
      congr 1
      cases sent : amb.entregue <;> simp [Momento.chegada, Momento.envio, sent] <;> rfl
  | licitar amb investidor aberto aceita finito =>
      rw [Ficha.relata_registo_map]
      congr 1
      cases sent : amb.entregue <;> simp [Momento.chegada, Momento.envio, sent, aberto] <;> rfl
  | emissao amb pode preco finito =>
      rw [Ficha.relata_registo_map]
      congr 1
      cases sent : amb.entregue <;>
        simp [Momento.chegada, Momento.envio, sent, preco, Except.toOption] <;> rfl
  | emprestimo amb investidor aberta multiplo =>
      rw [Ficha.relata_registo_map]
      congr 1
      cases sent : amb.entregue <;> simp [Momento.chegada, Momento.envio, sent, aberta] <;> rfl
  | terminaLeilao amb por dela aberto finito =>
      rw [Ficha.relata_registo_map]
      congr 1
      funext registo
      cases sent : amb.entregue
      · simp [Momento.chegada, sent]
      · simp [Momento.chegada, Momento.envio, sent, aberto, dela, Relato.lido, Relato.fiel,
          Directory.Empresa.noLeilao, Leilao.termina_encerra]
        rfl
  | terminaEmissao amb por dela aberta =>
      rw [Ficha.relata_registo_map]
      congr 1
      funext registo
      cases sent : amb.entregue
      · simp [Momento.chegada, sent]
      · simp [Momento.chegada, Momento.envio, sent, aberta, dela, Relato.lido, Relato.fiel,
          Directory.Empresa.naEmissao, Emissao.termina_encerra]
        rfl
  | _ => simp

/-- What an update that gets through does to `P` decides what the step does to it. -/
theorem Ficha.Passa.registo_iff (hs : f.Passa c l r f') {P : Directory.Empresa R → Prop}
    {ok : Relato R → Directory.Empresa R → Prop}
    (fiel : ∀ (u : Relato R) agora registo, P registo →
      (P (u.lido.fiel agora registo) ↔ ok u registo))
    (before : ∀ registo ∈ f.registo, P registo) :
    (∀ registo ∈ f'.registo, P registo) ↔
      ∀ u ∈ Momento.chegada c ⟨f, l, r, f'⟩, ∀ registo ∈ f.registo, ok u registo := by
  rw [hs.registo_eq]
  cases Momento.chegada c ⟨f, l, r, f'⟩ with
  | none => simpa using before
  | some u =>
      simp only [Option.mem_def, Option.map_eq_some_iff, forall_exists_index, and_imp,
        forall_apply_eq_imp_iff₂, Option.some.injEq, forall_eq']
      exact forall₂_congr fun registo hr => fiel u _ registo (before registo hr)

namespace Sistema

/-- The exchange does not host `c`, and the Directory has `registo` for it. -/
structure Alheia (s : Sistema R) (c : String) (registo : Option (Directory.Empresa R)) :
    Prop where
  empresa : s.empresas c = none
  registo : s.diretorio c = registo

variable [Gson R] {s s' : Sistema R} {amb : Ambiente} {registo : Option (Directory.Empresa R)}

theorem Alheia.atende_run (h : s.Alheia c registo) {p : Pedido R}
    (about : (Passo.pedido amb p).empresa = some c) :
    ∃ s', ((atende amb p).run s = .ok false s' ∨ ∃ e, (atende amb p).run s = .error e s') ∧
      s'.Alheia c registo := by
  cases p with
  | licitar d investidor quantia juro =>
      cases about
      by_cases ha : ∃ leilao, s.leiloes c = some leilao ∧ leilao.Aceita quantia juro
      · obtain ⟨leilao, hl, ha⟩ := ha
        rw [Exchange.atende, licitar_aceita hl ha, h.empresa]
        exact ⟨_, .inr ⟨_, rfl⟩, h.empresa, h.registo⟩
      · rw [Exchange.atende, licitar_rejeita (by simpa using ha)]
        exact ⟨_, .inl rfl, h⟩
  | emprestimo d investidor quantia =>
      cases about
      by_cases ha : s.emissoes c = none ∨ quantia % 100 ≠ 0
      · rw [Exchange.atende, emprestimo_rejeita ha]
        exact ⟨_, .inl rfl, h⟩
      · rw [not_or, not_not, ← ne_eq, Option.ne_none_iff_exists'] at ha
        obtain ⟨⟨emissao, hl⟩, multiplo⟩ := ha
        rw [Exchange.atende, emprestimo_aceita hl multiplo, h.empresa]
        exact ⟨_, .inr ⟨_, rfl⟩, h.empresa, h.registo⟩
  | emissao d quantia =>
      cases about
      rw [Exchange.atende, emissao_rejeita (by simp [h.empresa])]
      exact ⟨_, .inl rfl, h⟩
  | leilao d quantia juro =>
      cases about
      by_cases ha : s.leiloes c = none ∧ quantia % 1000 = 0
      · rw [Exchange.atende, leilao_aceita ha.1 ha.2, h.empresa]
        exact ⟨_, .inr ⟨_, rfl⟩, h.empresa, h.registo⟩
      · rw [Exchange.atende, leilao_rejeita (by tauto)]
        exact ⟨_, .inl rfl, h⟩
  | outro => cases about

theorem Alheia.terminaLeilao_error {thread : TerminaLeilao}
    (h : s.Alheia thread.empresa registo) :
    ∃ e s', (thread.run amb).run s = .error e s' ∧ s'.Alheia thread.empresa registo := by
  cases hl : s.leiloes thread.empresa with
  | none => exact ⟨_, _, terminaLeilao_nulo hl, h.empresa, h.registo⟩
  | some leilao =>
      rw [terminaLeilao_run hl, h.empresa]
      exact ⟨_, _, rfl, h.empresa, h.registo⟩

theorem Alheia.terminaEmissao_error {thread : TerminaEmissao}
    (h : s.Alheia thread.empresa registo) :
    ∃ e s', (thread.run amb).run s = .error e s' ∧ s'.Alheia thread.empresa registo := by
  cases hl : s.emissoes thread.empresa with
  | none => exact ⟨_, _, terminaEmissao_nulo hl, h.empresa, h.registo⟩
  | some emissao =>
      rw [terminaEmissao_run hl, h.empresa]
      exact ⟨_, _, rfl, h.empresa, h.registo⟩

theorem Alheia.passa (h : s.Alheia c registo) (step : s.Passa l r s') : s'.Alheia c registo := by
  refine passa_mantem (c := c) (P := fun s => s.Alheia c registo) ?_ ?_ ?_ ?_ ?_ ?_ ?_ h step
  · intro s s' spared h
    exact ⟨spared.empresa.trans h.empresa, (congrArg Ficha.registo spared.ficha).trans h.registo⟩
  · exact fun s vivo h => ⟨h.empresa, h.registo⟩
  · exact fun s threads h => ⟨h.empresa, h.registo⟩
  · exact fun s threads h => ⟨h.empresa, h.registo⟩
  · intro s amb p about h
    obtain ⟨s', ran | ⟨e, ran⟩, kept⟩ := h.atende_run about <;> rw [ran] <;> exact kept
  · rintro s amb thread rfl h
    obtain ⟨e, s', ran, kept⟩ := h.terminaLeilao_error
    rwa [ran]
  · rintro s amb thread rfl h
    obtain ⟨e, s', ran, kept⟩ := h.terminaEmissao_error
    rwa [ran]

theorem Alheia.chegada (h : s.Alheia c registo) (step : s.Passa l r s') :
    Momento.chegada c ⟨s.ficha c, l, r, s'.ficha c⟩ = none := by
  by_cases about : l.empresa = some c
  · cases l with
    | pedido amb p =>
        simp only [Passa, proximo, Option.ite_none_right_eq_some] at step
        obtain ⟨z, ran | ⟨e, ran⟩, _⟩ := h.atende_run about <;> rw [ran] at step <;>
          cases step.2
        · exact Momento.chegada_recusa p
        · exact Momento.chegada_excecao
    | terminaLeilao amb thread =>
        cases about
        simp only [Passa, proximo, Option.ite_none_right_eq_some, Option.some.injEq] at step
        have fired : ({ s with terminaLeiloes := s.terminaLeiloes.erase thread } :
            Sistema R).Alheia thread.empresa registo := ⟨h.empresa, h.registo⟩
        obtain ⟨e, z, ran, _⟩ := fired.terminaLeilao_error
        rw [ran] at step
        cases step.2
        exact Momento.chegada_excecao
    | terminaEmissao amb thread =>
        cases about
        simp only [Passa, proximo, Option.ite_none_right_eq_some, Option.some.injEq] at step
        have fired : ({ s with terminaEmissoes := s.terminaEmissoes.erase thread } :
            Sistema R).Alheia thread.empresa registo := ⟨h.empresa, h.registo⟩
        obtain ⟨e, z, ran, _⟩ := fired.terminaEmissao_error
        rw [ran] at step
        cases step.2
        exact Momento.chegada_excecao
  · exact Momento.chegada_alheio about

theorem Run.alheia {nomes registadas : List String} {t : List (Transicao R)}
    (h : Sistema.Run nomes registadas t s) (hc : c ∉ nomes) :
    s.Alheia c (Directory.vazio registadas c) := by
  refine Runs.Run.invariant (fun _ s => s.Alheia c (Directory.vazio registadas c)) h
    ⟨if_neg hc, rfl⟩ ?_
  intro t s l r s' _ ih step
  exact ih.passa step

/-- The Directory's record of any company changes by the update that gets through. -/
theorem Run.diretorio_eq {nomes registadas : List String} {t : List (Transicao R)}
    (h : Sistema.Run nomes registadas t s) (step : s.Passa l r s') (c : String) :
    s'.diretorio c = (s.diretorio c).map fun registo =>
      match Momento.chegada c ⟨s.ficha c, l, r, s'.ficha c⟩ with
      | none => registo
      | some u => u.lido.fiel l.agoraDiretorio registo := by
  by_cases hc : c ∈ nomes
  · exact (ficha_passa (Option.some_get (Run.hospeda h hc)).symm step).registo_eq
  · have elsewhere := Run.alheia h hc
    rw [elsewhere.chegada step, (elsewhere.passa step).registo, elsewhere.registo, Option.map_id']

end Sistema

/-! ### Numbers and positions -/

namespace Directory

section Posicao

variable {α : Type} {number : α → Int} {xs : List α} {g : α → α} {i : Int}

theorem map_emPosicao {β : Type} {h : α → β} (same : ∀ x, h (g x) = h x) :
    (emPosicao g xs i).map h = xs.map h := by
  cases i with
  | ofNat n => exact map_modify_of_eq same
  | negSucc n => rfl

theorem numbered_emPosicao (same : ∀ x, number (g x) = number x) :
    Numbered number (emPosicao g xs i) ↔ Numbered number xs := by
  rw [numbered_iff_map, numbered_iff_map, map_emPosicao same]

theorem map_emPosicao_eq {β γ : Type} {ys : List β} {h : α → γ} {h' : β → γ} {g' : β → β}
    (same : ys.map h' = xs.map h) (alike : ∀ x y, h' y = h x → h' (g' y) = h (g x)) :
    (emPosicao g' ys i).map h' = (emPosicao g xs i).map h := by
  cases i with
  | ofNat n => exact map_modify_eq same alike
  | negSucc n => exact same

theorem get_emPosicao {n : Nat} {x : α} (found : xs[n]? = some x) :
    (emPosicao g xs n)[n]? = some (g x) := by
  change (xs.modify n g)[n]? = some (g x)
  simp [found]

theorem forall_mem_emPosicao {P : α → Prop} (h : ∀ x ∈ xs, P x) :
    (∀ x ∈ emPosicao g xs i, P x) ↔ ∀ x, Java.get xs i = .ok x → P (g x) := by
  cases i with
  | negSucc n => exact iff_of_true h fun x found => by cases found
  | ofNat n =>
      rw [emPosicao, forall_mem_modify h]
      simp [Java.get_eq_ok]

end Posicao

/-- The bids of the company's auctions are at the positions of their numbers. -/
def Empresa.LicitacoesNumeradas (registo : Empresa R) : Prop :=
  ∀ leilao ∈ registo.historicoLeiloes, Numbered Licitacao.id leilao.licitacoes

/-- The company's records are at the positions of their numbers. -/
structure Empresa.Numerada (registo : Empresa R) : Prop where
  leiloes : Numbered Leilao.id registo.historicoLeiloes
  emissoes : Numbered Emissao.id registo.historicoEmissoes

omit [JavaFloat R] in
theorem Empresa.numerada_novo (nome : String) : (Empresa.novo nome : Empresa R).Numerada :=
  ⟨numbered_nil, numbered_nil⟩

omit [JavaFloat R] in
theorem Empresa.licitacoesNumeradas_novo (nome : String) :
    (Empresa.novo nome : Empresa R).LicitacoesNumeradas := by
  intro leilao hl
  cases hl

end Directory

namespace Exchange.Relato

variable (registo : Directory.Empresa R)

def NumeraLeiloes : Relato R → Prop
  | .leilao idL _ _ => idL = registo.historicoLeiloes.length
  | _ => True

def NumeraEmissoes : Relato R → Prop
  | .emissao idL _ _ => idL = registo.historicoEmissoes.length
  | _ => True

/-- A bid is appended at the position of its number. The bids of an outcome all read `0`, so there
is at most one. -/
def NumeraLicitacoes : Relato R → Prop
  | .licitacao idL id _ => ∀ leilao, Java.get registo.historicoLeiloes idL = .ok leilao →
      id = leilao.licitacoes.length
  | .terminaLeilao idL _ alocados => ∀ leilao, Java.get registo.historicoLeiloes idL = .ok leilao →
      ∀ ls ∈ alocados, ls.length ≤ 1
  | _ => True

def NumeraEmprestimos : Relato R → Prop
  | .emprestimo idL id _ _ => ∀ emissao, Java.get registo.historicoEmissoes idL = .ok emissao →
      id = emissao.licitacoes.length
  | _ => True

variable {registo} {agora : LocalDateTime} (u : Relato R)

theorem numera_leiloes (h : Numbered Directory.Leilao.id registo.historicoLeiloes) :
    Numbered Directory.Leilao.id (u.lido.fiel agora registo).historicoLeiloes ↔
      u.NumeraLeiloes registo := by
  cases u with
  | leilao idL taxaMaxima montanteTotal =>
      exact numbered_concat.trans (and_iff_right h)
  | licitacao idL id l =>
      refine iff_of_true ((Directory.numbered_emPosicao ?_).2 h) trivial
      exact fun _ => rfl
  | terminaLeilao idL sucesso alocados =>
      refine iff_of_true ((Directory.numbered_emPosicao ?_).2 h) trivial
      exact fun _ => rfl
  | _ => exact iff_of_true h trivial

theorem numera_emissoes (h : Numbered Directory.Emissao.id registo.historicoEmissoes) :
    Numbered Directory.Emissao.id (u.lido.fiel agora registo).historicoEmissoes ↔
      u.NumeraEmissoes registo := by
  cases u with
  | emissao idL taxa montanteTotal =>
      exact numbered_concat.trans (and_iff_right h)
  | emprestimo idL id investidor quantia =>
      refine iff_of_true ((Directory.numbered_emPosicao ?_).2 h) trivial
      exact fun _ => rfl
  | terminaEmissao idL sucesso =>
      refine iff_of_true ((Directory.numbered_emPosicao ?_).2 h) trivial
      exact fun _ => rfl
  | _ => exact iff_of_true h trivial

theorem numera_licitacoes (h : registo.LicitacoesNumeradas) :
    (u.lido.fiel agora registo).LicitacoesNumeradas ↔ u.NumeraLicitacoes registo := by
  cases u with
  | leilao idL taxaMaxima montanteTotal =>
      refine iff_of_true ?_ trivial
      simpa [Directory.Empresa.LicitacoesNumeradas, lido, fiel, or_imp, forall_and] using h
  | licitacao idL id l =>
      refine (Directory.forall_mem_emPosicao h).trans (forall₂_congr fun leilao found => ?_)
      have before : Numbered Directory.Licitacao.id leilao.licitacoes :=
        h leilao (Java.mem_of_get found)
      exact numbered_concat.trans (and_iff_right before)
  | terminaLeilao idL sucesso alocados =>
      refine (Directory.forall_mem_emPosicao h).trans (forall₂_congr fun leilao found => ?_)
      have before : Numbered Directory.Licitacao.id leilao.licitacoes :=
        h leilao (Java.mem_of_get found)
      cases alocados with
      | none => simpa using before
      | some ls =>
          have unnumbered := @numbered_zero _ Directory.Licitacao.id
            (ls.map fun l => ⟨0, some l.investidor, l.taxa, l.quantia⟩) (by simp)
          simpa using unnumbered
  | _ => exact iff_of_true h trivial

def leilaoAberto : Relato R → Option Int
  | .leilao idL _ _ => some idL
  | _ => none

def emissaoAberta : Relato R → Option Int
  | .emissao idL _ _ => some idL
  | _ => none

theorem map_id_leiloes : (u.lido.fiel agora registo).historicoLeiloes.map (·.id) =
    registo.historicoLeiloes.map (·.id) ++ u.leilaoAberto.toList := by
  cases u with
  | leilao idL taxaMaxima montanteTotal => simp [lido, fiel, leilaoAberto]
  | licitacao idL id l =>
      refine (Directory.map_emPosicao ?_).trans (List.append_nil _).symm
      exact fun _ => rfl
  | terminaLeilao idL sucesso alocados =>
      refine (Directory.map_emPosicao ?_).trans (List.append_nil _).symm
      exact fun _ => rfl
  | _ => simp [lido, fiel, leilaoAberto]

theorem map_id_emissoes : (u.lido.fiel agora registo).historicoEmissoes.map (·.id) =
    registo.historicoEmissoes.map (·.id) ++ u.emissaoAberta.toList := by
  cases u with
  | emissao idL taxa montanteTotal => simp [lido, fiel, emissaoAberta]
  | emprestimo idL id investidor quantia =>
      refine (Directory.map_emPosicao ?_).trans (List.append_nil _).symm
      exact fun _ => rfl
  | terminaEmissao idL sucesso =>
      refine (Directory.map_emPosicao ?_).trans (List.append_nil _).symm
      exact fun _ => rfl
  | _ => simp [lido, fiel, emissaoAberta]

end Exchange.Relato

def chegadas (c : String) (t : List (Momento R)) : List (Relato R) :=
  t.filterMap (Momento.chegada c)

@[simp] theorem chegadas_concat (c : String) (t : List (Momento R)) (e : Momento R) :
    chegadas c (t ++ [e]) = chegadas c t ++ (e.chegada c).toList :=
  Runs.filterMap_concat _ t e

/-- The numbers of a company's records are those that were sent with their openings. -/
structure Directory.Empresa.NumerosEnviados (registo : Directory.Empresa R)
    (us : List (Relato R)) : Prop where
  leiloes : registo.historicoLeiloes.map (·.id) = us.filterMap Relato.leilaoAberto
  emissoes : registo.historicoEmissoes.map (·.id) = us.filterMap Relato.emissaoAberta

theorem Ficha.Run.numerosEnviados {registadas : List String} {t : List (Momento R)}
    (h : Ficha.Run c registadas t f) : ∀ registo ∈ f.registo,
      registo.NumerosEnviados (chegadas c t) := by
  refine Runs.Run.invariant
    (fun t f => ∀ registo ∈ f.registo, registo.NumerosEnviados (chegadas c t)) h ?_ ?_
  · intro registo hr
    rw [Directory.eq_novo_of_vazio hr]
    exact ⟨rfl, rfl⟩
  · intro t f l r f' _ ih hs registo hr
    rw [Option.mem_def, hs.registo_eq, Option.map_eq_some_iff] at hr
    obtain ⟨antes, ha, rfl⟩ := hr
    obtain ⟨leiloes, emissoes⟩ := ih antes ha
    rw [chegadas_concat]
    cases Momento.chegada c ⟨f, l, r, f'⟩ with
    | none => exact ⟨by simpa using leiloes, by simpa using emissoes⟩
    | some u =>
        refine ⟨?_, ?_⟩
        · rw [Option.toList_some, Runs.filterMap_concat, ← leiloes]
          exact u.map_id_leiloes
        · rw [Option.toList_some, Runs.filterMap_concat, ← emissoes]
          exact u.map_id_emissoes

end PeerLanding
