import PeerLanding.Frontend
import PeerLanding.Rates
import PeerLanding.Replies

/-! How long the loop of `Exchange.run` survives the requests that the front-end forwards.
An exception can come from a company that is not hosted and from a rate that has no JSON
form; a live exchange holds neither an auction of such a company nor such a rate. -/

namespace PeerLanding

open Exchange

variable {R : Type} [JavaFloat R]

/-! ### Finite rates -/

def Exchange.Leilao.Finito (leilao : Leilao R) : Prop :=
  ∀ l ∈ leilao.licitacoes, JavaFloat.isFinite l.taxa = true

@[simp] theorem Exchange.Leilao.finito_novo (ref : Nat) (taxaMaxima : R) (quantia : Int32)
    (c : String) (agora : LocalDateTime) : (Leilao.novo ref taxaMaxima quantia c agora).Finito :=
  fun l hl => by cases hl

@[simp] theorem Exchange.Leilao.finito_comLicitacao (leilao : Leilao R) (l : Licitacao R) :
    (leilao.comLicitacao l).Finito ↔ leilao.Finito ∧ JavaFloat.isFinite l.taxa = true := by
  simp [Finito, or_imp, forall_and]

theorem Exchange.Leilao.Finito.termina {leilao : Leilao R} (h : leilao.Finito) (c : String)
    (idL : Int) : (leilao.termina c idL).1.Finito := by
  intro l hl
  rcases leilao.termina_cases c idL with ⟨_, ht⟩ | ⟨_, _, ht⟩ | ⟨_, _, ht⟩ <;> rw [ht] at hl
  · exact h l hl
  · exact h l hl
  · exact h l (mem_of_mem_alocadas hl)

theorem Exchange.Leilao.Finito.maxima {leilao : Leilao R} (h : leilao.Finito) :
    JavaFloat.isFinite leilao.getTaxaLicitacaoMaxima = true := by
  unfold getTaxaLicitacaoMaxima
  cases JavaFloat.foldl_max_mem (leilao.licitacoes.map (·.taxa)) JavaFloat.minValue with
  | inl identity =>
      rw [identity]
      exact JavaFloat.isFinite_minValue
  | inr found =>
      obtain ⟨l, hl, same⟩ := List.mem_map.1 found
      rw [← same]
      exact h l hl

@[simp] theorem Exchange.Emissao.termina_taxa (emissao : Emissao R) (c : String) (idL : Int) :
    (emissao.termina c idL).1.taxa = emissao.taxa := by
  obtain ⟨sucesso, h⟩ := emissao.termina_eq c idL
  rw [h]

/-- Every rate of a bid or an emission that the exchange holds about the company is finite. -/
structure Ficha.Finita (f : Ficha R) : Prop where
  settled : ∀ leilao ∈ f.empresa.historicoLeiloes, leilao.Finito
  bids : ∀ leilao ∈ f.leilao, leilao.Finito
  issued : ∀ emissao ∈ f.empresa.historicoEmissoes, JavaFloat.isFinite emissao.taxa = true
  rate : ∀ emissao ∈ f.emissao, JavaFloat.isFinite emissao.taxa = true

section Ficha

variable {c : String} {f f' : Ficha R} {l : Passo R} {r : Resultado}

theorem Ficha.Passa.finita (hs : f.Passa c l r f') (h : f.Finita)
    (answered : ∀ amb p, l = .pedido amb p → ∃ sucesso, r = .resposta sucesso) :
    f'.Finita := by
  obtain ⟨settled, bids, issued, rate⟩ := h
  cases hs with
  | leilaoEspecial => simp at answered
  | licitarEspecial => simp at answered
  | emissaoEspecial => simp at answered
  | terminaLeilao amb por dela aberto finito =>
      have outcome := (bids _ aberto).termina c
      refine ⟨?_, ?_, ?_, ?_⟩ <;> simp_all [or_imp]
  | terminaLeilaoEspecial amb por dela aberto especial =>
      have outcome := (bids _ aberto).termina c
      refine ⟨?_, ?_, ?_, ?_⟩ <;> simp_all [or_imp]
  | _ => refine ⟨?_, ?_, ?_, ?_⟩ <;> simp_all [or_imp]

/-- With finite rates only the increase after a failed emission can leave the finite range. -/
theorem Ficha.Finita.taxaEmissao {quantia : Int32} {taxa : R} (h : f.Finita)
    (pode : f.empresa.PodeEmitir quantia) (preco : f.empresa.taxaEmissao = .ok taxa) :
    JavaFloat.isFinite taxa = true ↔
      (f.empresa.reinicia = false → ∀ ultima ∈ f.empresa.historicoEmissoes.getLast?,
        ultima.sucesso = false → JavaFloat.isFinite (JavaFloat.mul110 ultima.taxa) = true) := by
  obtain ⟨leilao, last, sucesso⟩ := pode.1
  cases again : f.empresa.reinicia with
  | true =>
      rw [Empresa.taxaEmissao_reinicia last sucesso again, Except.ok.injEq] at preco
      rw [← preco]
      exact iff_of_true (h.settled leilao (List.mem_of_getLast? last)).maxima nofun
  | false =>
      obtain ⟨ultima, issued, price⟩ := Empresa.taxaEmissao_continua last again
      rw [price, Except.ok.injEq] at preco
      have finita := h.issued ultima (List.mem_of_getLast? issued)
      rw [← preco, issued, Emissao.proxima]
      cases hs : ultima.sucesso <;> simp [hs, finita]

end Ficha

/-! ### Companies that are not hosted -/

variable [Gson R] {s s' : Sistema R} {c : String} {amb : Ambiente}

namespace Sistema

structure Ausente (s : Sistema R) (c : String) : Prop where
  empresa : s.empresas c = none
  leilao : s.leiloes c = none
  emissao : s.emissoes c = none

omit [JavaFloat R] [Gson R] in
theorem Ausente.of_poupa (h : s.Ausente c) (spared : Poupa c s s') : s'.Ausente c := by
  refine ⟨spared.empresa.trans h.empresa, ?_, ?_⟩
  · exact (congrArg Ficha.leilao spared.ficha).trans h.leilao
  · exact (congrArg Ficha.emissao spared.ficha).trans h.emissao

theorem atende_ausente (h : s.Ausente c) {p : Pedido R} {sucesso : Bool}
    (about : (Passo.pedido amb p).empresa = some c)
    (answered : (atende amb p).run s = .ok sucesso s') : s' = s := by
  cases p with
  | licitar d investidor quantia juro =>
      cases about
      rw [atende, licitar_rejeita (by simp [h.leilao])] at answered
      cases answered
      rfl
  | emprestimo d investidor quantia =>
      cases about
      rw [atende, emprestimo_rejeita (.inl h.emissao)] at answered
      cases answered
      rfl
  | emissao d quantia =>
      cases about
      rw [atende, emissao_rejeita (by simp [h.empresa])] at answered
      cases answered
      rfl
  | leilao d quantia juro =>
      cases about
      by_cases multiplo : quantia % 1000 = 0
      · rw [atende, leilao_aceita h.leilao multiplo, h.empresa] at answered
        cases answered
      · rw [atende, leilao_rejeita (.inr multiplo)] at answered
        cases answered
        rfl
  | outro => cases about

theorem terminaLeilao_ausente (amb : Ambiente) {thread : TerminaLeilao}
    (h : s.Ausente thread.empresa) :
    (Java.state ((thread.run amb).run s)).Ausente thread.empresa := by
  rw [terminaLeilao_nulo h.leilao]
  exact ⟨h.empresa, Function.update_self _ _ _, h.emissao⟩

theorem terminaEmissao_ausente (amb : Ambiente) {thread : TerminaEmissao}
    (h : s.Ausente thread.empresa) :
    (Java.state ((thread.run amb).run s)).Ausente thread.empresa := by
  rw [terminaEmissao_nulo h.emissao]
  exact ⟨h.empresa, h.leilao, Function.update_self _ _ _⟩

theorem passa_ausente (h : s.Ausente c) {l : Passo R} {r : Resultado} (step : s.Passa l r s')
    (vivo : s'.vivo = true) : s'.Ausente c := by
  by_cases about : l.empresa = some c
  · cases l with
    | pedido amb p =>
        simp only [Passa, proximo, Option.ite_none_right_eq_some] at step
        cases hx : (atende amb p).run s with
        | ok sucesso z =>
            rw [hx] at step
            cases step.2
            exact atende_ausente h about hx ▸ h
        | error e z =>
            rw [hx] at step
            cases step.2
            cases vivo
    | terminaLeilao amb thread =>
        cases about
        simp only [Passa, proximo, Option.ite_none_right_eq_some, Option.some.injEq] at step
        rw [← corre_state step.2]
        exact terminaLeilao_ausente amb ⟨h.empresa, h.leilao, h.emissao⟩
    | terminaEmissao amb thread =>
        cases about
        simp only [Passa, proximo, Option.ite_none_right_eq_some, Option.some.injEq] at step
        rw [← corre_state step.2]
        exact terminaEmissao_ausente amb ⟨h.empresa, h.leilao, h.emissao⟩
  · exact h.of_poupa (passa_poupa step about)

variable {nomes registadas : List String} {t : List (Transicao R)}

theorem Run.ausente (h : Sistema.Run nomes registadas t s) (hc : c ∉ nomes) :
    s.vivo = true → s.Ausente c := by
  refine Runs.Run.invariant (fun _ s => s.vivo = true → s.Ausente c) h ?_ ?_
  · intro _
    exact ⟨if_neg hc, rfl, rfl⟩
  · intro t s l r s' _ ih step vivo
    exact passa_ausente (ih (passa_vivo step vivo)) step vivo

theorem Run.finita (h : Sistema.Run nomes registadas t s) (hc : c ∈ nomes) :
    s.vivo = true → (s.ficha c).Finita := by
  refine Runs.Run.invariant (fun _ s => s.vivo = true → (s.ficha c).Finita) h ?_ ?_
  · intro _
    rw [inicial_ficha hc]
    refine ⟨?_, ?_, ?_, ?_⟩ <;> simp [Ficha.inicial]
  · intro t s l r s' run ih step vivo
    have hosted := Sistema.Run.hospeda run hc
    have seen := ficha_passa (Option.some_get hosted).symm step
    refine seen.finita (ih (passa_vivo step vivo)) ?_
    rintro amb p rfl
    obtain ⟨sucesso, answered, _⟩ | ⟨e, _, ended⟩ := (passa_pedido step).2
    · exact ⟨sucesso, answered⟩
    · rw [vivo] at ended
      cases ended

/-! ### Which requests are answered -/

/-- The request, handled in this state, raises no exception: an accepted auction is not over
`MesasLda`, accepted rates are finite, and so is the rate after a failed emission. -/
def SemExcecao (s : Sistema R) : Pedido R → Prop
  | .licitar c _ quantia juro =>
      ∀ leilao ∈ s.leiloes c, leilao.Aceita quantia juro → JavaFloat.isFinite juro = true
  | .emprestimo _ _ _ => True
  | .emissao c quantia =>
      ∀ empresa ∈ s.empresas c, empresa.PodeEmitir quantia → empresa.reinicia = false →
        ∀ ultima ∈ empresa.historicoEmissoes.getLast?, ultima.sucesso = false →
          JavaFloat.isFinite (JavaFloat.mul110 ultima.taxa) = true
  | .leilao c quantia juro =>
      s.leiloes c = none → quantia % 1000 = 0 → c ≠ "MesasLda" ∧ JavaFloat.isFinite juro = true
  | .outro => True

section Respostas

variable {investidor : String} {quantia : Int32} {juro : R}

theorem licitar_responde_iff (h : (s.empresas c).isSome ∨ s.Ausente c) :
    (∃ sucesso s', (licitar amb c investidor quantia juro).run s = .ok sucesso s') ↔
      s.SemExcecao (.licitar c investidor quantia juro) := by
  by_cases ha : ∃ leilao, s.leiloes c = some leilao ∧ leilao.Aceita quantia juro
  · obtain ⟨leilao, hl, ha⟩ := ha
    have hosted : (s.empresas c).isSome := by
      cases h with
      | inl hosted => exact hosted
      | inr ausente => simp [ausente.leilao] at hl
    obtain ⟨empresa, he⟩ := Option.isSome_iff_exists.1 hosted
    rw [licitar_aceita hl ha]
    cases hf : JavaFloat.isFinite juro <;> simp [SemExcecao, he, hl, ha, hf]
  · rw [licitar_rejeita (by simpa using ha)]
    refine iff_of_true ⟨_, _, rfl⟩ ?_
    intro leilao hl aceita
    exact absurd ⟨leilao, hl, aceita⟩ ha

theorem emprestimo_responde_sempre (h : (s.empresas c).isSome ∨ s.Ausente c) :
    ∃ sucesso s', (emprestimo amb c investidor quantia).run s = .ok sucesso s' := by
  by_cases ha : s.emissoes c = none ∨ quantia % 100 ≠ 0
  · exact ⟨_, _, emprestimo_rejeita ha⟩
  · rw [not_or, not_not, ← ne_eq, Option.ne_none_iff_exists'] at ha
    obtain ⟨⟨emissao, hl⟩, multiplo⟩ := ha
    cases h with
    | inr ausente => simp [ausente.emissao] at hl
    | inl hosted =>
        obtain ⟨empresa, he⟩ := Option.isSome_iff_exists.1 hosted
        rw [emprestimo_aceita hl multiplo]
        simp [he]

theorem emissao_responde_iff (h : s.empresas c ≠ none → (s.ficha c).Finita) :
    (∃ sucesso s', (emissao amb c quantia).run s = .ok sucesso s') ↔
      s.SemExcecao (.emissao c quantia) := by
  by_cases ha : ∃ empresa, s.empresas c = some empresa ∧ empresa.PodeEmitir quantia
  · obtain ⟨empresa, he, pode⟩ := ha
    obtain ⟨taxa, preco⟩ := Empresa.taxaEmissao_ok pode
    have same : (s.ficha c).empresa = empresa := by simp [ficha, he]
    have finita := (h (by simp [he])).taxaEmissao (same ▸ pode) (same ▸ preco)
    rw [same] at finita
    rw [emissao_aceita he pode preco]
    cases hf : JavaFloat.isFinite taxa with
    | true =>
        refine iff_of_true (by simp) ?_
        intro outra houtra _
        rw [he, Option.mem_some_iff] at houtra
        exact houtra ▸ finita.1 hf
    | false =>
        refine iff_of_false (by simp) ?_
        intro fine
        have := finita.2 (fine empresa he pode)
        simp [hf] at this
  · rw [emissao_rejeita (by simpa using ha)]
    refine iff_of_true ⟨_, _, rfl⟩ ?_
    intro empresa he pode
    exact absurd ⟨empresa, he, pode⟩ ha

theorem leilao_responde_iff (h : (s.empresas c).isSome ↔ c ≠ "MesasLda") :
    (∃ sucesso s', (leilao amb c quantia juro).run s = .ok sucesso s') ↔
      s.SemExcecao (.leilao c quantia juro) := by
  by_cases ha : s.leiloes c = none ∧ quantia % 1000 = 0
  · rw [leilao_aceita ha.1 ha.2, SemExcecao, ← h]
    cases he : s.empresas c with
    | none => simp [ha]
    | some empresa => cases hf : JavaFloat.isFinite juro <;> simp [ha]
  · rw [leilao_rejeita (by tauto)]
    refine iff_of_true ⟨_, _, rfl⟩ ?_
    intro livre multiplo
    exact absurd ⟨livre, multiplo⟩ ha

end Respostas

theorem passa_resposta_iff (vivo : s.vivo = true) (p : Pedido R) :
    (∃ sucesso s', s.Passa (.pedido amb p) (.resposta sucesso) s' ∧ s'.vivo = true) ↔
      ∃ sucesso s', (atende amb p).run s = .ok sucesso s' := by
  refine ⟨?_, ?_⟩
  · rintro ⟨sucesso, s', step, _⟩
    simp only [Passa, proximo, vivo, if_true] at step
    cases hx : (atende amb p).run s with
    | ok sucesso z => exact ⟨sucesso, z, rfl⟩
    | error e z => simp [hx] at step
  · rintro ⟨sucesso, s', answered⟩
    have touched := atende_toca s amb p
    rw [answered, Java.state_ok] at touched
    exact ⟨sucesso, s', passa_of_ok vivo answered, touched.vivo.trans vivo⟩

theorem passa_vivo_iff {p : Pedido R} {r : Resultado} (step : s.Passa (.pedido amb p) r s') :
    s'.vivo = true ↔
      ∃ sucesso z, s.Passa (.pedido amb p) (.resposta sucesso) z ∧ z.vivo = true := by
  refine ⟨?_, ?_⟩
  · intro vivo
    obtain ⟨sucesso, rfl, _⟩ | ⟨e, _, ended⟩ := (passa_pedido step).2
    · exact ⟨sucesso, s', step, vivo⟩
    · rw [vivo] at ended
      cases ended
  · rintro ⟨sucesso, z, step', vivo⟩
    have same := Option.some.inj (step.symm.trans step')
    rw [Prod.mk.injEq] at same
    rw [same.2, vivo]

/-- A live exchange that hosts every company but `MesasLda` answers a request exactly when
the request raises no exception. -/
theorem Run.responde_iff (h : Sistema.Run nomes registadas t s) (vivo : s.vivo = true)
    (p : Pedido R)
    (hosts : ∀ c, (Passo.pedido amb p).empresa = some c → (c ∈ nomes ↔ c ≠ "MesasLda")) :
    (∃ sucesso s', s.Passa (.pedido amb p) (.resposta sucesso) s' ∧ s'.vivo = true) ↔
      s.SemExcecao p := by
  rw [passa_resposta_iff vivo]
  have known : ∀ c, (s.empresas c).isSome ∨ s.Ausente c := by
    intro c
    by_cases hc : c ∈ nomes
    · exact .inl (Sistema.Run.hospeda h hc)
    · exact .inr (h.ausente hc vivo)
  have finita : ∀ c, s.empresas c ≠ none → (s.ficha c).Finita := by
    intro c hosted
    by_cases hc : c ∈ nomes
    · exact h.finita hc vivo
    · exact absurd (h.ausente hc vivo).empresa hosted
  cases p with
  | licitar c investidor quantia juro => exact licitar_responde_iff (known c)
  | emprestimo c investidor quantia =>
      exact iff_of_true (emprestimo_responde_sempre (known c)) trivial
  | emissao c quantia => exact emissao_responde_iff (finita c)
  | leilao c quantia juro =>
      refine leilao_responde_iff ?_
      rw [← hosts c rfl]
      by_cases hc : c ∈ nomes
      · exact iff_of_true (Sistema.Run.hospeda h hc) hc
      · exact iff_of_false (by simp [(h.ausente hc vivo).empresa]) hc
  | outro => exact iff_of_true ⟨_, _, rfl⟩ trivial

end Sistema

/-! ### Forwarded requests -/

section Encaminhadas

open Frontend

variable {nomes registadas : List String} {t : List (Transicao R)} {endereco : String}

omit [Gson R] in
theorem empresa_pedido {m : Mensagem R} (h : (Passo.pedido amb (pedido m)).empresa = some c) :
    c = m.empresa.getD "" := by
  unfold pedido at h
  split_ifs at h <;> simp_all [Passo.empresa]

omit [Gson R] in
/-- A forwarded request is about a company that the exchange hosts, or about `MesasLda`. -/
theorem Frontend.Encaminhada.hosts {username : String} {msg enviada : Mensagem R}
    (forwarded : Encaminhada username msg enviada endereco)
    (hn : Frontend.main.lookup endereco = some nomes) :
    ∀ c, (Passo.pedido amb (pedido enviada)).empresa = some c → (c ∈ nomes ↔ c ≠ "MesasLda") := by
  intro c about
  obtain ⟨hosted, found, hosts⟩ := forwarded.hospedada
  rw [hn, Option.some.injEq] at found
  rw [empresa_pedido about, found]
  exact hosts

def SoEncaminhadas (endereco : String) (t : List (Transicao R)) : Prop :=
  ∀ e ∈ t, ∀ amb p, e.label = .pedido amb p →
    ∃ username msg enviada, Encaminhada username msg enviada endereco ∧ p = pedido enviada

/-- Along a run of forwarded requests the loop is alive exactly when none of them raised an
exception. -/
theorem Sistema.Run.vivo_iff (h : Sistema.Run nomes registadas t s)
    (hn : Frontend.main.lookup endereco = some nomes) (forwarded : SoEncaminhadas endereco t) :
    s.vivo = true ↔ ∀ e ∈ t, ∀ amb p, e.label = .pedido amb p → e.pre.SemExcecao p := by
  refine Runs.Run.invariant_of_guard
    (fun t s => s.vivo = true ↔
      ∀ e ∈ t, ∀ amb p, e.label = .pedido amb p → e.pre.SemExcecao p) _ h forwarded ?_ ?_
  · exact iff_of_true rfl (by simp)
  · intro t s l r s' run ih step from_session
    simp only [List.mem_append, List.mem_singleton, or_imp, forall_and, forall_eq, ← ih]
    cases l with
    | terminaLeilao amb thread => simp [(passa_thread step (by simp)).vivo]
    | terminaEmissao amb thread => simp [(passa_thread step (by simp)).vivo]
    | pedido amb p =>
        obtain ⟨alive, ended⟩ := passa_pedido step
        obtain ⟨username, msg, enviada, sent, rfl⟩ := from_session amb p rfl
        rw [passa_vivo_iff step, Run.responde_iff run alive _ (sent.hosts hn)]
        simp [alive]

/-- In every reachable state of the exchange at an address, a forwarded request is answered,
and the loop goes on, exactly when it raises no exception there; and a run of forwarded
requests leaves the loop alive exactly when none of them raised one on the way. -/
theorem survival_iff (hn : Frontend.main.lookup endereco = some nomes)
    (h : Sistema.Run nomes registadas t s) :
    (∀ username msg enviada amb, Encaminhada username msg enviada endereco → s.vivo = true →
      ((∃ sucesso s', s.Passa (.pedido amb (pedido enviada)) (.resposta sucesso) s' ∧
          s'.vivo = true) ↔ s.SemExcecao (pedido enviada))) ∧
    (SoEncaminhadas endereco t → (s.vivo = true ↔
      ∀ e ∈ t, ∀ amb p, e.label = .pedido amb p → e.pre.SemExcecao p)) := by
  refine ⟨?_, ?_⟩
  · intro username msg enviada amb forwarded vivo
    exact h.responde_iff vivo _ (forwarded.hosts hn)
  · intro forwarded
    exact h.vivo_iff hn forwarded

/-- The auction that `MesasLda` asks for, as its client sends it. -/
def mesasAuction : Mensagem Binary32 :=
  ⟨"leilao", some (.intBitsToFloat 0x3DCCCCCD), some 1000, none, none⟩

/-- The session puts the user's name into the request. -/
def mesasForwarded : Mensagem Binary32 := { mesasAuction with empresa := some "MesasLda" }

theorem mesasForwarded_encaminhada :
    Encaminhada "MesasLda" mesasAuction mesasForwarded "tcp://localhost:4001" :=
  ⟨⟨[], "mongo", 2, by decide⟩, by decide, by decide⟩

abbrev isqueiroState : Sistema Binary32 := Sistema.inicial ["IsqueiroLda"] Directory.nomes

abbrev mesasStep : Passo Binary32 := .pedido (.em 1) (pedido mesasForwarded)

theorem mesasStep_taken : (isqueiroState.proximo mesasStep).isSome := by decide

/-- The first request of `MesasLda` ends the loop of the exchange it is routed to. -/
theorem survival_mesas :
    ∃ (nomes : List String) (s' : Sistema Binary32),
      Frontend.main.lookup "tcp://localhost:4001" = some nomes ∧
      Encaminhada "MesasLda" mesasAuction mesasForwarded "tcp://localhost:4001" ∧
      Sistema.Run (R := Binary32) nomes Directory.nomes [] (.inicial nomes Directory.nomes) ∧
      (Sistema.inicial nomes Directory.nomes).Passa mesasStep (.excecao .nullPointer) s' ∧
      s'.vivo = false := by
  refine ⟨["IsqueiroLda"], ((isqueiroState.proximo mesasStep).get mesasStep_taken).2, by decide,
    mesasForwarded_encaminhada, .nil, ?_, by decide⟩
  have taken := (Option.some_get mesasStep_taken).symm
  have thrown : ((isqueiroState.proximo mesasStep).get mesasStep_taken).1 =
      .excecao .nullPointer := by decide
  exact taken.trans (congrArg some (Prod.ext thrown rfl))

/-- The same request of a company that is routed to the exchange hosting it. -/
def canecaForwarded : Mensagem Binary32 := { mesasAuction with empresa := some "CanecaLda" }

theorem canecaForwarded_encaminhada :
    Encaminhada "CanecaLda" mesasAuction canecaForwarded "tcp://localhost:4000" :=
  ⟨⟨[], "mongo", 2, by decide⟩, by decide, by decide⟩

theorem survival_caneca : ∃ (sucesso : Bool) (s' : Sistema Binary32),
    (Sistema.inicial ["CanecaLda", "SapatoLda"] Directory.nomes).Passa
        (.pedido (.em 1) (pedido canecaForwarded)) (.resposta sucesso) s' ∧ s'.vivo = true := by
  have start : Sistema.Run (R := Binary32) ["CanecaLda", "SapatoLda"] Directory.nomes []
    (Sistema.inicial _ _) := .nil
  have hosted : Frontend.main.lookup "tcp://localhost:4000" = some ["CanecaLda", "SapatoLda"] := by
    decide
  refine ((survival_iff hosted start).1 _ _ _ (.em 1) canecaForwarded_encaminhada rfl).2 ?_
  intro _ _
  exact ⟨by decide, by decide⟩

end Encaminhadas

end PeerLanding
