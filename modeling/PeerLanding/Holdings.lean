import PeerLanding.Identity

/-! What holds of every auction and emission that an exchange keeps, open or in a history.
It has to hold of new ones, to survive a bid, and to survive the settlement. -/

namespace PeerLanding

open Exchange

variable {R : Type}

structure Sistema.Guarda (PL : String → Leilao R → Prop) (PE : String → Emissao R → Prop)
    (s : Sistema R) : Prop where
  leiloes : ∀ c, ∀ leilao ∈ s.leiloes c, PL c leilao
  emissoes : ∀ c, ∀ emissao ∈ s.emissoes c, PE c emissao
  historicoLeiloes : ∀ c, ∀ empresa ∈ s.empresas c,
    ∀ leilao ∈ empresa.historicoLeiloes, PL c leilao
  historicoEmissoes : ∀ c, ∀ empresa ∈ s.empresas c,
    ∀ emissao ∈ empresa.historicoEmissoes, PE c emissao

/-- The objects that a request opens or changes have the properties afterwards. -/
def Exchange.Pedido.Admite [JavaFloat R] (PL : String → Leilao R → Prop)
    (PE : String → Emissao R → Prop) : Pedido R → Prop
  | .licitar c investidor quantia juro => ∀ leilao, PL c leilao →
      PL c (leilao.comLicitacao ⟨investidor, juro, quantia⟩)
  | .emprestimo c investidor quantia => ∀ emissao, PE c emissao →
      PE c (emissao.comLicitacao (.semTaxa investidor quantia))
  | .emissao c quantia => ∀ ref taxa agora, PE c (.novo ref taxa quantia c agora)
  | .leilao c quantia juro => ∀ ref agora, PL c (.novo ref juro quantia c agora)
  | .outro => True

/-- The exchange has recorded a bid or a loan of the user. -/
def Sistema.Investe (s : Sistema R) (user : String) : Prop :=
  ∃ c, (∃ leilao ∈ (s.ficha c).leiloes, ∃ l ∈ leilao.licitacoes, l.investidor = user) ∨
    ∃ emissao ∈ (s.ficha c).emissoes, ∃ l ∈ emissao.licitacoes, l.investidor = user

/-- The exchange has an auction or an emission of the company, by its place or by its field. -/
def Sistema.Possui (s : Sistema R) (c : String) : Prop :=
  ∃ d, (∃ leilao ∈ (s.ficha d).leiloes, d = c ∨ leilao.empresa = c) ∨
    ∃ emissao ∈ (s.ficha d).emissoes, d = c ∨ emissao.empresa = c

namespace Sistema

variable {PL : String → Leilao R → Prop} {PE : String → Emissao R → Prop} {s s' : Sistema R}
  {d : String}

theorem guarda_inicial (nomes registadas : List String) :
    (inicial nomes registadas : Sistema R).Guarda PL PE := by
  refine ⟨?_, ?_, ?_, ?_⟩ <;> simp +contextual [inicial, Empresa.novo]

theorem Guarda.of_leiloes (h : s.Guarda PL PE) {novo : Option (Leilao R)}
    (leiloes : s'.leiloes = Function.update s.leiloes d novo)
    (emissoes : s'.emissoes = s.emissoes) (empresas : s'.empresas = s.empresas)
    (good : ∀ leilao ∈ novo, PL d leilao) : s'.Guarda PL PE := by
  refine ⟨?_, emissoes ▸ h.emissoes, empresas ▸ h.historicoLeiloes,
    empresas ▸ h.historicoEmissoes⟩
  intro c leilao hl
  rw [leiloes, Function.update_apply] at hl
  split_ifs at hl with hc
  · exact hc ▸ good leilao hl
  · exact h.leiloes c leilao hl

theorem Guarda.of_emissoes (h : s.Guarda PL PE) {nova : Option (Emissao R)}
    (emissoes : s'.emissoes = Function.update s.emissoes d nova)
    (leiloes : s'.leiloes = s.leiloes) (empresas : s'.empresas = s.empresas)
    (good : ∀ emissao ∈ nova, PE d emissao) : s'.Guarda PL PE := by
  refine ⟨leiloes ▸ h.leiloes, ?_, empresas ▸ h.historicoLeiloes,
    empresas ▸ h.historicoEmissoes⟩
  intro c emissao hl
  rw [emissoes, Function.update_apply] at hl
  split_ifs at hl with hc
  · exact hc ▸ good emissao hl
  · exact h.emissoes c emissao hl

theorem Guarda.of_empresas (h : s.Guarda PL PE) {nova : Empresa R}
    (empresas : s'.empresas = Function.update s.empresas d (some nova))
    (leiloes : s'.leiloes = s.leiloes) (emissoes : s'.emissoes = s.emissoes)
    (settled : ∀ leilao ∈ nova.historicoLeiloes, PL d leilao)
    (issued : ∀ emissao ∈ nova.historicoEmissoes, PE d emissao) : s'.Guarda PL PE := by
  refine ⟨leiloes ▸ h.leiloes, emissoes ▸ h.emissoes, ?_, ?_⟩
  · intro c empresa he
    rw [empresas, Function.update_apply] at he
    split_ifs at he with hc
    · cases he
      exact hc ▸ settled
    · exact h.historicoLeiloes c empresa he
  · intro c empresa he
    rw [empresas, Function.update_apply] at he
    split_ifs at he with hc
    · cases he
      exact hc ▸ issued
    · exact h.historicoEmissoes c empresa he

theorem Guarda.relata (h : s.Guarda PL PE) (amb : Ambiente) (c : String)
    (g : Directory.Empresa R → Directory.Empresa R) : (s.relata amb c g).Guarda PL PE := by
  unfold Sistema.relata
  split
  · exact ⟨h.leiloes, h.emissoes, h.historicoLeiloes, h.historicoEmissoes⟩
  · exact h

variable [JavaFloat R] [Gson R] {amb : Ambiente}

theorem Guarda.licitar (h : s.Guarda PL PE) {investidor : String} {quantia : Int32} {juro : R}
    (bid : (Pedido.licitar d investidor quantia juro).Admite PL PE) :
    (Java.state ((licitar amb d investidor quantia juro).run s)).Guarda PL PE := by
  by_cases ha : ∃ leilao, s.leiloes d = some leilao ∧ leilao.Aceita quantia juro
  · obtain ⟨leilao, hl, ha⟩ := ha
    have opened : Guarda PL PE { s with
        leiloes := Function.update s.leiloes d
          (some (leilao.comLicitacao ⟨investidor, juro, quantia⟩)) } :=
      h.of_leiloes rfl rfl rfl (by simpa using bid leilao (h.leiloes d leilao hl))
    rw [licitar_aceita hl ha]
    cases s.empresas d with
    | none => exact opened
    | some empresa =>
        cases JavaFloat.isFinite juro with
        | true => exact opened.relata _ _ _
        | false => exact opened
  · rw [licitar_rejeita (by simpa using ha)]
    exact h

theorem Guarda.emprestimo (h : s.Guarda PL PE) {investidor : String} {quantia : Int32}
    (loan : (Pedido.emprestimo (R := R) d investidor quantia).Admite PL PE) :
    (Java.state ((emprestimo amb d investidor quantia).run s)).Guarda PL PE := by
  by_cases ha : s.emissoes d = none ∨ quantia % 100 ≠ 0
  · rw [emprestimo_rejeita ha]
    exact h
  · rw [not_or, not_not, ← ne_eq, Option.ne_none_iff_exists'] at ha
    obtain ⟨⟨emissao, hl⟩, multiplo⟩ := ha
    have lent : Guarda PL PE { s with
        emissoes := Function.update s.emissoes d
          (some (emissao.comLicitacao (.semTaxa investidor quantia))) } :=
      h.of_emissoes rfl rfl rfl (by simpa using loan emissao (h.emissoes d emissao hl))
    rw [emprestimo_aceita hl multiplo]
    cases s.empresas d with
    | none => exact lent
    | some empresa => exact lent.relata _ _ _

theorem Guarda.emissao (h : s.Guarda PL PE) {quantia : Int32}
    (issue : (Pedido.emissao (R := R) d quantia).Admite PL PE) :
    (Java.state ((emissao amb d quantia).run s)).Guarda PL PE := by
  by_cases ha : ∃ empresa, s.empresas d = some empresa ∧ empresa.PodeEmitir quantia
  · obtain ⟨empresa, he, pode⟩ := ha
    obtain ⟨taxa, preco⟩ := Empresa.taxaEmissao_ok pode
    have issued (threads : List TerminaEmissao) : Guarda PL PE { s with
        novaRef := s.novaRef + 1
        emissoes := Function.update s.emissoes d
          (some (.novo s.novaRef taxa quantia d amb.agora))
        terminaEmissoes := threads } :=
      h.of_emissoes rfl rfl rfl (by simpa using issue s.novaRef taxa amb.agora)
    rw [emissao_aceita he pode preco]
    cases JavaFloat.isFinite taxa with
    | true => exact (issued _).relata _ _ _
    | false => exact issued _
  · rw [emissao_rejeita (by simpa using ha)]
    exact h

theorem Guarda.leilao (h : s.Guarda PL PE) {quantia : Int32} {juro : R}
    (auction : (Pedido.leilao d quantia juro).Admite PL PE) :
    (Java.state ((leilao amb d quantia juro).run s)).Guarda PL PE := by
  by_cases ha : s.leiloes d = none ∧ quantia % 1000 = 0
  · have opened (threads : List TerminaLeilao) : Guarda PL PE { s with
        novaRef := s.novaRef + 1
        leiloes := Function.update s.leiloes d
          (some (.novo s.novaRef juro quantia d amb.agora))
        terminaLeiloes := threads } :=
      h.of_leiloes rfl rfl rfl (by simpa using auction s.novaRef amb.agora)
    rw [leilao_aceita ha.1 ha.2]
    cases s.empresas d with
    | none => exact opened _
    | some empresa =>
        cases JavaFloat.isFinite juro with
        | true => exact (opened _).relata _ _ _
        | false => exact opened _
  · rw [leilao_rejeita (by tauto)]
    exact h

theorem Guarda.atende (h : s.Guarda PL PE) {p : Pedido R} (admite : p.Admite PL PE) :
    (Java.state ((atende amb p).run s)).Guarda PL PE := by
  cases p with
  | licitar c investidor quantia juro => exact h.licitar admite
  | emprestimo c investidor quantia => exact h.emprestimo admite
  | emissao c quantia => exact h.emissao admite
  | leilao c quantia juro => exact h.leilao admite
  | outro => exact h

theorem Guarda.terminaLeilao (h : s.Guarda PL PE) (thread : TerminaLeilao)
    (settle : ∀ c leilao idL, PL c leilao → PL c (leilao.termina c idL).1) :
    (Java.state ((thread.run amb).run s)).Guarda PL PE := by
  have closed : Guarda PL PE
      { s with leiloes := Function.update s.leiloes thread.empresa none } :=
    h.of_leiloes rfl rfl rfl (by simp)
  cases hl : s.leiloes thread.empresa with
  | none => exact terminaLeilao_nulo hl ▸ closed
  | some leilao =>
      rw [terminaLeilao_run hl]
      cases he : s.empresas thread.empresa with
      | none => exact closed
      | some empresa =>
          have settled : Guarda PL PE { s with
              leiloes := Function.update s.leiloes thread.empresa none
              empresas := Function.update s.empresas thread.empresa
                (some (empresa.comLeilao (leilao.termina thread.empresa thread.idL).1)) } := by
            refine closed.of_empresas rfl rfl rfl ?_ (h.historicoEmissoes _ empresa he)
            intro l hl'
            cases List.mem_append.1 hl' with
            | inl old => exact h.historicoLeiloes _ empresa he l old
            | inr new =>
                rw [List.mem_singleton.1 new]
                exact settle _ _ _ (h.leiloes _ leilao hl)
          dsimp only
          split_ifs
          · exact settled.relata _ _ _
          · exact settled

theorem Guarda.terminaEmissao (h : s.Guarda PL PE) (thread : TerminaEmissao)
    (settle : ∀ c emissao idL, PE c emissao → PE c (emissao.termina c idL).1) :
    (Java.state ((thread.run amb).run s)).Guarda PL PE := by
  have closed : Guarda PL PE
      { s with emissoes := Function.update s.emissoes thread.empresa none } :=
    h.of_emissoes rfl rfl rfl (by simp)
  cases hl : s.emissoes thread.empresa with
  | none => exact terminaEmissao_nulo hl ▸ closed
  | some emissao =>
      rw [terminaEmissao_run hl]
      cases he : s.empresas thread.empresa with
      | none => exact closed
      | some empresa =>
          have settled : Guarda PL PE { s with
              emissoes := Function.update s.emissoes thread.empresa none
              empresas := Function.update s.empresas thread.empresa
                (some (empresa.comEmissao (emissao.termina thread.empresa thread.idL).1)) } := by
            refine closed.of_empresas rfl rfl rfl (h.historicoLeiloes _ empresa he) ?_
            intro l hl'
            cases List.mem_append.1 hl' with
            | inl old => exact h.historicoEmissoes _ empresa he l old
            | inr new =>
                rw [List.mem_singleton.1 new]
                exact settle _ _ _ (h.emissoes _ emissao hl)
          exact settled.relata _ _ _

/-- One step keeps what its request admits and every settlement keeps. -/
theorem Guarda.passa (h : s.Guarda PL PE) {l : Passo R} {r : Resultado} (hs : s.Passa l r s')
    (admite : ∀ amb p, l = .pedido amb p → p.Admite PL PE)
    (leilao : ∀ c leilao idL, PL c leilao → PL c (leilao.termina c idL).1)
    (emissao : ∀ c emissao idL, PE c emissao → PE c (emissao.termina c idL).1) :
    s'.Guarda PL PE := by
  rcases passa_programa hs with
    ⟨amb, p, vivo, rfl, rfl⟩ | ⟨amb, thread, rfl, rfl⟩ | ⟨amb, thread, rfl, rfl⟩
  · have kept : (Java.state ((Exchange.atende amb p).run s)).Guarda PL PE :=
      h.atende (admite amb p rfl)
    exact ⟨kept.leiloes, kept.emissoes, kept.historicoLeiloes, kept.historicoEmissoes⟩
  · refine Guarda.terminaLeilao ?_ thread leilao
    exact ⟨h.leiloes, h.emissoes, h.historicoLeiloes, h.historicoEmissoes⟩
  · refine Guarda.terminaEmissao ?_ thread emissao
    exact ⟨h.leiloes, h.emissoes, h.historicoLeiloes, h.historicoEmissoes⟩

omit [JavaFloat R] [Gson R] in
theorem Guarda.ficha (h : s.Guarda PL PE) (c : String) :
    (∀ leilao ∈ (s.ficha c).leiloes, PL c leilao) ∧
      ∀ emissao ∈ (s.ficha c).emissoes, PE c emissao := by
  unfold Ficha.leiloes Ficha.emissoes Sistema.ficha
  cases he : s.empresas c with
  | none => simpa [Empresa.novo] using ⟨h.leiloes c, h.emissoes c⟩
  | some empresa =>
      simp only [Option.getD_some, List.mem_append, Option.mem_toList]
      refine ⟨?_, ?_⟩
      · rintro leilao (settled | running)
        · exact h.historicoLeiloes c empresa he leilao settled
        · exact h.leiloes c leilao running
      · rintro emissao (settled | running)
        · exact h.historicoEmissoes c empresa he emissao settled
        · exact h.emissoes c emissao running

end Sistema

end PeerLanding
