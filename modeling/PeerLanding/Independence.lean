import PeerLanding.Rates
import PeerLanding.Unwinding

/-! Companies are independent. Object references come from one counter for all companies and no
program reads them, so they are left out where the state about a company is compared. -/

namespace PeerLanding

open Exchange

variable {R : Type}

namespace Exchange

def Leilao.semRef (leilao : Leilao R) : Leilao R := { leilao with ref := 0 }

def Emissao.semRef (emissao : Emissao R) : Emissao R := { emissao with ref := 0 }

def Empresa.semRef (empresa : Empresa R) : Empresa R where
  nome := empresa.nome
  historicoLeiloes := empresa.historicoLeiloes.map Leilao.semRef
  historicoEmissoes := empresa.historicoEmissoes.map Emissao.semRef

def TerminaLeilao.semRef (thread : TerminaLeilao) : TerminaLeilao := { thread with ref := 0 }

def TerminaEmissao.semRef (thread : TerminaEmissao) : TerminaEmissao := { thread with ref := 0 }

def Passo.semRef : Passo R → Passo R
  | .pedido amb p => .pedido amb p
  | .terminaLeilao amb thread => .terminaLeilao amb thread.semRef
  | .terminaEmissao amb thread => .terminaEmissao amb thread.semRef

theorem Passo.empresa_semRef (l : Passo R) : l.semRef.empresa = l.empresa := by
  cases l <;> rfl

end Exchange

/-- All that there is about the company is the same. Its unfired threads are in no order. -/
structure Sistema.Igual (c : String) (s u : Sistema R) : Prop where
  empresa : (s.empresas c).map Empresa.semRef = (u.empresas c).map Empresa.semRef
  leilao : (s.leiloes c).map Leilao.semRef = (u.leiloes c).map Leilao.semRef
  emissao : (s.emissoes c).map Emissao.semRef = (u.emissoes c).map Emissao.semRef
  terminaLeiloes : ((s.terminaLeiloes.filter (·.empresa = c)).map TerminaLeilao.semRef).Perm
    ((u.terminaLeiloes.filter (·.empresa = c)).map TerminaLeilao.semRef)
  terminaEmissoes : ((s.terminaEmissoes.filter (·.empresa = c)).map TerminaEmissao.semRef).Perm
    ((u.terminaEmissoes.filter (·.empresa = c)).map TerminaEmissao.semRef)
  registo : s.diretorio c = u.diretorio c

/-! ### What is read of an object is not its reference -/

namespace Exchange

theorem Leilao.eq_of_semRef {leilao outro : Leilao R} (h : leilao.semRef = outro.semRef) :
    ∃ ref, outro = { leilao with ref } := by
  refine ⟨outro.ref, ?_⟩
  obtain ⟨ref, taxaMaxima, montanteTotal, empresa, data, sucesso, licitacoes⟩ := leilao
  obtain ⟨ref', taxaMaxima', montanteTotal', empresa', data', sucesso', licitacoes'⟩ := outro
  simp only [semRef, mk.injEq, true_and] at h ⊢
  simp [h]

theorem Emissao.eq_of_semRef {emissao outra : Emissao R} (h : emissao.semRef = outra.semRef) :
    ∃ ref, outra = { emissao with ref } := by
  refine ⟨outra.ref, ?_⟩
  obtain ⟨ref, taxa, montanteTotal, empresa, sucesso, data, licitacoes⟩ := emissao
  obtain ⟨ref', taxa', montanteTotal', empresa', sucesso', data', licitacoes'⟩ := outra
  simp only [semRef, mk.injEq, true_and] at h ⊢
  simp [h]

theorem TerminaLeilao.eq_of_semRef {thread outro : TerminaLeilao}
    (h : thread.semRef = outro.semRef) : ∃ ref, outro = { thread with ref } := by
  refine ⟨outro.ref, ?_⟩
  obtain ⟨empresa, idL, ref⟩ := thread
  obtain ⟨empresa', idL', ref'⟩ := outro
  simp only [semRef, mk.injEq, and_true] at h ⊢
  simp [h]

theorem TerminaEmissao.eq_of_semRef {thread outro : TerminaEmissao}
    (h : thread.semRef = outro.semRef) : ∃ ref, outro = { thread with ref } := by
  refine ⟨outro.ref, ?_⟩
  obtain ⟨empresa, idL, ref⟩ := thread
  obtain ⟨empresa', idL', ref'⟩ := outro
  simp only [semRef, mk.injEq, and_true] at h ⊢
  simp [h]

@[simp] theorem Leilao.semRef_comRef (leilao : Leilao R) (ref : Nat) :
    semRef { leilao with ref } = leilao.semRef := rfl

@[simp] theorem Emissao.semRef_comRef (emissao : Emissao R) (ref : Nat) :
    semRef { emissao with ref } = emissao.semRef := rfl

theorem Empresa.length_of_semRef {empresa outra : Empresa R}
    (h : empresa.semRef = outra.semRef) :
    empresa.historicoLeiloes.length = outra.historicoLeiloes.length ∧
      empresa.historicoEmissoes.length = outra.historicoEmissoes.length := by
  have leiloes := congrArg (·.historicoLeiloes.length) h
  have emissoes := congrArg (·.historicoEmissoes.length) h
  simpa [semRef] using And.intro leiloes emissoes

theorem Empresa.podeEmitir_semRef (empresa : Empresa R) (quantia : Int32) :
    empresa.semRef.PodeEmitir quantia ↔ empresa.PodeEmitir quantia := by
  simp only [PodeEmitir, semRef, List.getLast?_map]
  cases empresa.historicoLeiloes.getLast? with
  | none => simp
  | some leilao => simp [Leilao.semRef]

theorem Empresa.comLeilao_semRef {empresa outra : Empresa R}
    (h : empresa.semRef = outra.semRef) (leilao : Leilao R) (ref : Nat) :
    (empresa.comLeilao leilao).semRef = (outra.comLeilao { leilao with ref }).semRef := by
  simp only [semRef, mk.injEq] at h
  simp [semRef, comLeilao, h]

theorem Empresa.comEmissao_semRef {empresa outra : Empresa R}
    (h : empresa.semRef = outra.semRef) (emissao : Emissao R) (ref : Nat) :
    (empresa.comEmissao emissao).semRef = (outra.comEmissao { emissao with ref }).semRef := by
  simp only [semRef, mk.injEq] at h
  simp [semRef, comEmissao, h]

variable [JavaFloat R]

theorem Empresa.taxaEmissao_semRef (empresa : Empresa R) :
    empresa.semRef.taxaEmissao = empresa.taxaEmissao := by
  simp only [taxaEmissao, semRef, List.getLast?_map]
  cases empresa.historicoLeiloes.getLast? with
  | none => rfl
  | some leilao =>
      cases empresa.historicoEmissoes.getLast? with
      | none => rfl
      | some emissao => rfl

theorem Leilao.termina_comRef (leilao : Leilao R) (ref : Nat) (c : String) (idL : Int) :
    termina { leilao with ref } c idL =
      ({ (leilao.termina c idL).1 with ref }, (leilao.termina c idL).2) := by
  unfold termina
  by_cases funded : leilao.montanteTotal ≤ leilao.getInvestimentoTotal
  · have funded' : leilao.montanteTotal ≤ getInvestimentoTotal { leilao with ref } := funded
    rw [if_pos funded, if_pos funded']
    unfold alocaInvestidores
    dsimp only
    by_cases all : leilao.licitacoes.length =
        (alocados leilao.montanteTotal 0 (ordena leilao.licitacoes)).length
    · rw [if_pos all, if_pos all]
    · rw [if_neg all, if_neg all]
  · have short : ¬leilao.montanteTotal ≤ getInvestimentoTotal { leilao with ref } := funded
    rw [if_neg funded, if_neg short]

theorem Emissao.termina_comRef (emissao : Emissao R) (ref : Nat) (c : String) (idL : Int) :
    termina { emissao with ref } c idL =
      ({ (emissao.termina c idL).1 with ref }, (emissao.termina c idL).2) := by
  simp only [termina, getInvestimentoTotal]
  by_cases funded : emissao.montanteTotal ≤ somaQuantias emissao.licitacoes
  · simp [funded]
  · simp [funded]

end Exchange

namespace Sistema

variable {c : String} {s u v : Sistema R}

theorem igual_equivalence (c : String) : Equivalence (Igual (R := R) c) where
  refl _ := ⟨rfl, rfl, rfl, .refl _, .refl _, rfl⟩
  symm h := ⟨h.empresa.symm, h.leilao.symm, h.emissao.symm, h.terminaLeiloes.symm,
    h.terminaEmissoes.symm, h.registo.symm⟩
  trans h g := ⟨h.empresa.trans g.empresa, h.leilao.trans g.leilao, h.emissao.trans g.emissao,
    h.terminaLeiloes.trans g.terminaLeiloes, h.terminaEmissoes.trans g.terminaEmissoes,
    h.registo.trans g.registo⟩

theorem Poupa.igual (h : Poupa c s u) : s.Igual c u where
  empresa := by rw [h.empresa]
  leilao := congrArg (Option.map Leilao.semRef) (congrArg Ficha.leilao h.ficha).symm
  emissao := congrArg (Option.map Emissao.semRef) (congrArg Ficha.emissao h.ficha).symm
  terminaLeiloes := by
    have same : u.terminaLeiloes.filter (·.empresa = c) =
        s.terminaLeiloes.filter (·.empresa = c) := congrArg Ficha.terminaLeiloes h.ficha
    rw [same]
  terminaEmissoes := by
    have same : u.terminaEmissoes.filter (·.empresa = c) =
        s.terminaEmissoes.filter (·.empresa = c) := congrArg Ficha.terminaEmissoes h.ficha
    rw [same]
  registo := (congrArg Ficha.registo h.ficha).symm

namespace Igual

theorem leilao_some (h : s.Igual c u) {leilao : Leilao R} (found : s.leiloes c = some leilao) :
    ∃ ref, u.leiloes c = some { leilao with ref } := by
  have same := h.leilao
  rw [found, Option.map_some, eq_comm, Option.map_eq_some_iff] at same
  obtain ⟨outro, found', same⟩ := same
  obtain ⟨ref, rfl⟩ := Leilao.eq_of_semRef same.symm
  exact ⟨ref, found'⟩

theorem leilao_none (h : s.Igual c u) (found : s.leiloes c = none) : u.leiloes c = none := by
  have same := h.leilao
  rwa [found, Option.map_none, eq_comm, Option.map_eq_none_iff] at same

theorem emissao_some (h : s.Igual c u) {emissao : Emissao R}
    (found : s.emissoes c = some emissao) : ∃ ref, u.emissoes c = some { emissao with ref } := by
  have same := h.emissao
  rw [found, Option.map_some, eq_comm, Option.map_eq_some_iff] at same
  obtain ⟨outra, found', same⟩ := same
  obtain ⟨ref, rfl⟩ := Emissao.eq_of_semRef same.symm
  exact ⟨ref, found'⟩

theorem emissao_none (h : s.Igual c u) (found : s.emissoes c = none) : u.emissoes c = none := by
  have same := h.emissao
  rwa [found, Option.map_none, eq_comm, Option.map_eq_none_iff] at same

theorem empresa_some (h : s.Igual c u) {empresa : Empresa R}
    (found : s.empresas c = some empresa) :
    ∃ outra, u.empresas c = some outra ∧ empresa.semRef = outra.semRef := by
  have same := h.empresa
  rw [found, Option.map_some, eq_comm, Option.map_eq_some_iff] at same
  obtain ⟨outra, found', same⟩ := same
  exact ⟨outra, found', same.symm⟩

theorem empresa_none (h : s.Igual c u) (found : s.empresas c = none) : u.empresas c = none := by
  have same := h.empresa
  rwa [found, Option.map_none, eq_comm, Option.map_eq_none_iff] at same

theorem relata (h : s.Igual c u) (amb : Ambiente)
    (g : Directory.Empresa R → Directory.Empresa R) :
    (s.relata amb c g).Igual c (u.relata amb c g) := by
  unfold Sistema.relata
  split_ifs
  · exact { h with registo := by simp [h.registo] }
  · exact h

end Igual

/-- Two programs end in the same way, and with the same state about the company. -/
def Iguais (c : String) {α : Type} :
    EStateM.Result Excecao (Sistema R) α → EStateM.Result Excecao (Sistema R) α → Prop
  | .ok a s, .ok b u => b = a ∧ s.Igual c u
  | .error e s, .error f u => f = e ∧ s.Igual c u
  | _, _ => False

section Pedidos

variable [JavaFloat R] [Gson R] {amb : Ambiente} {investidor : String} {quantia : Int32} {juro : R}

theorem licitar_iguais (h : s.Igual c u) :
    Iguais c ((licitar amb c investidor quantia juro).run s)
      ((licitar amb c investidor quantia juro).run u) := by
  cases hl : s.leiloes c with
  | none =>
      rw [licitar_rejeita (by simp [hl]), licitar_rejeita (by simp [h.leilao_none hl])]
      exact ⟨rfl, h⟩
  | some leilao =>
      obtain ⟨ref, hl'⟩ := h.leilao_some hl
      by_cases ha : leilao.Aceita quantia juro
      · have ha' : Leilao.Aceita { leilao with ref } quantia juro := ha
        have bid : Igual c
            { s with
              leiloes := Function.update s.leiloes c
                (some (leilao.comLicitacao ⟨investidor, juro, quantia⟩)) }
            { u with
              leiloes := Function.update u.leiloes c
                (some (Leilao.comLicitacao { leilao with ref } ⟨investidor, juro, quantia⟩)) } :=
          { h with leilao := by simp [Leilao.comLicitacao, Leilao.semRef] }
        rw [licitar_aceita hl ha, licitar_aceita hl' ha']
        cases he : s.empresas c with
        | none =>
            rw [h.empresa_none he]
            exact ⟨rfl, bid⟩
        | some empresa =>
            obtain ⟨outra, he', same⟩ := h.empresa_some he
            rw [he']
            dsimp only
            rw [(Empresa.length_of_semRef same).1]
            split_ifs
            · exact ⟨rfl, bid.relata _ _⟩
            · exact ⟨rfl, bid⟩
      · have ha' : ¬Leilao.Aceita { leilao with ref } quantia juro := ha
        rw [licitar_rejeita (by simpa [hl] using ha), licitar_rejeita (by simpa [hl'] using ha')]
        exact ⟨rfl, h⟩

theorem emprestimo_iguais (h : s.Igual c u) :
    Iguais c ((emprestimo amb c investidor quantia).run s)
      ((emprestimo amb c investidor quantia).run u) := by
  cases hl : s.emissoes c with
  | none =>
      rw [emprestimo_rejeita (.inl hl), emprestimo_rejeita (.inl (h.emissao_none hl))]
      exact ⟨rfl, h⟩
  | some emissao =>
      obtain ⟨ref, hl'⟩ := h.emissao_some hl
      by_cases ha : quantia % 100 = 0
      · have lent : Igual c
            { s with
              emissoes := Function.update s.emissoes c
                (some (emissao.comLicitacao (.semTaxa investidor quantia))) }
            { u with
              emissoes := Function.update u.emissoes c
                (some (Emissao.comLicitacao { emissao with ref }
                  (.semTaxa investidor quantia))) } :=
          { h with emissao := by simp [Emissao.comLicitacao, Emissao.semRef] }
        rw [emprestimo_aceita hl ha, emprestimo_aceita hl' ha]
        cases he : s.empresas c with
        | none =>
            rw [h.empresa_none he]
            exact ⟨rfl, lent⟩
        | some empresa =>
            obtain ⟨outra, he', same⟩ := h.empresa_some he
            rw [he']
            dsimp only
            rw [(Empresa.length_of_semRef same).2]
            exact ⟨rfl, lent.relata _ _⟩
      · rw [emprestimo_rejeita (.inr ha), emprestimo_rejeita (.inr ha)]
        exact ⟨rfl, h⟩

theorem emissao_iguais (h : s.Igual c u) :
    Iguais c ((emissao amb c quantia).run s) ((emissao amb c quantia).run u) := by
  cases he : s.empresas c with
  | none =>
      rw [emissao_rejeita (by simp [he]), emissao_rejeita (by simp [h.empresa_none he])]
      exact ⟨rfl, h⟩
  | some empresa =>
      obtain ⟨outra, he', same⟩ := h.empresa_some he
      have agree : empresa.PodeEmitir quantia ↔ outra.PodeEmitir quantia := by
        rw [← empresa.podeEmitir_semRef, same, outra.podeEmitir_semRef]
      by_cases pode : empresa.PodeEmitir quantia
      · obtain ⟨taxa, preco⟩ := Empresa.taxaEmissao_ok pode
        have preco' : outra.taxaEmissao = .ok taxa := by
          rw [← outra.taxaEmissao_semRef, ← same, empresa.taxaEmissao_semRef, preco]
        have issued : Igual c
            { s with
              novaRef := s.novaRef + 1
              emissoes := Function.update s.emissoes c
                (some (.novo s.novaRef taxa quantia c amb.agora))
              terminaEmissoes := s.terminaEmissoes ++
                [⟨c, empresa.historicoEmissoes.length, s.novaRef⟩] }
            { u with
              novaRef := u.novaRef + 1
              emissoes := Function.update u.emissoes c
                (some (.novo u.novaRef taxa quantia c amb.agora))
              terminaEmissoes := u.terminaEmissoes ++
                [⟨c, empresa.historicoEmissoes.length, u.novaRef⟩] } :=
          { h with
            emissao := by simp [Emissao.novo, Emissao.semRef]
            terminaEmissoes := by
              simpa [TerminaEmissao.semRef] using h.terminaEmissoes.append_right _ }
        rw [emissao_aceita he pode preco, emissao_aceita he' (agree.1 pode) preco',
          ← (Empresa.length_of_semRef same).2]
        dsimp only
        split_ifs
        · exact ⟨rfl, issued.relata _ _⟩
        · exact ⟨rfl, issued⟩
      · have naoPode := fun outro => pode (agree.2 outro)
        rw [emissao_rejeita (by simpa [he] using pode),
          emissao_rejeita (by simpa [he'] using naoPode)]
        exact ⟨rfl, h⟩

theorem leilao_iguais (h : s.Igual c u) :
    Iguais c ((leilao amb c quantia juro).run s) ((leilao amb c quantia juro).run u) := by
  cases hl : s.leiloes c with
  | some aberto =>
      obtain ⟨ref, hl'⟩ := h.leilao_some hl
      rw [leilao_rejeita (.inl (by simp [hl])), leilao_rejeita (.inl (by simp [hl']))]
      exact ⟨rfl, h⟩
  | none =>
      by_cases ha : quantia % 1000 = 0
      · have opened : Igual c
            { s with
              novaRef := s.novaRef + 1
              leiloes := Function.update s.leiloes c
                (some (.novo s.novaRef juro quantia c amb.agora)) }
            { u with
              novaRef := u.novaRef + 1
              leiloes := Function.update u.leiloes c
                (some (.novo u.novaRef juro quantia c amb.agora)) } :=
          { h with leilao := by simp [Leilao.novo, Leilao.semRef] }
        rw [leilao_aceita hl ha, leilao_aceita (h.leilao_none hl) ha]
        cases he : s.empresas c with
        | none =>
            rw [h.empresa_none he]
            exact ⟨rfl, opened⟩
        | some empresa =>
            obtain ⟨outra, he', same⟩ := h.empresa_some he
            rw [he']
            dsimp only
            rw [← (Empresa.length_of_semRef same).1]
            have started : Igual c
                { s with
                  novaRef := s.novaRef + 1
                  leiloes := Function.update s.leiloes c
                    (some (.novo s.novaRef juro quantia c amb.agora))
                  terminaLeiloes := s.terminaLeiloes ++
                    [⟨c, empresa.historicoLeiloes.length, s.novaRef⟩] }
                { u with
                  novaRef := u.novaRef + 1
                  leiloes := Function.update u.leiloes c
                    (some (.novo u.novaRef juro quantia c amb.agora))
                  terminaLeiloes := u.terminaLeiloes ++
                    [⟨c, empresa.historicoLeiloes.length, u.novaRef⟩] } :=
              { opened with
                terminaLeiloes := by
                  simpa [TerminaLeilao.semRef] using h.terminaLeiloes.append_right _ }
            split_ifs
            · exact ⟨rfl, started.relata _ _⟩
            · exact ⟨rfl, started⟩
      · rw [leilao_rejeita (.inr ha), leilao_rejeita (.inr ha)]
        exact ⟨rfl, h⟩

theorem atende_iguais (h : s.Igual c u) {p : Pedido R}
    (about : (Passo.pedido amb p).empresa = some c) :
    Iguais c ((atende amb p).run s) ((atende amb p).run u) := by
  cases p with
  | licitar d investidor quantia juro =>
      cases about
      exact licitar_iguais h
  | emprestimo d investidor quantia =>
      cases about
      exact emprestimo_iguais h
  | emissao d quantia =>
      cases about
      exact emissao_iguais h
  | leilao d quantia juro =>
      cases about
      exact leilao_iguais h
  | outro => cases about

end Pedidos

section Threads

variable [JavaFloat R] [Gson R] {amb : Ambiente}

theorem terminaLeilao_iguais {thread : TerminaLeilao} (h : s.Igual thread.empresa u)
    (outro : Nat) :
    Iguais thread.empresa ((thread.run amb).run s)
      ((TerminaLeilao.run amb { thread with ref := outro }).run u) := by
  have closed : Igual thread.empresa
      { s with leiloes := Function.update s.leiloes thread.empresa none }
      { u with leiloes := Function.update u.leiloes thread.empresa none } :=
    { h with leilao := by simp }
  cases hl : s.leiloes thread.empresa with
  | none =>
      have hl' : u.leiloes (TerminaLeilao.empresa { thread with ref := outro }) = none :=
        h.leilao_none hl
      rw [terminaLeilao_nulo hl, terminaLeilao_nulo hl']
      exact ⟨rfl, closed⟩
  | some leilao =>
      obtain ⟨ref, found⟩ := h.leilao_some hl
      have hl' : u.leiloes (TerminaLeilao.empresa { thread with ref := outro }) =
          some { leilao with ref } := found
      rw [terminaLeilao_run hl, terminaLeilao_run hl']
      simp only [Leilao.termina_comRef]
      cases he : s.empresas thread.empresa with
      | none =>
          rw [h.empresa_none he]
          exact ⟨rfl, closed⟩
      | some empresa =>
          obtain ⟨outra, he', same⟩ := h.empresa_some he
          rw [he']
          dsimp only
          have settled : Igual thread.empresa
              { s with
                leiloes := Function.update s.leiloes thread.empresa none
                empresas := Function.update s.empresas thread.empresa
                  (some (empresa.comLeilao (leilao.termina thread.empresa thread.idL).1)) }
              { u with
                leiloes := Function.update u.leiloes thread.empresa none
                empresas := Function.update u.empresas thread.empresa
                  (some (outra.comLeilao
                    { (leilao.termina thread.empresa thread.idL).1 with ref })) } :=
            { closed with
              empresa := by simpa using Empresa.comLeilao_semRef same _ ref }
          split_ifs
          · exact ⟨rfl, settled.relata _ _⟩
          · exact ⟨rfl, settled⟩

theorem terminaEmissao_iguais {thread : TerminaEmissao} (h : s.Igual thread.empresa u)
    (outro : Nat) :
    Iguais thread.empresa ((thread.run amb).run s)
      ((TerminaEmissao.run amb { thread with ref := outro }).run u) := by
  have closed : Igual thread.empresa
      { s with emissoes := Function.update s.emissoes thread.empresa none }
      { u with emissoes := Function.update u.emissoes thread.empresa none } :=
    { h with emissao := by simp }
  cases hl : s.emissoes thread.empresa with
  | none =>
      have hl' : u.emissoes (TerminaEmissao.empresa { thread with ref := outro }) = none :=
        h.emissao_none hl
      rw [terminaEmissao_nulo hl, terminaEmissao_nulo hl']
      exact ⟨rfl, closed⟩
  | some emissao =>
      obtain ⟨ref, found⟩ := h.emissao_some hl
      have hl' : u.emissoes (TerminaEmissao.empresa { thread with ref := outro }) =
          some { emissao with ref } := found
      rw [terminaEmissao_run hl, terminaEmissao_run hl']
      simp only [Emissao.termina_comRef]
      cases he : s.empresas thread.empresa with
      | none =>
          rw [h.empresa_none he]
          exact ⟨rfl, closed⟩
      | some empresa =>
          obtain ⟨outra, he', same⟩ := h.empresa_some he
          rw [he']
          dsimp only
          have settled : Igual thread.empresa
              { s with
                emissoes := Function.update s.emissoes thread.empresa none
                empresas := Function.update s.empresas thread.empresa
                  (some (empresa.comEmissao (emissao.termina thread.empresa thread.idL).1)) }
              { u with
                emissoes := Function.update u.emissoes thread.empresa none
                empresas := Function.update u.empresas thread.empresa
                  (some (outra.comEmissao
                    { (emissao.termina thread.empresa thread.idL).1 with ref })) } :=
            { closed with
              empresa := by
                simpa using Empresa.comEmissao_semRef same
                  (emissao.termina thread.empresa thread.idL).1 ref }
          exact ⟨rfl, settled.relata _ _⟩

end Threads

/-! ### Steps -/

theorem perm_map_erase {α β : Type} [DecidableEq α] {f : α → β} {xs ys : List α} {x y : α}
    (h : (xs.map f).Perm (ys.map f)) (hx : x ∈ xs) (hy : y ∈ ys) (same : f x = f y) :
    ((xs.erase x).map f).Perm ((ys.erase y).map f) := by
  have left : (xs.map f).Perm (f x :: (xs.erase x).map f) := (List.perm_cons_erase hx).map f
  have right : (ys.map f).Perm (f y :: (ys.erase y).map f) := (List.perm_cons_erase hy).map f
  have both := left.symm.trans (h.trans right)
  rw [same] at both
  exact both.cons_inv

theorem Igual.erase_terminaLeilao {thread : TerminaLeilao} (h : s.Igual thread.empresa u)
    {outro : Nat} (hs : thread ∈ s.terminaLeiloes)
    (hu : { thread with ref := outro } ∈ u.terminaLeiloes) :
    Igual thread.empresa { s with terminaLeiloes := s.terminaLeiloes.erase thread }
      { u with terminaLeiloes := u.terminaLeiloes.erase { thread with ref := outro } } :=
  { h with
    terminaLeiloes := by
      simp only [← List.erase_filter]
      exact perm_map_erase h.terminaLeiloes (by simp [hs]) (by simp [hu]) rfl }

theorem Igual.erase_terminaEmissao {thread : TerminaEmissao} (h : s.Igual thread.empresa u)
    {outro : Nat} (hs : thread ∈ s.terminaEmissoes)
    (hu : { thread with ref := outro } ∈ u.terminaEmissoes) :
    Igual thread.empresa { s with terminaEmissoes := s.terminaEmissoes.erase thread }
      { u with terminaEmissoes := u.terminaEmissoes.erase { thread with ref := outro } } :=
  { h with
    terminaEmissoes := by
      simp only [← List.erase_filter]
      exact perm_map_erase h.terminaEmissoes (by simp [hs]) (by simp [hu]) rfl }

section Passos

variable [JavaFloat R] [Gson R] {l l' m : Passo R} {r r' : Resultado} {s' u' : Sistema R}

omit [JavaFloat R] [Gson R] in
theorem Iguais.of_corre {x y : EStateM.Result Excecao (Sistema R) Unit} (h : Iguais c x y)
    (hx : corre x = (r, s')) (hy : corre y = (r', u')) : r' = r ∧ s'.Igual c u' := by
  cases x <;> cases y <;> cases hx <;> cases hy
  · exact ⟨rfl, h.2⟩
  · cases h
  · cases h
  · exact ⟨congrArg _ h.1, h.2⟩

/-- Steps that differ in the reference of a thread, from the same state about their company. -/
theorem passa_igual (h : s.Igual c u) (about : l.empresa = some c) (shape : l'.semRef = l.semRef)
    (hs : s.Passa l r s') (hu : u.Passa l' r' u') : r' = r ∧ s'.Igual c u' := by
  cases l with
  | pedido amb p =>
      cases l' with
      | pedido amb' p' =>
          cases shape
          have same := atende_iguais h about
          simp only [Passa, proximo, Option.ite_none_right_eq_some] at hs hu
          cases hx : (atende amb p).run s <;> cases hy : (atende amb p).run u <;>
            rw [hx] at hs same <;> rw [hy] at hu same <;> cases hs.2 <;> cases hu.2
          · exact ⟨congrArg _ same.1, same.2⟩
          · cases same
          · cases same
          · obtain ⟨rfl, igual⟩ := same
            exact ⟨rfl, { igual with }⟩
      | _ => cases shape
  | terminaLeilao amb thread =>
      cases l' with
      | terminaLeilao amb' outro =>
          simp only [Passo.semRef, Passo.terminaLeilao.injEq] at shape
          obtain ⟨rfl, same⟩ := shape
          obtain ⟨ref, rfl⟩ := TerminaLeilao.eq_of_semRef same.symm
          obtain rfl : thread.empresa = c := Option.some.inj about
          simp only [Passa, proximo, Option.ite_none_right_eq_some, Option.some.injEq] at hs hu
          exact (terminaLeilao_iguais (h.erase_terminaLeilao hs.1 hu.1) ref).of_corre hs.2 hu.2
      | _ => cases shape
  | terminaEmissao amb thread =>
      cases l' with
      | terminaEmissao amb' outro =>
          simp only [Passo.semRef, Passo.terminaEmissao.injEq] at shape
          obtain ⟨rfl, same⟩ := shape
          obtain ⟨ref, rfl⟩ := TerminaEmissao.eq_of_semRef same.symm
          obtain rfl : thread.empresa = c := Option.some.inj about
          simp only [Passa, proximo, Option.ite_none_right_eq_some, Option.some.injEq] at hs hu
          exact (terminaEmissao_iguais (h.erase_terminaEmissao hs.1 hu.1) ref).of_corre hs.2 hu.2
      | _ => cases shape

/-- What it takes for a step to be taken. -/
def Pode (s : Sistema R) : Passo R → Prop
  | .pedido _ _ => s.vivo = true
  | .terminaLeilao _ thread => thread ∈ s.terminaLeiloes
  | .terminaEmissao _ thread => thread ∈ s.terminaEmissoes

theorem pode_iff : (∃ r s', s.Passa l r s') ↔ s.Pode l := by
  cases l with
  | pedido amb p =>
      simp only [Passa, proximo, Pode]
      cases (atende amb p).run s <;> simp
  | terminaLeilao amb thread => simpa [Passa, proximo, Pode] using fun _ => ⟨_, _, rfl⟩
  | terminaEmissao amb thread => simpa [Passa, proximo, Pode] using fun _ => ⟨_, _, rfl⟩

omit [JavaFloat R] [Gson R] in
theorem Igual.pode (h : s.Igual c u) (about : l.empresa = some c) (vivo : u.vivo = true)
    (hs : s.Pode l) : ∃ l', l'.semRef = l.semRef ∧ u.Pode l' := by
  cases l with
  | pedido amb p => exact ⟨.pedido amb p, rfl, vivo⟩
  | terminaLeilao amb thread =>
      have mine : thread.semRef ∈
          (s.terminaLeiloes.filter (·.empresa = c)).map TerminaLeilao.semRef :=
        List.mem_map_of_mem (List.mem_filter.2 ⟨hs, by simpa using about⟩)
      obtain ⟨outro, found, same⟩ := List.mem_map.1 (h.terminaLeiloes.subset mine)
      have fires : outro ∈ u.terminaLeiloes := (List.mem_filter.1 found).1
      exact ⟨.terminaLeilao amb outro, congrArg (Passo.terminaLeilao amb) same, fires⟩
  | terminaEmissao amb thread =>
      have mine : thread.semRef ∈
          (s.terminaEmissoes.filter (·.empresa = c)).map TerminaEmissao.semRef :=
        List.mem_map_of_mem (List.mem_filter.2 ⟨hs, by simpa using about⟩)
      obtain ⟨outro, found, same⟩ := List.mem_map.1 (h.terminaEmissoes.subset mine)
      have fires : outro ∈ u.terminaEmissoes := (List.mem_filter.1 found).1
      exact ⟨.terminaEmissao amb outro, congrArg (Passo.terminaEmissao amb) same, fires⟩

omit [JavaFloat R] [Gson R] in
theorem Poupa.pode (h : Poupa c s s') (about : m.empresa = some c) (vivo : s'.vivo = s.vivo) :
    s.Pode m ↔ s'.Pode m := by
  cases m with
  | pedido amb p => simp [Pode, vivo]
  | terminaLeilao amb thread =>
      have same : s'.terminaLeiloes.filter (·.empresa = c) =
          s.terminaLeiloes.filter (·.empresa = c) := congrArg Ficha.terminaLeiloes h.ficha
      have mine : thread.empresa = c := by simpa using about
      have iff := congrArg (thread ∈ ·) same
      simp only [List.mem_filter, mine, decide_true, and_true] at iff
      exact (Eq.to_iff iff).symm
  | terminaEmissao amb thread =>
      have same : s'.terminaEmissoes.filter (·.empresa = c) =
          s.terminaEmissoes.filter (·.empresa = c) := congrArg Ficha.terminaEmissoes h.ficha
      have mine : thread.empresa = c := by simpa using about
      have iff := congrArg (thread ∈ ·) same
      simp only [List.mem_filter, mine, decide_true, and_true] at iff
      exact (Eq.to_iff iff).symm

theorem atende_responde (finita : ∀ x : R, JavaFloat.isFinite x = true) {amb : Ambiente}
    {p : Pedido R} (hosted : ∀ c ∈ (Passo.pedido amb p).empresa, (s.empresas c).isSome) :
    ∃ sucesso s', (atende amb p).run s = .ok sucesso s' := by
  cases p with
  | licitar c investidor quantia juro =>
      obtain ⟨empresa, he⟩ := Option.isSome_iff_exists.1 (hosted c rfl)
      simp only [atende]
      by_cases ha : ∃ leilao, s.leiloes c = some leilao ∧ leilao.Aceita quantia juro
      · obtain ⟨leilao, hl, ha⟩ := ha
        rw [licitar_aceita hl ha, he]
        exact ⟨_, _, if_pos (finita juro)⟩
      · rw [licitar_rejeita (by simpa using ha)]
        exact ⟨_, _, rfl⟩
  | emprestimo c investidor quantia =>
      obtain ⟨empresa, he⟩ := Option.isSome_iff_exists.1 (hosted c rfl)
      simp only [atende]
      by_cases ha : s.emissoes c = none ∨ quantia % 100 ≠ 0
      · rw [emprestimo_rejeita ha]
        exact ⟨_, _, rfl⟩
      · rw [not_or, not_not, ← ne_eq, Option.ne_none_iff_exists'] at ha
        obtain ⟨⟨emissao, hl⟩, multiplo⟩ := ha
        rw [emprestimo_aceita hl multiplo, he]
        exact ⟨_, _, rfl⟩
  | emissao c quantia =>
      obtain ⟨empresa, he⟩ := Option.isSome_iff_exists.1 (hosted c rfl)
      simp only [atende]
      by_cases pode : empresa.PodeEmitir quantia
      · obtain ⟨taxa, preco⟩ := Empresa.taxaEmissao_ok pode
        rw [emissao_aceita he pode preco]
        exact ⟨_, _, if_pos (finita taxa)⟩
      · rw [emissao_rejeita (by simpa [he] using pode)]
        exact ⟨_, _, rfl⟩
  | leilao c quantia juro =>
      obtain ⟨empresa, he⟩ := Option.isSome_iff_exists.1 (hosted c rfl)
      simp only [atende]
      by_cases ha : s.leiloes c = none ∧ quantia % 1000 = 0
      · rw [leilao_aceita ha.1 ha.2, he]
        exact ⟨_, _, if_pos (finita juro)⟩
      · rw [leilao_rejeita (by tauto)]
        exact ⟨_, _, rfl⟩
  | outro => exact ⟨_, _, rfl⟩

structure EmServico (nomes : List String) (s : Sistema R) : Prop where
  vivo : s.vivo = true
  hospeda : ∀ c ∈ nomes, (s.empresas c).isSome

theorem EmServico.passa (finita : ∀ x : R, JavaFloat.isFinite x = true) {nomes : List String}
    (h : s.EmServico nomes) (about : ∀ c ∈ l.empresa, c ∈ nomes) (hs : s.Passa l r s') :
    s'.EmServico nomes where
  vivo := by
    cases l with
    | pedido amb p =>
        obtain ⟨sucesso, z, answered⟩ :=
          atende_responde finita fun c hc => h.hospeda c (about c hc)
        cases (passa_pedido hs).2 with
        | inl resposta =>
            obtain ⟨_, _, vivo⟩ := resposta
            exact vivo
        | inr excecao =>
            simp only [Passa, proximo, answered, Option.ite_none_right_eq_some] at hs
            obtain ⟨_, rfl, _⟩ := excecao
            cases hs.2
    | terminaLeilao amb thread => exact (passa_thread hs (by simp)).vivo.trans h.vivo
    | terminaEmissao amb thread => exact (passa_thread hs (by simp)).vivo.trans h.vivo
  hospeda c hc := passa_hospeda (h.hospeda c hc) hs

/-- A step is about one company, reads and changes nothing about another, and does the same to the
same state about its own. -/
theorem separated (finita : ∀ x : R, JavaFloat.isFinite x = true) (nomes : List String) :
    Unwinding.Separated (Passa (R := R)) Passo.empresa Passo.semRef (· ∈ nomes)
      (EmServico nomes) Igual where
  equiv := igual_equivalence
  domain_shape := by
    intro l l' shape
    rw [← Passo.empresa_semRef, shape, Passo.empresa_semRef]
  good good about hs := good.passa finita about hs
  spares hs other := (passa_poupa hs other).igual
  enabled _ good igual about hs := by
    obtain ⟨l', shape, pode⟩ := igual.pode about good.vivo (pode_iff.1 ⟨_, _, hs⟩)
    obtain ⟨r', u', hu⟩ := pode_iff.2 pode
    exact ⟨l', r', u', shape, hu⟩
  same igual about shape hs hu := passa_igual igual about shape hs hu
  stays good good' hs about other := by
    rw [pode_iff, pode_iff]
    exact (passa_poupa hs other).pode about (good'.vivo.trans good.vivo.symm)

end Passos

section Corridas

variable [JavaFloat R] [Gson R] {nomes registadas : List String} {t t' : List (Transicao R)}

theorem Poupa.alheio {l : Passo R} {r : Resultado} {s' : Sistema R}
    (h : Poupa c (.inicial nomes registadas) s) (other : c ∉ nomes)
    (hosted : ∀ amb p, l = .pedido amb p → ∀ d ∈ l.empresa, d ∈ nomes) (hs : s.Passa l r s') :
    l.empresa ≠ some c := by
  intro about
  have pode := pode_iff.1 ⟨r, s', hs⟩
  cases l with
  | pedido amb p => exact other (hosted amb p rfl c about)
  | terminaLeilao amb thread =>
      have none : s.terminaLeiloes.filter (·.empresa = c) = [] :=
        congrArg Ficha.terminaLeiloes h.ficha
      have mine : thread.empresa = c := by simpa using about
      exact List.filter_eq_nil_iff.1 none thread pode (by simpa using mine)
  | terminaEmissao amb thread =>
      have none : s.terminaEmissoes.filter (·.empresa = c) = [] :=
        congrArg Ficha.terminaEmissoes h.ficha
      have mine : thread.empresa = c := by simpa using about
      exact List.filter_eq_nil_iff.1 none thread pode (by simpa using mine)

/-- Requests to hosted companies do nothing to the others. -/
theorem Run.poupa (run : Sistema.Run nomes registadas t s) (other : c ∉ nomes)
    (hosted : ∀ e ∈ t, ∀ amb p, e.label = .pedido amb p → ∀ d ∈ e.label.empresa, d ∈ nomes) :
    Poupa c (.inicial nomes registadas) s := by
  refine Runs.Run.invariant_of_guard (fun _ s => Poupa c (.inicial nomes registadas) s)
    (fun e => ∀ amb p, e.label = .pedido amb p → ∀ d ∈ e.label.empresa, d ∈ nomes)
    run hosted ⟨le_rfl, rfl, rfl⟩ ?_
  intro t s l r s' _ ih hs guard
  exact ih.trans (passa_poupa hs (ih.alheio other guard hs))

theorem Run.empresa_hospedada (run : Sistema.Run nomes registadas t s)
    (hosted : ∀ e ∈ t, ∀ amb p, e.label = .pedido amb p → ∀ d ∈ e.label.empresa, d ∈ nomes) :
    ∀ e ∈ t, ∀ c ∈ e.label.empresa, c ∈ nomes := by
  intro e he c about
  obtain ⟨u, before, hs, recorded⟩ := Runs.Run.of_mem run he
  have spared := fun other => Run.poupa (c := c) before other fun x hx =>
    hosted x (recorded.subset (List.mem_append_left _ hx))
  by_contra other
  exact (spared other).alheio other (hosted e he) hs about

omit [JavaFloat R] [Gson R] in
theorem emServico_inicial : EmServico nomes (.inicial nomes registadas : Sistema R) where
  vivo := rfl
  hospeda c hc := by simp [inicial, hc]

end Corridas

end Sistema

/-- `t'` does what `t` does about the company and no more. Its threads may have settled objects
with other references. -/
def Sistema.Mantem (c : String) (t t' : List (Transicao R)) : Prop :=
  Unwinding.shapes Passo.semRef t' =
    Unwinding.shapes Passo.semRef (Unwinding.own Passo.empresa c t)

open Sistema in
/-- Whatever has been asked about the others, a hosted company ends as in the run that keeps its
own steps, and its requests are answered in the same way. -/
theorem companiesIndependent {ε : {q : ℚ // 0 < q}} [Gson (Exact ε)]
    {nomes registadas : List String} {t : List (Transicao (Exact ε))} {s : Sistema (Exact ε)}
    (run : Sistema.Run nomes registadas t s)
    (hosted : ∀ e ∈ t, ∀ amb p, e.label = .pedido amb p → ∀ d ∈ e.label.empresa, d ∈ nomes) :
    (∀ c ∈ nomes,
      (∃ t' s', Sistema.Run nomes registadas t' s' ∧ Mantem c t t') ∧
      ∀ t' s', Sistema.Run nomes registadas t' s' → Mantem c t t' →
        t'.map (·.result) = (Unwinding.own Passo.empresa c t).map (·.result) ∧ s.Igual c s') ∧
    ∀ u e e' a b, u ++ [e, e'] <+: t → e.label.empresa = some a → e'.label.empresa = some b →
      a ≠ b → ∃ m z, e.pre.Passa e'.label e'.result m ∧ m.Passa e.label e.result z ∧
        ∀ c, e'.post.Igual c z := by
  have finita : ∀ x : Exact ε, JavaFloat.isFinite x = true := fun _ => rfl
  have known := Run.empresa_hospedada run hosted
  refine ⟨?_, ?_⟩
  · intro c _
    refine ⟨?_, ?_⟩
    · obtain ⟨t', s', run', kept, _⟩ :=
        (separated finita nomes).exists_kept (k := c) emServico_inicial run known
      exact ⟨t', s', run', kept⟩
    · intro t' s' run' kept
      exact (separated finita nomes).alike_of_shapes run run' kept
  · intro u e e' a b next about about' apart
    exact (separated finita nomes).commute_of_run emServico_inicial run known next about about'
      apart

def crossedAuctions : List (Passo (Exact milesimo)) :=
  [.pedido (.em 1) (.leilao "CanecaLda" 1000 (.ofRat 1)),
    .pedido (.em 2) (.leilao "SapatoLda" 2000 (.ofRat 1)),
    .pedido (.em 3) (.licitar "SapatoLda" "ana" 2000 (.ofRat (1 / 2))),
    .terminaLeilao (.em 4) ⟨"CanecaLda", 0, 0⟩,
    .terminaLeilao (.em 5) ⟨"SapatoLda", 0, 1⟩]

theorem crossedAuctions_taken :
    (Sistema.corrida ["CanecaLda", "SapatoLda"] Directory.nomes crossedAuctions).isSome := by
  decide +kernel

theorem companiesIndependent_crossed :
    ∃ (t t' : List (Transicao (Exact milesimo))) (s s' : Sistema (Exact milesimo)),
      Sistema.Run ["CanecaLda", "SapatoLda"] Directory.nomes t s ∧ t.length = 5 ∧
        Sistema.Run ["CanecaLda", "SapatoLda"] Directory.nomes t' s' ∧ t'.length = 3 ∧
        s.Igual "SapatoLda" s' := by
  have run := Sistema.run_corrida crossedAuctions_taken
  have hosted := Sistema.labels_corrida crossedAuctions_taken
    (show ∀ l ∈ crossedAuctions, ∀ d ∈ l.empresa, d ∈ ["CanecaLda", "SapatoLda"] by decide)
  obtain ⟨⟨t', s', run', kept⟩, alike⟩ :=
    (companiesIndependent run fun e he _ _ _ => hosted e he).1 "SapatoLda" (by decide)
  have length : t'.length = 3 := by
    have same := congrArg List.length kept
    rw [Unwinding.shapes, Unwinding.shapes, List.length_map, List.length_map] at same
    exact same.trans (by decide +kernel)
  exact ⟨_, t', _, s', run, by decide +kernel, run', length, (alike t' s' run' kept).2⟩

end PeerLanding
