import PeerLanding.DropBoxes
import PeerLanding.ThreadSteps

/-! Auctions and emissions as boxes of bids: the exchange thread is the clerk, a settlement thread
a collector, and `getInvestimentoTotal` the count. -/

namespace PeerLanding.Threads

open Exchange DropBoxes

variable {R : Type}

/-! ### Auctions -/

def EmLicitar.clerk (licitacao : Licitacao R) : EmLicitar → Clerk (Licitacao R)
  | .get => .free
  | .add leilaoAtual => .holds leilaoAtual
  | .empresa leilaoAtual => .owes leilaoAtual licitacao
  | .historico leilaoAtual => .owes leilaoAtual licitacao
  | .size leilaoAtual _ => .owes leilaoAtual licitacao
  | .post leilaoAtual _ _ => .owes leilaoAtual licitacao

def Ponto.licitando : Ponto R → Clerk (Licitacao R)
  | .licitar _ investidor quantia juro em => em.clerk ⟨investidor, juro, quantia⟩
  | .aceita (.licitar _ investidor quantia juro) objeto _ =>
      .owes objeto ⟨investidor, juro, quantia⟩
  | _ => .free

/-- The auction that a settlement thread has taken out of `leiloes`, and whether it has summed its
bids. -/
def EmTerminaLeilao.taken : EmTerminaLeilao R → Option (Nat × Bool)
  | .remove => none
  | .soma leilao => some (leilao, false)
  | .ordena leilao => some (leilao, true)
  | .size leilao _ => some (leilao, true)
  | .empresa leilao _ _ => some (leilao, true)
  | .add leilao _ _ => some (leilao, true)
  | .json leilao _ _ => some (leilao, true)
  | .put _ => none
  | .fim => none

/-- The auction whose bids the thread is about to sum. -/
def EmTerminaLeilao.aSomar : EmTerminaLeilao R → Option Nat
  | .soma leilao => some leilao
  | _ => none

def Memoria.salaLeiloes (m : Memoria R) : Room String Nat (Licitacao R) where
  shelf := m.leiloes
  items := Leilao.licitacoes ∘ m.leilao
  clerk := m.exchange.licitando
  taken := (·.bind (·.em.taken)) ∘ m.terminaLeiloes
  fresh := m.novaRef

/-- The bid that the step puts into an auction, the bid that it answers with true, or the bids
that it sums. -/
def Lance.licitacoes (e : Lance R) : Option (Event (Licitacao R)) :=
  match e.label with
  | .exchange _ _ =>
      match e.result, e.pre.exchange with
      | none, .licitar _ investidor quantia juro (.add leilaoAtual) =>
          some (.drop leilaoAtual ⟨investidor, juro, quantia⟩)
      | some (.resposta true), .aceita (.licitar _ investidor quantia juro) objeto _ =>
          some (.ack objeto ⟨investidor, juro, quantia⟩)
      | _, _ => none
  | .terminaLeilao ref =>
      ((e.pre.terminaLeiloes ref).bind (·.em.aSomar)).map fun leilao =>
        .count leilao (e.pre.leilao leilao).licitacoes
  | _ => none

section Leiloes

variable [JavaFloat R] [Gson R] {m m' : Memoria R} {empresa investidor : String}
  {quantia : Int32} {juro : R} {agora agoraDiretorio : LocalDateTime}

omit [JavaFloat R] [Gson R] in
theorem salaLeiloes_em (m : Memoria R) (ponto : Ponto R) :
    (m.em ponto).salaLeiloes = { m.salaLeiloes with clerk := ponto.licitando } := rfl

omit [JavaFloat R] [Gson R] in
theorem salaLeiloes_poe (m : Memoria R) (ref : Nat) (fio : Fio (EmTerminaLeilao R)) :
    (m.poeTerminaLeilao ref fio).salaLeiloes =
      { m.salaLeiloes with taken := Function.update m.salaLeiloes.taken ref fio.em.taken } := by
  simp only [Memoria.salaLeiloes, Memoria.poeTerminaLeilao, Function.comp_update]
  rfl

omit [JavaFloat R] [Gson R] in
theorem licitacoes_update (f : Nat → Leilao R) (ref : Nat) (leilao : Leilao R) :
    Leilao.licitacoes ∘ Function.update f ref leilao =
      Function.update (Leilao.licitacoes ∘ f) ref leilao.licitacoes :=
  Function.comp_update ..

omit [JavaFloat R] [Gson R] in
theorem salaLeiloes_leilao (m : Memoria R) (ref : Nat) (leilao : Leilao R) :
    Memoria.salaLeiloes { m with leilao := Function.update m.leilao ref leilao } =
      { m.salaLeiloes with
        items := Function.update m.salaLeiloes.items ref leilao.licitacoes } := by
  simp only [Memoria.salaLeiloes, licitacoes_update]

omit [JavaFloat R] [Gson R] in
theorem salaLeiloes_sucesso (m : Memoria R) (ref : Nat) (sucesso : Bool) :
    Memoria.salaLeiloes
      { m with leilao := Function.update m.leilao ref { m.leilao ref with sucesso } } =
      m.salaLeiloes := by
  rw [salaLeiloes_leilao]
  exact congrArg (fun items => { m.salaLeiloes with items := items })
    (Function.update_eq_self ref _)

theorem licitar_sala {em : EmLicitar}
    (at' : m.exchange = .licitar empresa investidor quantia juro em)
    (op : licitar empresa investidor quantia juro m em = .ok m') :
    m.salaLeiloes.Step (Lance.licitacoes ⟨m, .exchange agora agoraDiretorio, none, m'⟩)
      m'.salaLeiloes := by
  have clerk : m.salaLeiloes.clerk = em.clerk ⟨investidor, juro, quantia⟩ := by
    rw [Memoria.salaLeiloes, at']
    rfl
  simp only [Lance.licitacoes, at']
  cases em with
  | get =>
      simp only [licitar] at op
      split at op
      · next leilaoAtual found =>
          split at op <;> cases op
          · exact .look found
          · exact .rest (.inr rfl) le_rfl
      · cases op
        exact .rest (.inr rfl) le_rfl
  | add leilaoAtual =>
      cases op
      have step := Room.Step.drop clerk ⟨investidor, juro, quantia⟩
      simp only [Memoria.salaLeiloes, licitacoes_update] at step ⊢
      exact step
  | size leilaoAtual idL =>
      cases op
      exact .rest (.inl clerk.symm) le_rfl
  | _ =>
      obtain ⟨_, _, op⟩ := ok_of_bind op
      cases op
      exact .rest (.inl clerk.symm) le_rfl

theorem leilao_sala {em : EmLeilao} (at' : m.exchange = .leilao empresa quantia juro em)
    (op : leilao empresa quantia juro agora agoraDiretorio m em = .ok m') :
    m.salaLeiloes.Step none m'.salaLeiloes := by
  cases em with
  | get =>
      simp only [leilao] at op
      split at op
      · split at op <;> cases op <;> exact .rest (.inr rfl) le_rfl
      · cases op
        exact .rest (.inr rfl) le_rfl
  | put =>
      cases op
      have step := Room.Step.put (s := m.salaLeiloes) empresa
      simp only [Memoria.salaLeiloes, licitacoes_update] at step ⊢
      exact step
  | thread leilao idL =>
      cases op
      change m.salaLeiloes.Step none
        ((m.poeTerminaLeilao leilao ⟨empresa, idL, .remove⟩).em _).salaLeiloes
      rw [salaLeiloes_em, salaLeiloes_poe]
      have idle : m.salaLeiloes.clerk = .free := by
        rw [Memoria.salaLeiloes, at']
        rfl
      have step := Room.Step.leave (s := m.salaLeiloes) leilao
      rw [idle] at step
      exact step
  | _ =>
      obtain ⟨_, _, op⟩ := ok_of_bind op
      cases op
      exact .rest (.inr rfl) le_rfl

theorem emprestimo_salaLeiloes {em : EmEmprestimo}
    (op : emprestimo empresa investidor quantia m em = .ok m') :
    m.salaLeiloes.Step none m'.salaLeiloes := by
  cases em with
  | get =>
      simp only [emprestimo] at op
      split at op
      · split at op <;> cases op <;> exact .rest (.inr rfl) le_rfl
      · cases op
        exact .rest (.inr rfl) le_rfl
  | add emissaoAtual =>
      cases op
      exact .rest (.inr rfl) le_rfl
  | size emissaoAtual idL =>
      cases op
      exact .rest (.inr rfl) le_rfl
  | _ =>
      obtain ⟨_, _, op⟩ := ok_of_bind op
      cases op
      exact .rest (.inr rfl) le_rfl

theorem emissao_salaLeiloes {em : EmEmissao R} (op : emissao empresa quantia agora m em = .ok m') :
    m.salaLeiloes.Step none m'.salaLeiloes := by
  cases em with
  | get =>
      simp only [emissao] at op
      split at op <;> cases op <;> exact .rest (.inr rfl) le_rfl
  | size =>
      obtain ⟨_, _, op⟩ := ok_of_bind op
      split at op <;> cases op <;> exact .rest (.inr rfl) le_rfl
  | lastElement =>
      obtain ⟨_, _, op⟩ := ok_of_bind op
      split at op
      · split at op <;> cases op <;> exact .rest (.inr rfl) le_rfl
      · cases op
  | taxa em =>
      obtain ⟨_, _, op⟩ := ok_of_bind op
      obtain ⟨fim, _, op⟩ := ok_of_bind op
      cases fim <;> cases op <;> exact .rest (.inr rfl) le_rfl
  | put taxaMaxima idL =>
      cases op
      exact .rest (.inr rfl) (Nat.le_succ _)
  | thread taxaMaxima idL novaEmissao =>
      cases op
      exact .rest (.inr rfl) le_rfl
  | _ =>
      obtain ⟨_, _, op⟩ := ok_of_bind op
      cases op
      exact .rest (.inr rfl) le_rfl

theorem terminaEmissao_salaLeiloes {idL : Nat} {em em' : EmTerminaEmissao R}
    (op : terminaEmissao empresa idL m em = .ok (em', m')) : m'.salaLeiloes = m.salaLeiloes := by
  cases em with
  | remove =>
      simp only [terminaEmissao] at op
      split at op <;> cases op
      rfl
  | empresa emissao =>
      obtain ⟨_, _, op⟩ := ok_of_bind op
      cases op
      rfl
  | add emissao =>
      obtain ⟨_, _, op⟩ := ok_of_bind op
      cases op
      rfl
  | json sucesso =>
      obtain ⟨_, _, op⟩ := ok_of_bind op
      cases op
      rfl
  | _ =>
      cases op
      rfl

theorem terminaLeilao_sala {ref idL : Nat} {em em' : EmTerminaLeilao R}
    (at' : m.terminaLeiloes ref = some ⟨empresa, idL, em⟩)
    (op : terminaLeilao empresa idL m em = .ok (em', m')) :
    m.salaLeiloes.Step
      (Lance.licitacoes ⟨m, .terminaLeilao ref, none, m'.poeTerminaLeilao ref ⟨empresa, idL, em'⟩⟩)
      (m'.poeTerminaLeilao ref ⟨empresa, idL, em'⟩).salaLeiloes := by
  have before : m.salaLeiloes.taken ref = em.taken := by
    simp [Memoria.salaLeiloes, at']
  have mantem {em' : EmTerminaLeilao R} {m'' : Memoria R} (same : em'.taken = em.taken)
      (sala : m''.salaLeiloes = m.salaLeiloes) :
      m.salaLeiloes.Step none (m''.poeTerminaLeilao ref ⟨empresa, idL, em'⟩).salaLeiloes := by
    rw [salaLeiloes_poe, sala, same, ← before, Function.update_eq_self]
    exact .rest (.inl rfl) le_rfl
  simp only [Lance.licitacoes, at', Option.bind_some]
  cases em with
  | remove =>
      simp only [terminaLeilao] at op
      split at op
      · next leilao found =>
          cases op
          rw [salaLeiloes_poe]
          exact .take found ref
      · cases op
  | soma leilao =>
      have step := Room.Step.count before
      simp only [terminaLeilao] at op
      split at op <;> cases op
      · rw [salaLeiloes_poe]
        rw [salaLeiloes_sucesso]
        exact step
      · rw [salaLeiloes_poe]
        exact step
  | ordena leilao =>
      cases op
      exact mantem rfl rfl
  | size leilao alocados =>
      simp only [terminaLeilao] at op
      split at op <;> cases op
      · exact mantem rfl rfl
      · rw [salaLeiloes_poe]
        have step := Room.Step.repack before alocados
        have taken : Function.update m.salaLeiloes.taken ref (some (leilao, true)) =
            m.salaLeiloes.taken := by
          rw [show some (leilao, true) = _ from before.symm, Function.update_eq_self]
        rw [← taken] at step
        rw [salaLeiloes_leilao]
        exact step
  | empresa leilao sucesso alocou =>
      obtain ⟨_, _, op⟩ := ok_of_bind op
      cases op
      exact mantem rfl rfl
  | add leilao sucesso alocou =>
      obtain ⟨_, _, op⟩ := ok_of_bind op
      cases op
      exact mantem rfl rfl
  | json leilao sucesso alocou =>
      obtain ⟨_, _, op⟩ := ok_of_bind op
      cases op
      rw [salaLeiloes_poe]
      exact .leave ref
  | put data =>
      cases op
      exact mantem rfl rfl
  | fim =>
      cases op
      exact mantem rfl rfl

theorem Memoria.Move.licitacoes {l : Passo R} {r : Option Resultado} (h : m.Move l r m') :
    m.salaLeiloes.Step (Lance.licitacoes ⟨m, l, r, m'⟩) m'.salaLeiloes := by
  cases h with
  | @recv p at' =>
      refine .rest (.inr ?_) le_rfl
      cases p <;> rfl
  | licitar at' op => exact licitar_sala at' op
  | emprestimo at' op =>
      simp only [Lance.licitacoes, at']
      exact emprestimo_salaLeiloes op
  | emissao at' op =>
      simp only [Lance.licitacoes, at']
      exact emissao_salaLeiloes op
  | leilao at' op =>
      simp only [Lance.licitacoes, at']
      exact leilao_sala at' op
  | falhaLeilao at' op =>
      simp only [Lance.licitacoes]
      exact .rest (.inr rfl) le_rfl
  | falha outro meio =>
      simp only [Lance.licitacoes]
      exact .rest (.inr rfl) le_rfl
  | @aceita agora agoraDiretorio p objeto idL at' =>
      have clerk : m.salaLeiloes.clerk = (Ponto.aceita p objeto idL).licitando := by
        rw [Memoria.salaLeiloes, at']
      simp only [Lance.licitacoes, at']
      cases p with
      | licitar empresa investidor quantia juro => exact .ack clerk
      | _ => exact .rest (.inr rfl) le_rfl
  | recusa at' =>
      simp only [Lance.licitacoes]
      exact .rest (.inr rfl) le_rfl
  | terminaLeilao at' corre op => exact terminaLeilao_sala at' op
  | @falhaTerminaLeilao ref idL empresa em erro at' corre op =>
      simp only [Lance.licitacoes, at', Option.bind_some, salaLeiloes_poe]
      cases em with
      | soma leilao =>
          simp only [Threads.terminaLeilao] at op
          split at op <;> cases op
      | _ => exact .leave _
  | terminaEmissao at' corre op =>
      change m.salaLeiloes.Step none (Memoria.salaLeiloes _)
      exact terminaEmissao_salaLeiloes op ▸ .rest (.inl rfl) le_rfl
  | falhaTerminaEmissao at' corre op => exact .rest (.inl rfl) le_rfl

end Leiloes

/-! ### Emissions -/

def EmEmprestimo.clerk (licitacao : Licitacao R) : EmEmprestimo → Clerk (Licitacao R)
  | .get => .free
  | .add emissaoAtual => .holds emissaoAtual
  | .empresa emissaoAtual => .owes emissaoAtual licitacao
  | .historico emissaoAtual => .owes emissaoAtual licitacao
  | .size emissaoAtual _ => .owes emissaoAtual licitacao
  | .post emissaoAtual _ _ => .owes emissaoAtual licitacao

def EmTerminaEmissao.taken : EmTerminaEmissao R → Option (Nat × Bool)
  | .remove => none
  | .setSucesso emissao => some (emissao, false)
  | .empresa emissao => some (emissao, false)
  | .add emissao => some (emissao, false)
  | .soma emissao => some (emissao, false)
  | .desfecho emissao _ => some (emissao, true)
  | .json _ => none
  | .put _ => none
  | .fim => none

def EmTerminaEmissao.aSomar : EmTerminaEmissao R → Option Nat
  | .soma emissao => some emissao
  | _ => none

variable [JavaFloat R]

def Ponto.emprestando : Ponto R → Clerk (Licitacao R)
  | .emprestimo _ investidor quantia em => em.clerk (.semTaxa investidor quantia)
  | .aceita (.emprestimo _ investidor quantia) objeto _ =>
      .owes objeto (.semTaxa investidor quantia)
  | _ => .free

def Memoria.salaEmissoes (m : Memoria R) : Room String Nat (Licitacao R) where
  shelf := m.emissoes
  items := Emissao.licitacoes ∘ m.emissao
  clerk := m.exchange.emprestando
  taken := (·.bind (·.em.taken)) ∘ m.terminaEmissoes
  fresh := m.novaRef

def Lance.emprestimos (e : Lance R) : Option (Event (Licitacao R)) :=
  match e.label with
  | .exchange _ _ =>
      match e.result, e.pre.exchange with
      | none, .emprestimo _ investidor quantia (.add emissaoAtual) =>
          some (.drop emissaoAtual (.semTaxa investidor quantia))
      | some (.resposta true), .aceita (.emprestimo _ investidor quantia) objeto _ =>
          some (.ack objeto (.semTaxa investidor quantia))
      | _, _ => none
  | .terminaEmissao ref =>
      ((e.pre.terminaEmissoes ref).bind (·.em.aSomar)).map fun emissao =>
        .count emissao (e.pre.emissao emissao).licitacoes
  | _ => none

section Emissoes

variable [Gson R] {m m' : Memoria R} {empresa investidor : String}
  {quantia : Int32} {juro : R} {agora agoraDiretorio : LocalDateTime}

omit [Gson R] in
theorem salaEmissoes_em (m : Memoria R) (ponto : Ponto R) :
    (m.em ponto).salaEmissoes = { m.salaEmissoes with clerk := ponto.emprestando } := rfl

omit [Gson R] in
theorem salaEmissoes_poe (m : Memoria R) (ref : Nat) (fio : Fio (EmTerminaEmissao R)) :
    (m.poeTerminaEmissao ref fio).salaEmissoes =
      { m.salaEmissoes with
        taken := Function.update m.salaEmissoes.taken ref fio.em.taken } := by
  simp only [Memoria.salaEmissoes, Memoria.poeTerminaEmissao, Function.comp_update]
  rfl

omit [JavaFloat R] [Gson R] in
theorem emprestimos_update (f : Nat → Emissao R) (ref : Nat) (emissao : Emissao R) :
    Emissao.licitacoes ∘ Function.update f ref emissao =
      Function.update (Emissao.licitacoes ∘ f) ref emissao.licitacoes :=
  Function.comp_update ..

omit [Gson R] in
theorem salaEmissoes_sucesso (m : Memoria R) (ref : Nat) (sucesso : Bool) :
    Memoria.salaEmissoes
      { m with emissao := Function.update m.emissao ref { m.emissao ref with sucesso } } =
      m.salaEmissoes := by
  simp only [Memoria.salaEmissoes, emprestimos_update]
  exact congrArg (fun items => { m.salaEmissoes with items := items })
    (Function.update_eq_self ref _)

theorem emprestimo_sala {em : EmEmprestimo}
    (at' : m.exchange = .emprestimo empresa investidor quantia em)
    (op : emprestimo empresa investidor quantia m em = .ok m') :
    m.salaEmissoes.Step (Lance.emprestimos ⟨m, .exchange agora agoraDiretorio, none, m'⟩)
      m'.salaEmissoes := by
  have clerk : m.salaEmissoes.clerk = em.clerk (.semTaxa investidor quantia) := by
    rw [Memoria.salaEmissoes, at']
    rfl
  simp only [Lance.emprestimos, at']
  cases em with
  | get =>
      simp only [emprestimo] at op
      split at op
      · next emissaoAtual found =>
          split at op <;> cases op
          · exact .look found
          · exact .rest (.inr rfl) le_rfl
      · cases op
        exact .rest (.inr rfl) le_rfl
  | add emissaoAtual =>
      cases op
      have step := Room.Step.drop clerk (.semTaxa investidor quantia)
      simp only [Memoria.salaEmissoes, emprestimos_update] at step ⊢
      exact step
  | size emissaoAtual idL =>
      cases op
      exact .rest (.inl clerk.symm) le_rfl
  | _ =>
      obtain ⟨_, _, op⟩ := ok_of_bind op
      cases op
      exact .rest (.inl clerk.symm) le_rfl

theorem emissao_sala {em : EmEmissao R} (at' : m.exchange = .emissao empresa quantia em)
    (op : emissao empresa quantia agora m em = .ok m') :
    m.salaEmissoes.Step none m'.salaEmissoes := by
  cases em with
  | get =>
      simp only [emissao] at op
      split at op <;> cases op <;> exact .rest (.inr rfl) le_rfl
  | size =>
      obtain ⟨_, _, op⟩ := ok_of_bind op
      split at op <;> cases op <;> exact .rest (.inr rfl) le_rfl
  | lastElement =>
      obtain ⟨_, _, op⟩ := ok_of_bind op
      split at op
      · split at op <;> cases op <;> exact .rest (.inr rfl) le_rfl
      · cases op
  | taxa em =>
      obtain ⟨_, _, op⟩ := ok_of_bind op
      obtain ⟨fim, _, op⟩ := ok_of_bind op
      cases fim <;> cases op <;> exact .rest (.inr rfl) le_rfl
  | put taxaMaxima idL =>
      cases op
      have step := Room.Step.put (s := m.salaEmissoes) empresa
      simp only [Memoria.salaEmissoes, emprestimos_update] at step ⊢
      exact step
  | thread taxaMaxima idL novaEmissao =>
      cases op
      change m.salaEmissoes.Step none
        ((m.poeTerminaEmissao novaEmissao ⟨empresa, idL, .remove⟩).em _).salaEmissoes
      rw [salaEmissoes_em, salaEmissoes_poe]
      have idle : m.salaEmissoes.clerk = .free := by
        rw [Memoria.salaEmissoes, at']
        rfl
      have step := Room.Step.leave (s := m.salaEmissoes) novaEmissao
      rw [idle] at step
      exact step
  | _ =>
      obtain ⟨_, _, op⟩ := ok_of_bind op
      cases op
      exact .rest (.inr rfl) le_rfl

theorem licitar_salaEmissoes {em : EmLicitar}
    (op : licitar empresa investidor quantia juro m em = .ok m') :
    m.salaEmissoes.Step none m'.salaEmissoes := by
  cases em with
  | get =>
      simp only [licitar] at op
      split at op
      · split at op <;> cases op <;> exact .rest (.inr rfl) le_rfl
      · cases op
        exact .rest (.inr rfl) le_rfl
  | add leilaoAtual =>
      cases op
      exact .rest (.inr rfl) le_rfl
  | size leilaoAtual idL =>
      cases op
      exact .rest (.inr rfl) le_rfl
  | _ =>
      obtain ⟨_, _, op⟩ := ok_of_bind op
      cases op
      exact .rest (.inr rfl) le_rfl

theorem leilao_salaEmissoes {em : EmLeilao}
    (op : leilao empresa quantia juro agora agoraDiretorio m em = .ok m') :
    m.salaEmissoes.Step none m'.salaEmissoes := by
  cases em with
  | get =>
      simp only [leilao] at op
      split at op
      · split at op <;> cases op <;> exact .rest (.inr rfl) le_rfl
      · cases op
        exact .rest (.inr rfl) le_rfl
  | put =>
      cases op
      exact .rest (.inr rfl) (Nat.le_succ _)
  | thread leilao idL =>
      cases op
      exact .rest (.inr rfl) le_rfl
  | _ =>
      obtain ⟨_, _, op⟩ := ok_of_bind op
      cases op
      exact .rest (.inr rfl) le_rfl

theorem terminaLeilao_salaEmissoes {idL : Nat} {em em' : EmTerminaLeilao R}
    (op : terminaLeilao empresa idL m em = .ok (em', m')) : m'.salaEmissoes = m.salaEmissoes := by
  cases em with
  | remove =>
      simp only [terminaLeilao] at op
      split at op <;> cases op
      rfl
  | soma leilao =>
      simp only [terminaLeilao] at op
      split at op <;> cases op <;> rfl
  | size leilao alocados =>
      simp only [terminaLeilao] at op
      split at op <;> cases op <;> rfl
  | empresa leilao sucesso alocou =>
      obtain ⟨_, _, op⟩ := ok_of_bind op
      cases op
      rfl
  | add leilao sucesso alocou =>
      obtain ⟨_, _, op⟩ := ok_of_bind op
      cases op
      rfl
  | json leilao sucesso alocou =>
      obtain ⟨_, _, op⟩ := ok_of_bind op
      cases op
      rfl
  | _ =>
      cases op
      rfl

theorem terminaEmissao_sala {ref idL : Nat} {em em' : EmTerminaEmissao R}
    (at' : m.terminaEmissoes ref = some ⟨empresa, idL, em⟩)
    (op : terminaEmissao empresa idL m em = .ok (em', m')) :
    m.salaEmissoes.Step
      (Lance.emprestimos
        ⟨m, .terminaEmissao ref, none, m'.poeTerminaEmissao ref ⟨empresa, idL, em'⟩⟩)
      (m'.poeTerminaEmissao ref ⟨empresa, idL, em'⟩).salaEmissoes := by
  have before : m.salaEmissoes.taken ref = em.taken := by
    simp [Memoria.salaEmissoes, at']
  have mantem {em' : EmTerminaEmissao R} {m'' : Memoria R} (same : em'.taken = em.taken)
      (sala : m''.salaEmissoes = m.salaEmissoes) :
      m.salaEmissoes.Step none
        (m''.poeTerminaEmissao ref ⟨empresa, idL, em'⟩).salaEmissoes := by
    rw [salaEmissoes_poe, sala, same, ← before, Function.update_eq_self]
    exact .rest (.inl rfl) le_rfl
  simp only [Lance.emprestimos, at', Option.bind_some]
  cases em with
  | remove =>
      simp only [terminaEmissao] at op
      split at op
      · next emissao found =>
          cases op
          rw [salaEmissoes_poe]
          exact .take found ref
      · cases op
  | setSucesso emissao =>
      cases op
      exact mantem rfl (salaEmissoes_sucesso m emissao true)
  | empresa emissao =>
      obtain ⟨_, _, op⟩ := ok_of_bind op
      cases op
      exact mantem rfl rfl
  | add emissao =>
      obtain ⟨_, _, op⟩ := ok_of_bind op
      cases op
      exact mantem rfl rfl
  | soma emissao =>
      cases op
      rw [salaEmissoes_poe]
      exact .count before
  | desfecho emissao sucesso =>
      cases op
      rw [salaEmissoes_poe, salaEmissoes_sucesso]
      exact .leave ref
  | json sucesso =>
      obtain ⟨_, _, op⟩ := ok_of_bind op
      cases op
      exact mantem rfl rfl
  | _ =>
      cases op
      exact mantem rfl rfl

theorem Memoria.Move.emprestimos {l : Passo R} {r : Option Resultado} (h : m.Move l r m') :
    m.salaEmissoes.Step (Lance.emprestimos ⟨m, l, r, m'⟩) m'.salaEmissoes := by
  cases h with
  | @recv p at' =>
      refine .rest (.inr ?_) le_rfl
      cases p <;> rfl
  | licitar at' op =>
      simp only [Lance.emprestimos, at']
      exact licitar_salaEmissoes op
  | emprestimo at' op => exact emprestimo_sala at' op
  | emissao at' op =>
      simp only [Lance.emprestimos, at']
      exact emissao_sala at' op
  | leilao at' op =>
      simp only [Lance.emprestimos, at']
      exact leilao_salaEmissoes op
  | falhaLeilao at' op =>
      simp only [Lance.emprestimos]
      exact .rest (.inr rfl) le_rfl
  | falha outro meio =>
      simp only [Lance.emprestimos]
      exact .rest (.inr rfl) le_rfl
  | @aceita agora agoraDiretorio p objeto idL at' =>
      have clerk : m.salaEmissoes.clerk = (Ponto.aceita p objeto idL).emprestando := by
        rw [Memoria.salaEmissoes, at']
      simp only [Lance.emprestimos, at']
      cases p with
      | emprestimo empresa investidor quantia => exact .ack clerk
      | _ => exact .rest (.inr rfl) le_rfl
  | recusa at' =>
      simp only [Lance.emprestimos]
      exact .rest (.inr rfl) le_rfl
  | terminaLeilao at' corre op =>
      change m.salaEmissoes.Step none (Memoria.salaEmissoes _)
      exact terminaLeilao_salaEmissoes op ▸ .rest (.inl rfl) le_rfl
  | falhaTerminaLeilao at' corre op => exact .rest (.inl rfl) le_rfl
  | terminaEmissao at' corre op => exact terminaEmissao_sala at' op
  | @falhaTerminaEmissao ref idL empresa em erro at' corre op =>
      simp only [Lance.emprestimos, at', Option.bind_some, salaEmissoes_poe]
      cases em with
      | soma emissao => cases op
      | _ => exact .leave _

end Emissoes

end PeerLanding.Threads
