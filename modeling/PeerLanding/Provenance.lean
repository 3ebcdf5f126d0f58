import PeerLanding.SessionSteps

/-! What holds of everything that the processes of the front-end hold or have in flight: the
states and the messages of the sessions, the producers, and the requests at the exchanges. A
step brings in few new ones, and for the others there is nothing to show. -/

namespace PeerLanding.Frontend

open Exchange

variable {Packet R : Type} {protocolo : Protocolo Packet R}

/-- The producer of the request does not fail: it finds a company, and can encode the request
if the company is in the table. -/
def Decodificada.Atendivel (msg : Decodificada R) : Prop :=
  ∃ empresa, msg.empresa = some empresa ∧
    (empresa.encode.bind (empresas.lookup ·) = none ∨ msg.encode.isSome = true)

/-- What a producer does: it fails, answers for a company that is not in the table, or sends
the request. -/
inductive Producer.Corre (p : Producer R) (s : Portal Packet R) : Portal Packet R → Prop
  | falha (fails : ¬p.msg.Atendivel) : Corre p s s
  | recusa {empresa : Termo} (named : p.msg.empresa = some empresa)
      (fora : empresa.encode.bind (empresas.lookup ·) = none) :
      Corre p s (s.responde p.sessao (.producer p.pid false))
  | envia {empresa : Termo} {endereco : String} {mensagem : Mensagem R}
      (named : p.msg.empresa = some empresa)
      (rota : empresa.encode.bind (empresas.lookup ·) = some endereco)
      (sent : p.msg.encode = some mensagem) :
      Corre p s { s with enviados := s.enviados ++ [⟨p.pid, p.sessao, endereco, mensagem⟩] }

theorem Portal.run_corre (s : Portal Packet R) (p : Producer R) : p.Corre s (s.run p) := by
  unfold run
  cases named : p.msg.empresa with
  | none => exact .falha (by simp [Decodificada.Atendivel, named])
  | some empresa =>
      dsimp only
      cases rota : empresa.encode.bind (empresas.lookup ·) with
      | none => exact .recusa named rota
      | some endereco =>
          dsimp only
          cases sent : p.msg.encode with
          | none =>
              refine .falha ?_
              rintro ⟨_, same, other⟩
              rw [named] at same
              cases same
              rw [rota, sent] at other
              simp at other
          | some mensagem => exact .envia named rota sent

theorem Sessao.Recebe.subset {sessao sessao' : Sessao Packet} {efeito : Efeito R}
    (h : sessao.Recebe protocolo sessao' efeito) : sessao'.caixa ⊆ sessao.caixa := by
  cases h with
  | termina caixa fica fim => exact List.nil_subset _
  | pede lido => exact List.subset_cons_self _ _
  | recusada => exact List.subset_cons_self _ _
  | aceite => exact List.subset_cons_self _ _
  | pedido | sai | escreve =>
      intro m hm
      simp only [List.mem_append, List.mem_cons] at hm ⊢
      tauto

namespace Portal

structure Guarda (M : Nat → Recado Packet → Prop) (E : Nat → Estado → Prop)
    (P : Producer R → Prop) (Q : Enviado R → Prop) (s : Portal Packet R) : Prop where
  transito : ∀ x ∈ s.transito, M x.1 x.2
  estados : ∀ i sessao, s.sessoes[i]? = some sessao → E i sessao.estado
  caixas : ∀ i sessao, s.sessoes[i]? = some sessao → ∀ m ∈ sessao.caixa, M i m
  producers : ∀ p ∈ s.producers, P p
  enviados : ∀ q ∈ s.enviados, Q q

section Guarda

variable {M M' : Nat → Recado Packet → Prop} {E E' : Nat → Estado → Prop}
  {P P' : Producer R → Prop} {Q Q' : Enviado R → Prop} {s s' : Portal Packet R}
  {i : Nat} {m : Recado Packet}

theorem guarda_inicial : (inicial : Portal Packet R).Guarda M E P Q := by
  refine ⟨?_, ?_, ?_, ?_, ?_⟩ <;> simp [inicial]

theorem Guarda.mono (h : s.Guarda M E P Q) (message : ∀ i m, M i m → M' i m)
    (state : ∀ i estado, E i estado → E' i estado) (producer : ∀ p, P p → P' p)
    (request : ∀ q, Q q → Q' q) : s.Guarda M' E' P' Q' :=
  ⟨fun x hx => message _ _ (h.transito x hx), fun i sessao la => state _ _ (h.estados i sessao la),
    fun i sessao la m hm => message _ _ (h.caixas i sessao la m hm),
    fun p hp => producer p (h.producers p hp), fun q hq => request q (h.enviados q hq)⟩

theorem Guarda.poe (h : s.Guarda M E P Q) {sessao : Sessao Packet}
    (la : s.sessoes[i]? = some sessao) {novo : Sessao Packet} (state : E i novo.estado)
    (caixa : ∀ m ∈ novo.caixa, M i m) : (s.poe i novo).Guarda M E P Q := by
  refine ⟨h.transito, ?_, ?_, h.producers, h.enviados⟩
  · intro j outra la'
    rw [sessoes_poe la] at la'
    split_ifs at la' with hj
    · cases la'
      exact hj ▸ state
    · exact h.estados j outra la'
  · intro j outra la'
    rw [sessoes_poe la] at la'
    split_ifs at la' with hj
    · cases la'
      exact hj ▸ caixa
    · exact h.caixas j outra la'

theorem Guarda.deposita (h : s.Guarda M E P Q) (new : M i m) :
    (s.deposita i m).Guarda M E P Q := by
  cases la : s.sessoes[i]? with
  | none => rwa [deposita_none la]
  | some sessao =>
      rw [deposita_some la]
      unfold Sessao.deposita
      split_ifs with ended
      · exact h.poe la (h.estados i sessao la) (h.caixas i sessao la)
      · refine h.poe la (h.estados i sessao la) ?_
        intro m' hm
        rw [List.mem_append, List.mem_singleton] at hm
        cases hm with
        | inl old => exact h.caixas i sessao la m' old
        | inr last => exact last ▸ new

theorem Guarda.responde (h : s.Guarda M E P Q) (new : M i m) :
    (s.responde i m).Guarda M E P Q := by
  refine ⟨?_, h.estados, h.caixas, h.producers, h.enviados⟩
  intro x hx
  cases List.mem_append.1 hx with
  | inl old => exact h.transito x old
  | inr last => exact List.mem_singleton.1 last ▸ new

variable {e : Evento Packet} {r : Option (Nat × Escrita)}

theorem Move.guarda (h : s.Move protocolo e r s') (now : s.Guarda M E P Q)
    (tcp : ∀ i packet, M i (.tcp packet)) (tcpClosed : ∀ i, M i .tcpClosed)
    (begin : ∀ i, E i .autentica) (fim : ∀ i, E i .fim)
    (recebe : ∀ {i sessao sessao' efeito}, s.sessoes[i]? = some sessao →
      sessao.Recebe protocolo sessao' efeito → s' = ((s.poe i sessao').aplica i efeito).2 →
        E i sessao'.estado ∧ ∀ msg, efeito = .spawn msg → P ⟨s.novoPid, i, msg⟩)
    (manager : ∀ {n i p}, e = .gestor n → s.pedidos[n]? = some (i, p) →
      M i (.gestor ⟨p, (Frontend.gestor s.contas p).1⟩))
    (refuse : ∀ {n p empresa}, e = .producer n → s.producers[n]? = some p →
      p.msg.empresa = some empresa → empresa.encode.bind (empresas.lookup ·) = none →
        M p.sessao (.producer p.pid false))
    (send : ∀ {p empresa endereco mensagem}, p ∈ s.producers → p.msg.empresa = some empresa →
      empresa.encode.bind (empresas.lookup ·) = some endereco → p.msg.encode = some mensagem →
        Q ⟨p.pid, p.sessao, endereco, mensagem⟩)
    (exchange : ∀ {n q sucesso}, e = .exchange n sucesso → s.enviados[n]? = some q →
      M q.sessao (.producer q.pid sucesso)) : s'.Guarda M E P Q := by
  cases h with
  | aceita =>
      refine ⟨now.transito, ?_, ?_, now.producers, now.enviados⟩
      · intro i sessao la
        obtain same | ⟨_, nova⟩ := sessoes_aceita (s := s) (j := i)
        · exact now.estados i sessao (same ▸ la)
        · cases nova.symm.trans la
          exact begin i
      · intro i sessao la
        obtain same | ⟨_, nova⟩ := sessoes_aceita (s := s) (j := i)
        · exact now.caixas i sessao (same ▸ la)
        · cases nova.symm.trans la
          exact fun m hm => by cases hm
  | tcp i packet => exact now.deposita (tcp i packet)
  | tcpClosed i => exact now.deposita (tcpClosed i)
  | @recebe i sessao sessao' efeito la fez =>
      obtain ⟨state, spawned⟩ := recebe la fez rfl
      have moved := now.poe la state fun m hm => now.caixas i sessao la m (fez.subset hm)
      cases efeito with
      | nada => exact moved
      | solicita p =>
          exact ⟨moved.transito, moved.estados, moved.caixas, moved.producers, moved.enviados⟩
      | send escrita => exact moved
      | spawn msg =>
          refine ⟨moved.transito, moved.estados, moved.caixas, ?_, moved.enviados⟩
          intro p hp
          cases List.mem_append.1 hp with
          | inl old => exact now.producers p old
          | inr new => exact List.mem_singleton.1 new ▸ spawned msg rfl
  | morre i =>
      cases la : s.sessoes[i]? with
      | none => rwa [poe_none la]
      | some sessao => exact now.poe la (fim i) fun m hm => by cases hm
  | @gestor n i p la =>
      refine Guarda.responde ?_ (manager rfl la)
      exact ⟨now.transito, now.estados, now.caixas, now.producers, now.enviados⟩
  | @entrega n i m la =>
      have here := now.transito _ (List.mem_of_getElem? la)
      refine Guarda.deposita ?_ here
      exact ⟨fun x hx => now.transito x (List.mem_of_mem_eraseIdx hx), now.estados, now.caixas,
        now.producers, now.enviados⟩
  | @producer n p la =>
      have rest : Guarda M E P Q { s with producers := s.producers.eraseIdx n } :=
        ⟨now.transito, now.estados, now.caixas,
          fun p hp => now.producers p (List.mem_of_mem_eraseIdx hp), now.enviados⟩
      have ran := run_corre { s with producers := s.producers.eraseIdx n } p
      generalize Portal.run { s with producers := s.producers.eraseIdx n } p = fim at ran ⊢
      cases ran with
      | falha fails => exact rest
      | recusa named fora => exact rest.responde (refuse rfl la named fora)
      | envia named rota sent =>
          refine ⟨rest.transito, rest.estados, rest.caixas, rest.producers, ?_⟩
          intro q hq
          cases List.mem_append.1 hq with
          | inl old => exact now.enviados q old
          | inr new =>
              rw [List.mem_singleton.1 new]
              exact send (List.mem_of_getElem? la) named rota sent
  | exchange la sucesso =>
      refine Guarda.responde ?_ (exchange rfl la)
      exact ⟨now.transito, now.estados, now.caixas, now.producers,
        fun q hq => now.enviados q (List.mem_of_mem_eraseIdx hq)⟩

end Guarda

end Portal

end PeerLanding.Frontend
