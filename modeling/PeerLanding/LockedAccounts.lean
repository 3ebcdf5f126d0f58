import PeerLanding.LiveSessions

/-! When an account stays usable. A flag that is set is released by the session that holds
it, so it is lost when that session ends without a logout, stops listening to its closed
connection, or never takes the reply that grants the flag. -/

namespace PeerLanding.Frontend

open Exchange

variable {Packet R : Type} {protocolo : Protocolo Packet R}

/-- `usersession/3` has a pattern for the message. -/
def Recado.lido : Recado Packet → Bool
  | .tcp _ => true
  | .producer _ _ => true
  | _ => false

/-- A packet is a request or a logout. -/
def Recado.conhecido (protocolo : Protocolo Packet R) : Recado Packet → Bool
  | .tcp packet =>
      (protocolo.mensagem packet).any fun msg => msg.tipo.Pedido ∨ msg.tipo = .texto "logout"
  | _ => true

theorem Sessao.lido_of_none {username : Termo} {m : Recado Packet}
    (h : usersession3 protocolo username m = none) : m.lido = false := by
  cases m with
  | tcp packet => cases lido : protocolo.mensagem packet <;> simp [usersession3, lido] at h
  | producer => cases h
  | _ => rfl

namespace Portal

section Vista

variable (s : Portal Packet R) (user : String) (i : Nat)

def ConcessaoPara (i : Nat) : Prop :=
  (∃ x ∈ s.transito, x.1 = i ∧ x.2.concede user = true) ∨
    ∃ m ∈ s.caixa i, m.concede user = true

/-- A login request of the user, a reply to one, or a logout request is in flight. A reply is
in flight until a session has taken it. -/
def EmVoo : Prop :=
  (∃ x ∈ s.pedidos, (∃ password, x.2 = .login (.texto user) password) ∨
      x.2 = .logout (.texto user)) ∨
    ∃ password, (∃ x ∈ s.transito, x.2.responde (.login (.texto user) password) = true) ∨
      ∃ i, ∃ m ∈ s.caixa i, m.responde (.login (.texto user) password) = true

/-- While the user's flag is set and nothing about it is in flight, a live session runs
`usersession/3` as the user, and its connection has not been reported closed. -/
def SemBloqueio : Prop :=
  s.contas.ativa user = true → ¬s.EmVoo user →
    ∃ i, s.Autenticada i user ∧ .tcpClosed ∉ s.caixa i

/-- What can still give the user's flag back. -/
inductive Detem : Prop
  | sessao (i : Nat) (dela : s.Autenticada i user) (aberta : .tcpClosed ∉ s.caixa i)
  | logout (i : Nat) (pedido : (i, .logout (.texto user)) ∈ s.pedidos)
  | resposta (i : Nat) (password : Termo)
      (espera : s.estado i = some (.login (.texto user) password))
      (concessao : s.ConcessaoPara user i)

def proximoRecado : Option (Recado Packet) := (s.caixa i).find? Recado.lido

/-- The step does not lose the user's flag: no connection is reported closed to the user's
session, nobody that holds the flag dies, a session takes a grant before anything else and
with its connection open, the user's session reads requests and logouts only, and the manager
does not grant the flag to a session that has ended. -/
def Cuidadoso (protocolo : Protocolo Packet R) : Evento Packet → Prop
  | .tcpClosed i => ¬s.Autenticada i user
  | .morre i => ¬s.Autenticada i user ∧ ¬s.ConcessaoPara user i
  | .recebe i =>
      (s.Autenticada i user → ∀ m ∈ s.proximoRecado i, m.conhecido protocolo = true) ∧
      (s.ConcessaoPara user i →
        (∃ m ∈ (s.caixa i).head?, m.concede user = true) ∧ .tcpClosed ∉ s.caixa i)
  | .gestor n => ∀ x ∈ s.pedidos[n]?, ∀ conta ∈ s.contas user, conta.ativa = false →
      x.2 = .login (.texto user) (.texto conta.password) → s.estado x.1 ≠ some .fim
  | _ => True

end Vista

section Caixa

variable {s : Portal Packet R} {i j : Nat} {m m' : Recado Packet} {sessao : Sessao Packet}

theorem caixa_of_some (la : s.sessoes[i]? = some sessao) : s.caixa i = sessao.caixa := by
  rw [caixa, la]
  rfl

theorem caixa_poe (la : s.sessoes[i]? = some sessao) (novo : Sessao Packet) :
    (s.poe i novo).caixa j = if i = j then novo.caixa else s.caixa j := by
  unfold caixa
  rw [sessoes_poe la]
  split_ifs <;> rfl

theorem mem_caixa_deposita (h : m' ∈ (s.deposita i m).caixa j) :
    m' ∈ s.caixa j ∨ i = j ∧ m' = m := by
  cases la : s.sessoes[i]? with
  | none =>
      rw [deposita_none la] at h
      exact .inl h
  | some sessao =>
      rw [deposita_some la, caixa_poe la] at h
      split_ifs at h with hj
      · subst hj
        rw [caixa_of_some la]
        unfold Sessao.deposita at h
        split_ifs at h
        · exact .inl h
        · simpa using h
      · exact .inl h

theorem mem_caixa_deposita_of_mem (h : m' ∈ s.caixa j) : m' ∈ (s.deposita i m).caixa j := by
  cases la : s.sessoes[i]? with
  | none => rwa [deposita_none la]
  | some sessao =>
      rw [deposita_some la, caixa_poe la]
      split_ifs with hj
      · subst hj
        rw [caixa_of_some la] at h
        unfold Sessao.deposita
        split_ifs
        · exact h
        · exact List.mem_append_left _ h
      · exact h

theorem mem_caixa_deposita_self {estado : Estado} (vivo : s.estado i = some estado)
    (aberto : estado ≠ .fim) : m ∈ (s.deposita i m).caixa i := by
  obtain ⟨sessao, la, rfl⟩ := Option.map_eq_some_iff.1 vivo
  rw [deposita_some la, caixa_poe la, if_pos rfl, Sessao.deposita, if_neg aberto]
  exact List.mem_append_right _ (List.mem_singleton_self _)

theorem estado_of_some (la : s.sessoes[i]? = some sessao) : s.estado i = some sessao.estado := by
  rw [estado, la]
  rfl

theorem estado_aceita {estado : Estado} (la : s.estado j = some estado) :
    s.aceita.estado j = some estado ∧ s.aceita.caixa j = s.caixa j := by
  cases sessoes_aceita (s := s) (j := j) with
  | inl same =>
      unfold Portal.estado caixa at *
      rw [same]
      exact ⟨la, rfl⟩
  | inr nova => simp [Portal.estado, nova.1] at la

end Caixa

variable {s s' : Portal Packet R} {e : Evento Packet} {r : Option (Nat × Escrita)}
  {user : String}

/-- A step that changes no session, adds no closed notification to a session of the user, and
loses neither a logout request nor a grant. -/
theorem Detem.mono (h : s.Detem user)
    (estado : ∀ j estado, s.estado j = some estado → s'.estado j = some estado)
    (aberta : ∀ j, s.Autenticada j user → .tcpClosed ∈ s'.caixa j → .tcpClosed ∈ s.caixa j)
    (pedidos : ∀ x ∈ s.pedidos, x.2 = .logout (.texto user) → x ∈ s'.pedidos)
    (concessao : ∀ j password, s.estado j = some (.login (.texto user) password) →
      s.ConcessaoPara user j → s'.ConcessaoPara user j) : s'.Detem user := by
  cases h with
  | sessao i dela livre =>
      exact .sessao i (estado i _ dela) fun found => livre (aberta i dela found)
  | logout i pedido => exact .logout i (pedidos _ pedido rfl)
  | resposta i password espera concedida =>
      exact .resposta i password (estado i _ espera) (concessao i password espera concedida)

theorem ConcessaoPara.responde (h : s.ConcessaoPara user j) (i : Nat) (m : Recado Packet) :
    (s.responde i m).ConcessaoPara user j := by
  cases h with
  | inl sent =>
      obtain ⟨x, hx, granted⟩ := sent
      exact .inl ⟨x, List.mem_append_left _ hx, granted⟩
  | inr delivered => exact .inr delivered

theorem ConcessaoPara.deposita (h : s.ConcessaoPara user j) (i : Nat) (m : Recado Packet) :
    (s.deposita i m).ConcessaoPara user j := by
  cases h with
  | inl sent => exact .inl sent
  | inr delivered =>
      obtain ⟨m', hm, granted⟩ := delivered
      exact .inr ⟨m', mem_caixa_deposita_of_mem hm, granted⟩

theorem ConcessaoPara.entrega {n i : Nat} {m : Recado Packet} {password : Termo}
    (h : s.ConcessaoPara user j) (la : s.transito[n]? = some (i, m))
    (espera : s.estado j = some (.login (.texto user) password)) :
    ({ s with transito := s.transito.eraseIdx n }.deposita i m).ConcessaoPara user j := by
  cases h with
  | inl sent =>
      obtain ⟨x, hx, rfl, granted⟩ := sent
      rw [(Mailbox.perm_eraseIdx la).mem_iff, List.mem_cons] at hx
      cases hx with
      | inl here =>
          cases here
          exact .inr ⟨m, mem_caixa_deposita_self espera (by simp), granted⟩
      | inr still => exact .inl ⟨x, still, rfl, granted⟩
  | inr delivered =>
      obtain ⟨m', hm, granted⟩ := delivered
      exact .inr ⟨m', mem_caixa_deposita_of_mem hm, granted⟩

/-- Answers to sessions are the only messages between processes. -/
def SoRespostas (s : Portal Packet R) : Prop :=
  ∀ x ∈ s.transito, x.2 ≠ .tcpClosed ∧ ∀ packet, x.2 ≠ .tcp packet

theorem SoRespostas.responde (h : s.SoRespostas) {i : Nat} {m : Recado Packet}
    (hm : m ≠ .tcpClosed ∧ ∀ packet, m ≠ .tcp packet) : (s.responde i m).SoRespostas := by
  intro x hx
  cases List.mem_append.1 hx with
  | inl old => exact h x old
  | inr new => exact List.mem_singleton.1 new ▸ hm

theorem ConcessaoPara.run (h : s.ConcessaoPara user j) (p : Producer R) :
    (s.run p).ConcessaoPara user j := by
  unfold Portal.run
  split
  · exact h
  · split
    · exact h.responde _ _
    · split <;> exact h

@[simp] theorem caixa_run (p : Producer R) (j : Nat) : (s.run p).caixa j = s.caixa j := by
  unfold run
  split
  · rfl
  · split
    · rfl
    · split <;> rfl

@[simp] theorem pedidos_run (p : Producer R) : (s.run p).pedidos = s.pedidos := by
  unfold run
  split
  · rfl
  · split
    · rfl
    · split <;> rfl

theorem SoRespostas.run (h : s.SoRespostas) (p : Producer R) : (s.run p).SoRespostas := by
  unfold Portal.run
  split
  · exact h
  · split
    · exact h.responde (by simp)
    · split
      · exact h
      · exact h

theorem Move.soRespostas (h : s.Move protocolo e r s') (before : s.SoRespostas) :
    s'.SoRespostas := by
  cases h with
  | @recebe i sessao sessao' efeito la fez => cases efeito <;> exact before
  | gestor la => exact SoRespostas.responde before (by simp)
  | entrega la => exact fun x hx => before x (List.mem_of_mem_eraseIdx hx)
  | producer la =>
      refine SoRespostas.run ?_ _
      exact before
  | exchange la sucesso => exact SoRespostas.responde before (by simp)
  | _ => exact before

theorem Run.soRespostas {t : List (Lance Packet R)} (h : Run protocolo t s) :
    s.SoRespostas := by
  refine Runs.Run.invariant (fun _ s => s.SoRespostas) h ?_ ?_
  · intro x hx
    cases hx
  · intro t s e r s' _ before hs
    exact hs.move.soRespostas before

@[simp] theorem caixa_aplica (i j : Nat) (efeito : Efeito R) :
    (s.aplica i efeito).2.caixa j = s.caixa j := by
  cases efeito <;> rfl

theorem transito_aplica (i : Nat) (efeito : Efeito R) :
    (s.aplica i efeito).2.transito = s.transito := by
  cases efeito <;> rfl

theorem pedidos_aplica (i : Nat) (efeito : Efeito R) {x : Nat × Solicitacao}
    (h : x ∈ s.pedidos) : x ∈ (s.aplica i efeito).2.pedidos := by
  cases efeito with
  | solicita p => exact List.mem_append_left _ h
  | _ => exact h

theorem Detem.recebe_sessao {i : Nat} {sessao sessao' : Sessao Packet} {efeito : Efeito R}
    (la : s.sessoes[i]? = some sessao) (fez : sessao.Recebe protocolo sessao' efeito)
    (dela : s.Autenticada i user) (aberta : .tcpClosed ∉ s.caixa i)
    (careful : s.Cuidadoso user protocolo (.recebe i)) :
    ((s.poe i sessao').aplica i efeito).2.Detem user := by
  have running : sessao.estado = .sessao (.texto user) := by
    rw [Autenticada, estado_of_some la, Option.some.injEq] at dela
    exact dela
  rw [caixa_of_some la] at aberta
  have stays (caixa : List (Recado Packet)) (less : .tcpClosed ∉ caixa) :
      ((s.poe i ⟨.sessao (.texto user), caixa⟩).aplica i efeito).2.Detem user := by
    refine .sessao i ?_ ?_
    · rw [Autenticada, estado_aplica, estado_poe la, if_pos rfl]
    · rwa [caixa_aplica, caixa_poe la, if_pos rfl]
  cases fez with
  | pede lido => cases running
  | recusada => cases running
  | aceite => cases running
  | pedido fica lido tipo =>
      cases running
      exact stays _ (by simpa using aberta)
  | escreve fica =>
      cases running
      exact stays _ (by simpa using aberta)
  | sai fica lido tipo =>
      cases running
      exact .logout i (List.mem_append_right _ (List.mem_singleton_self _))
  | @termina _ m antes depois caixa fica fim =>
      have known := careful.1 dela m
      rw [running] at fica fim
      have skipped : ∀ b ∈ antes, ¬b.lido = true := by
        intro b hb
        simp [Sessao.lido_of_none (fica b hb)]
      rw [proximoRecado, caixa_of_some la, caixa, List.find?_append,
        List.find?_eq_none.2 skipped] at known
      cases m with
      | tcp packet =>
          obtain ⟨msg, lido, tipo⟩ := (Option.any_eq_true _ _).1 (known rfl)
          rw [decide_eq_true_eq] at tipo
          simp only [Sessao.trata, Sessao.usersession3, lido, Sessao.pedido_eq] at fim
          split_ifs at fim with request leave
          · cases fim
          · cases fim
          · exact absurd tipo (by simp [request, leave])
      | _ => cases fim

theorem Detem.recebe_login {i : Nat} {sessao sessao' : Sessao Packet} {efeito : Efeito R}
    {password : Termo} (la : s.sessoes[i]? = some sessao)
    (fez : sessao.Recebe protocolo sessao' efeito)
    (espera : s.estado i = some (.login (.texto user) password))
    (concedida : s.ConcessaoPara user i)
    (careful : s.Cuidadoso user protocolo (.recebe i)) :
    ((s.poe i sessao').aplica i efeito).2.Detem user := by
  obtain ⟨⟨m, head, granted⟩, aberta⟩ := careful.2 concedida
  obtain ⟨caixa, here⟩ := List.head?_eq_some_iff.1 head
  have waiting : sessao.estado = .login (.texto user) password := by
    rw [estado_of_some la, Option.some.injEq] at espera
    exact espera
  rw [caixa_of_some la] at here aberta
  cases fez with
  | pede lido => cases waiting
  | pedido fica lido tipo => cases waiting
  | sai fica lido tipo => cases waiting
  | escreve fica => cases waiting
  | recusada =>
      cases here
      simp [Resposta.concede] at granted
  | aceite =>
      cases waiting
      refine .sessao i ?_ ?_
      · rw [Autenticada, estado_aplica, estado_poe la, if_pos rfl]
      · rw [caixa_aplica, caixa_poe la, if_pos rfl]
        exact fun found => aberta (List.mem_cons_of_mem _ found)
  | @termina _ m' antes depois whole fica fim =>
      rw [waiting] at fica fim
      obtain rfl := Sessao.sem_antes fica (by simp) (by simp)
      rw [here] at whole
      cases whole
      cases m with
      | gestor resposta =>
          obtain ⟨p, valor⟩ := resposta
          cases valor with
          | tipo tipo => cases fim
          | _ => simp [Resposta.concede] at granted
      | _ => cases granted

/-- A session that holds the flag hands it on; the others do not notice. -/
theorem Detem.recebe {i : Nat} {sessao sessao' : Sessao Packet} {efeito : Efeito R}
    (held : s.Detem user) (la : s.sessoes[i]? = some sessao)
    (fez : sessao.Recebe protocolo sessao' efeito)
    (careful : s.Cuidadoso user protocolo (.recebe i)) :
    ((s.poe i sessao').aplica i efeito).2.Detem user := by
  cases held with
  | sessao j dela aberta =>
      by_cases hj : i = j
      · subst hj
        exact .recebe_sessao la fez dela aberta careful
      · refine .sessao j ?_ ?_
        · rwa [Autenticada, estado_aplica, estado_poe la, if_neg hj]
        · rwa [caixa_aplica, caixa_poe la, if_neg hj]
  | logout j pedido => exact .logout j (pedidos_aplica i efeito pedido)
  | resposta j password espera concedida =>
      by_cases hj : i = j
      · subst hj
        exact .recebe_login la fez espera concedida careful
      · refine .resposta j password ?_ ?_
        · rwa [estado_aplica, estado_poe la, if_neg hj]
        · unfold ConcessaoPara
          rw [transito_aplica, caixa_aplica, caixa_poe la, if_neg hj]
          exact concedida

theorem Detem.morre {i : Nat} (held : s.Detem user)
    (careful : s.Cuidadoso user protocolo (.morre i)) : (s.poe i .morta).Detem user := by
  cases la : s.sessoes[i]? with
  | none => rwa [poe_none la]
  | some sessao =>
      cases held with
      | sessao j dela aberta =>
          have other : i ≠ j := fun same => careful.1 (same ▸ dela)
          refine .sessao j ?_ ?_
          · rwa [Autenticada, estado_poe la, if_neg other]
          · rwa [caixa_poe la, if_neg other]
      | logout j pedido => exact .logout j pedido
      | resposta j password espera concedida =>
          have other : i ≠ j := fun same => careful.2 (same ▸ concedida)
          refine .resposta j password ?_ ?_
          · rwa [estado_poe la, if_neg other]
          · unfold ConcessaoPara
            rw [caixa_poe la, if_neg other]
            exact concedida

theorem EmDia.espera (h : s.EmDia) {n i : Nat} {p : Solicitacao}
    (la : s.pedidos[n]? = some (i, p)) (vivo : s.estado i ≠ some .fim) :
    (s.estado i).bind (·.aguarda) = some p := by
  have mine := h i vivo p
  have asked : 0 < s.pedidos.countP fun x => decide (x = (i, p)) :=
    List.countP_pos_iff.2 ⟨(i, p), List.mem_of_getElem? la, by simp⟩
  by_contra other
  rw [if_neg other, pendentes] at mine
  omega

theorem Detem.gestor {n i : Nat} {p : Solicitacao} {valor : Valor} {contas : Contas}
    (before : s.contas.ativa user = true → s.Detem user) (emDia : s.EmDia)
    (la : s.pedidos[n]? = some (i, p)) (decided : Decide s.contas p valor contas)
    (careful : s.Cuidadoso user protocolo (.gestor n)) (flag : contas.ativa user = true) :
    ({ s with pedidos := s.pedidos.eraseIdx n, contas }.responde i
      (.gestor ⟨p, valor⟩)).Detem user := by
  -- any other request leaves the user's holder as it was
  have kept (held : s.contas.ativa user = true) (other : p ≠ .logout (.texto user)) :
      ({ s with pedidos := s.pedidos.eraseIdx n, contas }.responde i
        (.gestor ⟨p, valor⟩)).Detem user := by
    refine (before held).mono (fun j estado hj => hj) (fun j _ found => found) ?_ ?_
    · intro x hx logout
      rw [(Mailbox.perm_eraseIdx la).mem_iff, List.mem_cons] at hx
      cases hx with
      | inl here =>
          subst here
          exact absurd logout other
      | inr still => exact still
    · intro j password _ concedida
      exact ConcessaoPara.responde (s := { s with pedidos := s.pedidos.eraseIdx n, contas })
        concedida i _
  cases decided with
  | @concede u conta found livre =>
      by_cases hu : u = user
      · subst hu
        have alive := careful _ la conta found livre rfl
        have waits := emDia.espera la alive
        cases he : s.estado i with
        | none => simp [he] at waits
        | some estado =>
            rw [he, Option.bind_some] at waits
            cases estado with
            | login username password =>
                cases waits
                refine .resposta i _ he (.inl ⟨_, List.mem_append_right _
                  (List.mem_singleton_self _), rfl, ?_⟩)
                simp [Recado.concede, Resposta.concede]
            | _ => cases waits
      · rw [Contas.ativa_update_of_ne hu] at flag
        exact kept flag (by simp)
  | @liberta u conta found ativa =>
      by_cases hu : u = user
      · subst hu
        rw [Contas.ativa_update_self] at flag
        cases flag
      · rw [Contas.ativa_update_of_ne hu] at flag
        exact kept flag (by simpa using hu)
  | recusa livre =>
      refine kept flag fun logout => ?_
      rw [livre user logout] at flag
      cases flag

theorem Move.detem (h : s.Move protocolo e r s') (emDia : s.EmDia) (so : s.SoRespostas)
    (careful : s.Cuidadoso user protocolo e)
    (before : s.contas.ativa user = true → s.Detem user) :
    s'.contas.ativa user = true → s'.Detem user := by
  intro flag
  cases h with
  | aceita =>
      refine (before flag).mono (fun j estado hj => (estado_aceita hj).1) ?_ (fun x hx _ => hx) ?_
      · intro j dela found
        rwa [(estado_aceita dela).2] at found
      · intro j password espera concedida
        unfold ConcessaoPara
        rw [(estado_aceita espera).2]
        exact concedida
  | tcp i packet =>
      refine (before flag).mono (fun j estado hj => by rwa [estado_deposita]) ?_
        (fun x hx _ => hx) (fun j _ _ concedida => concedida.deposita i _)
      intro j dela found
      obtain old | ⟨_, new⟩ := mem_caixa_deposita found
      · exact old
      · cases new
  | tcpClosed i =>
      refine (before flag).mono (fun j estado hj => by rwa [estado_deposita]) ?_
        (fun x hx _ => hx) (fun j _ _ concedida => concedida.deposita i _)
      intro j dela found
      obtain old | ⟨same, _⟩ := mem_caixa_deposita found
      · exact old
      · exact absurd (same ▸ dela) careful
  | recebe la fez =>
      rw [contas_aplica] at flag
      exact (before flag).recebe la fez careful
  | morre i => exact (before flag).morre careful
  | gestor la => exact .gestor before emDia la (gestor_decide _ _) careful flag
  | @entrega n i m la =>
      refine (before flag).mono (fun j estado hj => by rwa [estado_deposita]) ?_
        (fun x hx _ => hx) (fun j _ espera concedida => concedida.entrega la espera)
      intro j dela found
      obtain old | ⟨_, new⟩ := mem_caixa_deposita found
      · exact old
      · exact absurd new.symm (so _ (List.mem_of_getElem? la)).1
  | @producer n q la =>
      rw [contas_run] at flag
      refine (before flag).mono (fun j estado hj => by rwa [estado_run]) ?_ ?_ ?_
      · intro j _ found
        rwa [caixa_run] at found
      · intro x hx _
        rwa [pedidos_run]
      · intro j _ _ concedida
        refine ConcessaoPara.run ?_ q
        exact concedida
  | exchange la sucesso =>
      refine (before flag).mono (fun j estado hj => hj) (fun j _ found => found)
        (fun x hx _ => hx) ?_
      intro j _ _ concedida
      exact ConcessaoPara.responde concedida _ _

theorem accountService_livre {user : String} {conta : Conta}
    (found : accountService user = some conta) : conta.ativa = false :=
  forall_of_lookup (fun conta => conta.ativa = false) (by decide) found

theorem Run.detem {t : List (Lance Packet R)} (h : Run protocolo t s)
    (careful : ∀ e ∈ t, e.pre.Cuidadoso user protocolo e.label) :
    s.contas.ativa user = true → s.Detem user := by
  refine Runs.Run.invariant_of_guard (fun _ s => s.contas.ativa user = true → s.Detem user) _ h
    careful ?_ ?_
  · intro flag
    obtain ⟨conta, found, ativa⟩ := (Option.any_eq_true _ _).1 flag
    rw [accountService_livre found] at ativa
    cases ativa
  · intro t s e r s' run before hs safe
    exact hs.move.detem (Run.emDia run) (Run.soRespostas run) safe before

theorem responde_of_concede {m : Recado Packet} (h : m.concede user = true) :
    ∃ password, m.responde (.login (.texto user) password) = true := by
  unfold Recado.concede at h
  split at h
  · next resposta =>
      unfold Resposta.concede at h
      split at h
      · next u password tipo =>
          refine ⟨password, ?_⟩
          rw [decide_eq_true_eq] at h
          simp [h]
      · cases h
  · cases h

theorem Detem.semBloqueio (h : s.Detem user) (quiet : ¬s.EmVoo user) :
    ∃ i, s.Autenticada i user ∧ .tcpClosed ∉ s.caixa i := by
  cases h with
  | sessao i dela aberta => exact ⟨i, dela, aberta⟩
  | logout i pedido => exact absurd (.inl ⟨_, pedido, .inr rfl⟩) quiet
  | resposta i password espera concedida =>
      refine absurd ?_ quiet
      cases concedida with
      | inl sent =>
          obtain ⟨x, hx, _, granted⟩ := sent
          obtain ⟨password, answers⟩ := responde_of_concede granted
          exact .inr ⟨password, .inl ⟨x, hx, answers⟩⟩
      | inr delivered =>
          obtain ⟨m, hm, granted⟩ := delivered
          obtain ⟨password, answers⟩ := responde_of_concede granted
          exact .inr ⟨password, .inr ⟨i, m, hm, answers⟩⟩

instance [DecidableEq Packet] (s : Portal Packet R) (user : String) (e : Evento Packet) :
    Decidable (s.Cuidadoso user protocolo e) :=
  match e with
  | .tcpClosed i => inferInstanceAs (Decidable (¬s.estado i = some (.sessao (.texto user))))
  | .morre i => inferInstanceAs (Decidable (¬s.estado i = some (.sessao (.texto user)) ∧ ¬(_ ∨ _)))
  | .recebe i =>
      inferInstanceAs (Decidable ((s.estado i = some (.sessao (.texto user)) → _) ∧
        ((_ ∨ _) → _ ∧ _)))
  | .gestor n => inferInstanceAs (Decidable (∀ x ∈ s.pedidos[n]?, _))
  | .aceita => inferInstanceAs (Decidable True)
  | .tcp _ _ => inferInstanceAs (Decidable True)
  | .entrega _ => inferInstanceAs (Decidable True)
  | .producer _ => inferInstanceAs (Decidable True)
  | .exchange _ _ => inferInstanceAs (Decidable True)

end Portal

/-- In every state reached by steps that do not lose the user's flag, the account is not left
locked. -/
theorem lockedAccounts {t : List (Lance Packet R)} {s : Portal Packet R} {user : String}
    (h : Portal.Run protocolo t s)
    (careful : ∀ e ∈ t, e.pre.Cuidadoso user protocolo e.label) : s.SemBloqueio user :=
  fun flag quiet => (Portal.Run.detem h careful flag).semBloqueio quiet

def oneLogin : List (Evento (AuthReq ⊕ Decodificada Binary32)) :=
  [.aceita, .tcp 0 (.inl ⟨.texto "noite", .texto "mongo"⟩), .recebe 0, .gestor 0, .entrega 0,
    .recebe 0]

theorem oneLogin_happens : (Portal.corrida .direto oneLogin).isSome := by decide +kernel

theorem lockedAccounts_login :
    ∃ (t : List (Lance (AuthReq ⊕ Decodificada Binary32) Binary32))
      (s : Portal (AuthReq ⊕ Decodificada Binary32) Binary32),
      Portal.Run .direto t s ∧ t.length = 6 ∧ s.contas.ativa "noite" = true ∧
        s.SemBloqueio "noite" := by
  have run := Portal.run_corrida oneLogin_happens
  have careful : ∀ e ∈ ((Portal.corrida .direto oneLogin).get oneLogin_happens).1,
      e.pre.Cuidadoso "noite" Protocolo.direto e.label := by decide +kernel
  exact ⟨_, _, run, by decide +kernel, by decide +kernel, lockedAccounts run careful⟩

def closedConnection : List (Evento (AuthReq ⊕ Decodificada Binary32)) :=
  oneLogin ++ [.tcpClosed 0]

theorem closedConnection_happens : (Portal.corrida .direto closedConnection).isSome := by
  decide +kernel

abbrev closedState : Portal (AuthReq ⊕ Decodificada Binary32) Binary32 :=
  ((Portal.corrida .direto closedConnection).get closedConnection_happens).2

theorem closedState_sessoes :
    closedState.sessoes = [⟨.sessao (.texto "noite"), [.tcpClosed]⟩] := by decide +kernel

theorem closedState_caixa (i : Nat) : ∀ m ∈ closedState.caixa i, m = .tcpClosed := by
  intro m hm
  rw [Portal.caixa, closedState_sessoes] at hm
  cases i with
  | zero => exact List.mem_singleton.1 hm
  | succ i => cases hm

theorem closedState_quiet : ¬closedState.EmVoo "noite" := by
  have pedidos : closedState.pedidos = [] := by decide +kernel
  have transito : closedState.transito = [] := by decide +kernel
  unfold Portal.EmVoo
  rw [pedidos, transito]
  rintro (⟨x, hx, _⟩ | ⟨password, ⟨x, hx, _⟩ | ⟨i, m, hm, answers⟩⟩)
  · cases hx
  · cases hx
  · rw [closedState_caixa i m hm] at answers
    cases answers

/-- The flag stays set, nothing is in flight, and the only session is cut off. -/
theorem lockedAccounts_closed :
    ∃ (t : List (Lance (AuthReq ⊕ Decodificada Binary32) Binary32))
      (s : Portal (AuthReq ⊕ Decodificada Binary32) Binary32),
      Portal.Run .direto t s ∧ ¬s.SemBloqueio "noite" := by
  refine ⟨_, _, Portal.run_corrida closedConnection_happens, ?_⟩
  intro usable
  obtain ⟨i, running, aberta⟩ := usable (by decide +kernel) closedState_quiet
  rw [Portal.Autenticada, Portal.estado, closedState_sessoes] at running
  rw [Portal.caixa, closedState_sessoes] at aberta
  cases i with
  | zero => exact aberta (List.mem_singleton_self _)
  | succ i => cases running

end PeerLanding.Frontend
