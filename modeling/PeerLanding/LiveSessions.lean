import PeerLanding.SessionSteps

/-! At most one live session for each account. The manager's flag is one token: it is held
by a session in `usersession/3`, by a granted reply on its way to a session, or by a logout
request on its way to the manager. -/

namespace PeerLanding.Frontend

open Exchange

variable {Packet R : Type} {protocolo : Protocolo Packet R}

/-- The request whose answer a session waits for. -/
def Estado.aguarda : Estado → Option Solicitacao
  | .login user password => some (.login user password)
  | .logout user => some (.logout user)
  | _ => none

def Recado.responde (p : Solicitacao) : Recado Packet → Bool
  | .gestor resposta => decide (resposta.pedido = p)
  | _ => false

@[simp] theorem Recado.responde_gestor (p : Solicitacao) (resposta : Resposta) :
    (Recado.gestor resposta : Recado Packet).responde p = decide (resposta.pedido = p) := rfl

@[simp] theorem Recado.responde_producer (p : Solicitacao) (de : Nat) (sucesso : Bool) :
    (Recado.producer de sucesso : Recado Packet).responde p = false := rfl

/-- How many requests `p` to the manager the effect is: one or none. -/
def Efeito.pede (p : Solicitacao) : Efeito R → Nat
  | .solicita q => if q = p then 1 else 0
  | _ => 0

def Resposta.concede (user : String) : Resposta → Bool
  | ⟨.login (.texto u) _, .tipo _⟩ => decide (u = user)
  | _ => false

def Recado.concede (user : String) : Recado Packet → Bool
  | .gestor resposta => resposta.concede user
  | _ => false

@[simp] theorem Recado.concede_gestor (user : String) (resposta : Resposta) :
    (Recado.gestor resposta : Recado Packet).concede user = resposta.concede user := rfl

namespace Sessao

variable (sessao : Sessao Packet) (m : Recado Packet)

@[simp] theorem estado_deposita : (sessao.deposita m).estado = sessao.estado := by
  unfold deposita
  split_ifs <;> rfl

theorem countP_deposita (q : Recado Packet → Bool) :
    (sessao.deposita m).caixa.countP q ≤
      sessao.caixa.countP q + if q m = true then 1 else 0 := by
  unfold deposita
  split_ifs <;> simp_all

end Sessao

namespace Portal

section Vista

variable (s : Portal Packet R)

def caixa (i : Nat) : List (Recado Packet) := (s.sessoes[i]?.map (·.caixa)).getD []

def estado (i : Nat) : Option Estado := s.sessoes[i]?.map (·.estado)

/-- The requests `p` of session `i` under way to the manager, and the answers to them that
the session has not taken. -/
def pendentes (i : Nat) (p : Solicitacao) : Nat :=
  s.pedidos.countP (fun x => decide (x = (i, p))) +
    s.transito.countP (fun x => decide (x.1 = i) && x.2.responde p) +
    (s.caixa i).countP (·.responde p)

/-- Nothing is pending for a live session but the answer it waits for, and nothing at all
for a session that has not begun. -/
def EmDia : Prop :=
  ∀ i, s.estado i ≠ some .fim → ∀ p,
    s.pendentes i p ≤ if (s.estado i).bind (·.aguarda) = some p then 1 else 0

end Vista

variable {s : Portal Packet R} {i j : Nat} {m : Recado Packet} {p : Solicitacao}
  {sessao : Sessao Packet}

theorem estado_poe (la : s.sessoes[i]? = some sessao) (novo : Sessao Packet) :
    (s.poe i novo).estado j = if i = j then some novo.estado else s.estado j := by
  unfold estado
  rw [sessoes_poe la]
  split_ifs <;> rfl

theorem pendentes_poe (la : s.sessoes[i]? = some sessao) (novo : Sessao Packet) (j : Nat)
    (p : Solicitacao) :
    (s.poe i novo).pendentes j p + (if i = j then sessao.caixa.countP (·.responde p) else 0) =
      s.pendentes j p + if i = j then novo.caixa.countP (·.responde p) else 0 := by
  unfold pendentes caixa
  rw [sessoes_poe la]
  by_cases hj : i = j
  · subst hj
    simp [poe, la]
    omega
  · simp [poe, hj]

@[simp] theorem estado_deposita : (s.deposita i m).estado j = s.estado j := by
  cases la : s.sessoes[i]? with
  | none => rw [deposita_none la]
  | some sessao =>
      rw [deposita_some la, estado_poe la]
      split_ifs with hj
      · simp [estado, ← hj, la]
      · rfl

theorem pendentes_deposita :
    (s.deposita i m).pendentes j p ≤
      s.pendentes j p + if i = j ∧ m.responde p = true then 1 else 0 := by
  cases la : s.sessoes[i]? with
  | none =>
      rw [deposita_none la]
      exact Nat.le_add_right _ _
  | some sessao =>
      have count := pendentes_poe la (sessao.deposita m) j p
      have more := sessao.countP_deposita m (·.responde p)
      rw [deposita_some la]
      by_cases hj : i = j
      · simp only [hj, if_true, true_and] at *
        omega
      · simp only [hj, if_false, false_and] at *
        omega

theorem pendentes_responde :
    (s.responde i m).pendentes j p =
      s.pendentes j p + if i = j ∧ m.responde p = true then 1 else 0 := by
  unfold pendentes caixa responde
  simp only [List.countP_append, List.countP_singleton, Bool.and_eq_true, decide_eq_true_eq]
  omega

@[simp] theorem estado_aplica (efeito : Efeito R) :
    (s.aplica i efeito).2.estado j = s.estado j := by
  cases efeito <;> rfl

theorem pendentes_aplica (efeito : Efeito R) :
    (s.aplica i efeito).2.pendentes j p =
      s.pendentes j p + if i = j then efeito.pede p else 0 := by
  cases efeito with
  | solicita q =>
      simp only [aplica, pendentes, caixa, Efeito.pede, List.countP_append,
        List.countP_singleton, decide_eq_true_eq, Prod.mk.injEq]
      split_ifs <;> first | omega | simp_all
  | _ => simp [aplica, pendentes, caixa, Efeito.pede]

theorem pendentes_gestor {n : Nat} {q : Solicitacao} (la : s.pedidos[n]? = some (i, q))
    (contas : Contas) (valor : Valor) :
    ({ s with pedidos := s.pedidos.eraseIdx n, contas }.responde i
      (.gestor ⟨q, valor⟩)).pendentes j p = s.pendentes j p := by
  have count := Mailbox.countP_eraseIdx la fun x => decide (x = (j, p))
  rw [pendentes_responde, Recado.responde_gestor]
  simp only [decide_eq_true_eq, Prod.mk.injEq] at count ⊢
  unfold pendentes caixa
  dsimp only
  omega

theorem pendentes_entrega {n : Nat} (la : s.transito[n]? = some (i, m)) :
    ({ s with transito := s.transito.eraseIdx n }.deposita i m).pendentes j p ≤
      s.pendentes j p := by
  have count := Mailbox.countP_eraseIdx la fun x => decide (x.1 = j) && x.2.responde p
  refine pendentes_deposita.trans ?_
  simp only [Bool.and_eq_true, decide_eq_true_eq] at count
  unfold pendentes caixa
  dsimp only
  omega

@[simp] theorem estado_run (q : Producer R) : (s.run q).estado j = s.estado j := by
  unfold run
  split
  · rfl
  · split
    · rfl
    · split <;> rfl

@[simp] theorem pendentes_run (q : Producer R) : (s.run q).pendentes j p = s.pendentes j p := by
  unfold run
  split
  · rfl
  · split
    · simp [pendentes_responde, Recado.responde]
    · split <;> rfl

end Portal

/-- Only the answer that a session waits for is in its mailbox. -/
def Sessao.SoEspera (sessao : Sessao Packet) : Prop :=
  ∀ p, sessao.caixa.countP (·.responde p) ≤ if sessao.estado.aguarda = some p then 1 else 0

/-- The first message of a session in `accountManager:login/2`, if it is an answer, is the
answer to its login. -/
theorem Sessao.SoEspera.login {user password : Termo} {p : Solicitacao} {valor : Valor}
    {caixa : List (Recado Packet)}
    (h : SoEspera ⟨.login user password, .gestor ⟨p, valor⟩ :: caixa⟩) :
    p = .login user password := by
  have mine := h p
  by_contra other
  simp [Estado.aguarda, Recado.responde, Ne.symm other] at mine

/-- A session that goes on swaps what it waits for against what it takes and asks. -/
theorem Sessao.Recebe.pendentes {sessao sessao' : Sessao Packet} {efeito : Efeito R}
    (h : sessao.Recebe protocolo sessao' efeito) (vivo : sessao'.estado ≠ .fim)
    (caixa : sessao.SoEspera) (p : Solicitacao) :
    sessao'.caixa.countP (·.responde p) + efeito.pede p +
        (if sessao.estado.aguarda = some p then 1 else 0) ≤
      sessao.caixa.countP (·.responde p) + if sessao'.estado.aguarda = some p then 1 else 0 := by
  cases h with
  | termina caixa fica fim => exact absurd rfl vivo
  | recusada =>
      obtain rfl := caixa.login
      simp [Estado.aguarda, Recado.responde, Efeito.pede, List.countP_cons]
  | aceite =>
      obtain rfl := caixa.login
      simp [Estado.aguarda, Recado.responde, Efeito.pede, List.countP_cons]
  | _ => simp [Estado.aguarda, Recado.responde, Efeito.pede]

namespace Portal

variable {s s' : Portal Packet R} {e : Evento Packet} {r : Option (Nat × Escrita)}

theorem EmDia.soEspera (h : s.EmDia) {i : Nat} {sessao : Sessao Packet}
    (la : s.sessoes[i]? = some sessao) (vivo : sessao.estado ≠ .fim) : sessao.SoEspera := by
  intro p
  have mine := h i (by simpa [estado, la] using vivo) p
  simp only [pendentes, caixa, estado, la, Option.map_some, Option.getD_some,
    Option.bind_some] at mine
  omega

theorem Move.emDia (h : s.Move protocolo e r s') (before : s.EmDia) : s'.EmDia := by
  intro j vivo p
  have here := before j
  cases h with
  | aceita =>
      have mine := here
      unfold pendentes caixa estado at *
      cases sessoes_aceita (s := s) (j := j) with
      | inl same =>
          rw [same] at vivo ⊢
          exact here vivo p
      | inr nova =>
          rw [nova.2]
          have none_yet := here (by simp [nova.1]) p
          rw [nova.1] at none_yet
          exact none_yet
  | tcp i packet =>
      rw [estado_deposita] at vivo ⊢
      refine pendentes_deposita.trans ?_
      simpa [Recado.responde] using here vivo p
  | tcpClosed i =>
      rw [estado_deposita] at vivo ⊢
      refine pendentes_deposita.trans ?_
      simpa [Recado.responde] using here vivo p
  | @recebe i sessao sessao' efeito la fez =>
      rw [estado_aplica, estado_poe la] at vivo ⊢
      rw [pendentes_aplica]
      have count := pendentes_poe la sessao' j p
      by_cases hj : i = j
      · subst hj
        have mine := here (by simpa [estado, la] using fez.vivo) p
        have swap := fez.pendentes (by simpa using vivo) (before.soEspera la fez.vivo) p
        simp only [estado, la, Option.map_some, Option.bind_some, if_true] at *
        omega
      · simp only [hj, if_false] at *
        have mine := here vivo p
        omega
  | morre i =>
      cases la : s.sessoes[i]? with
      | none =>
          rw [poe_none la] at vivo ⊢
          exact here vivo p
      | some sessao =>
          have count := pendentes_poe la .morta j p
          rw [estado_poe la] at vivo ⊢
          by_cases hj : i = j
          · simp [hj, Sessao.morta] at vivo
          · simp only [hj, if_false] at *
            have mine := here vivo p
            omega
  | gestor la => exact (pendentes_gestor la _ _).le.trans (here vivo p)
  | entrega la =>
      rw [estado_deposita] at vivo ⊢
      exact (pendentes_entrega la).trans (here vivo p)
  | producer la =>
      rw [estado_run] at vivo ⊢
      rw [pendentes_run]
      exact here vivo p
  | exchange la sucesso =>
      rw [pendentes_responde, Recado.responde_producer, if_neg (by simp)]
      exact here vivo p

theorem Run.emDia {t : List (Lance Packet R)} (h : Run protocolo t s) : s.EmDia := by
  refine Runs.Run.invariant (fun _ s => s.EmDia) h ?_ ?_
  · intro i _ p
    exact Nat.zero_le _
  · intro t s e r s' _ before hs
    exact hs.move.emDia before

end Portal

/-! ### The manager's flag -/

/-- The manager grants only a flag that nothing holds, and takes it back from its holder. -/
theorem Decide.detentores {contas contas' : Contas} {p : Solicitacao} {valor : Valor}
    {user : String} {before after : Nat} (decided : Decide contas p valor contas')
    (held : before ≤ if contas.ativa user = true then 1 else 0)
    (answered : after + (if p = .logout (.texto user) then 1 else 0) = before +
      if Resposta.concede user ⟨p, valor⟩ = true then 1 else 0) :
    after ≤ if contas'.ativa user = true then 1 else 0 := by
  cases decided with
  | @concede u conta found livre =>
      by_cases hu : u = user
      · subst hu
        rw [Contas.ativa_of_some found, livre] at held
        simp [Resposta.concede] at held answered ⊢
        omega
      · rw [Contas.ativa_update_of_ne hu]
        simp [Resposta.concede, hu] at answered
        omega
  | @liberta u conta found ativa =>
      by_cases hu : u = user
      · subst hu
        rw [Contas.ativa_of_some found, ativa] at held
        simp [Resposta.concede] at held answered ⊢
        omega
      · rw [Contas.ativa_update_of_ne hu]
        simp [Resposta.concede, hu] at answered
        omega
  | recusa livre =>
      simp [Resposta.concede] at answered
      omega

/-- How much of the user's flag a session holds: itself, and the grants in its mailbox. -/
def Sessao.peso (user : String) (sessao : Sessao Packet) : Nat :=
  (if sessao.estado = .sessao (.texto user) then 1 else 0) +
    sessao.caixa.countP (·.concede user)

@[simp] theorem Sessao.peso_morta (user : String) :
    (Sessao.morta : Sessao Packet).peso user = 0 := rfl

def Portal.detentores (s : Portal Packet R) (user : String) : Nat :=
  (s.sessoes.map (·.peso user)).sum + s.transito.countP (·.2.concede user) +
    s.pedidos.countP (fun x => decide (x.2 = .logout (.texto user)))

theorem Sessao.Recebe.peso {sessao sessao' : Sessao Packet} {efeito : Efeito R}
    (h : sessao.Recebe protocolo sessao' efeito) (caixa : sessao.SoEspera) (user : String) :
    sessao'.peso user + efeito.pede (.logout (.texto user)) ≤ sessao.peso user := by
  unfold Sessao.peso
  cases h with
  | termina caixa fica fim => simp [morta, Efeito.pede]
  | @aceite username password p tipo resto =>
      obtain rfl := caixa.login
      cases username <;> simp [Recado.concede, Resposta.concede, Efeito.pede, List.countP_cons]
      omega
  | sai =>
      simp [Recado.concede, Efeito.pede]
      omega
  | recusada => simp [Recado.concede, Resposta.concede, Efeito.pede]
  | _ => simp [Recado.concede, Efeito.pede]

namespace Portal

variable {s s' : Portal Packet R} {e : Evento Packet} {r : Option (Nat × Escrita)}
  {i : Nat} {m : Recado Packet} {user : String}

theorem detentores_poe {sessao : Sessao Packet} (la : s.sessoes[i]? = some sessao)
    (novo : Sessao Packet) (user : String) :
    (s.poe i novo).detentores user + sessao.peso user = s.detentores user + novo.peso user := by
  have sum := Mailbox.sum_set la (·.peso user) novo
  unfold detentores poe
  dsimp only
  omega

theorem detentores_responde :
    (s.responde i m).detentores user =
      s.detentores user + if m.concede user = true then 1 else 0 := by
  unfold detentores responde
  simp only [List.countP_append, List.countP_singleton]
  omega

theorem detentores_deposita :
    (s.deposita i m).detentores user ≤
      s.detentores user + if m.concede user = true then 1 else 0 := by
  cases la : s.sessoes[i]? with
  | none =>
      rw [deposita_none la]
      exact Nat.le_add_right _ _
  | some sessao =>
      have held := detentores_poe la (sessao.deposita m) user
      have more := sessao.countP_deposita m (·.concede user)
      rw [deposita_some la]
      simp only [Sessao.peso, Sessao.estado_deposita] at held
      omega

theorem detentores_aplica (efeito : Efeito R) :
    (s.aplica i efeito).2.detentores user =
      s.detentores user + efeito.pede (.logout (.texto user)) := by
  cases efeito with
  | solicita q =>
      simp only [aplica, detentores, Efeito.pede, List.countP_append, List.countP_singleton,
        decide_eq_true_eq]
      omega
  | _ => rfl

@[simp] theorem detentores_aceita : s.aceita.detentores user = s.detentores user := by
  simp [aceita, detentores, Sessao.peso]

@[simp] theorem detentores_run (q : Producer R) :
    (s.run q).detentores user = s.detentores user := by
  unfold run
  split
  · rfl
  · split
    · simp [detentores_responde, Recado.concede]
    · split <;> rfl

@[simp] theorem contas_run (q : Producer R) : (s.run q).contas = s.contas := by
  unfold run
  split
  · rfl
  · split
    · rfl
    · split <;> rfl

@[simp] theorem contas_aplica (efeito : Efeito R) :
    (s.aplica i efeito).2.contas = s.contas := by
  cases efeito <;> rfl

/-- The flag is held at most once while it is set, and not at all while it is not. -/
def Exclusivo (s : Portal Packet R) : Prop :=
  ∀ user, s.detentores user ≤ if s.contas.ativa user = true then 1 else 0

theorem Exclusivo.of_le (h : s.Exclusivo) (contas : s'.contas = s.contas)
    (less : ∀ user, s'.detentores user ≤ s.detentores user) : s'.Exclusivo := by
  intro user
  rw [contas]
  exact (less user).trans (h user)

theorem detentores_gestor {n : Nat} {p : Solicitacao} (la : s.pedidos[n]? = some (i, p))
    (contas : Contas) (valor : Valor) (user : String) :
    ({ s with pedidos := s.pedidos.eraseIdx n, contas }.responde i
        (.gestor ⟨p, valor⟩)).detentores user +
      (if p = .logout (.texto user) then 1 else 0) =
    s.detentores user +
      if Resposta.concede user ⟨p, valor⟩ = true then 1 else 0 := by
  have taken := Mailbox.countP_eraseIdx la fun x => decide (x.2 = .logout (.texto user))
  rw [detentores_responde, Recado.concede_gestor]
  simp only [decide_eq_true_eq] at taken
  unfold detentores
  dsimp only
  omega

theorem Move.exclusivo (h : s.Move protocolo e r s') (emDia : s.EmDia) (before : s.Exclusivo) :
    s'.Exclusivo := by
  cases h with
  | gestor la =>
      intro user
      exact (gestor_decide _ _).detentores (before user)
        (detentores_gestor la _ _ user)
  | aceita => exact before.of_le rfl fun user => detentores_aceita.le
  | tcp i packet => exact before.of_le rfl fun user => detentores_deposita
  | tcpClosed i => exact before.of_le rfl fun user => detentores_deposita
  | @recebe i sessao sessao' efeito la fez =>
      refine before.of_le (contas_aplica _) fun user => ?_
      have held := detentores_poe la sessao' user
      have less := fez.peso (emDia.soEspera la fez.vivo) user
      rw [detentores_aplica]
      omega
  | morre i =>
      cases la : s.sessoes[i]? with
      | none =>
          rw [poe_none la]
          exact before
      | some sessao =>
          refine before.of_le rfl fun user => ?_
          have held := detentores_poe la .morta user
          simp only [Sessao.peso_morta] at held
          omega
  | @entrega n i m la =>
      refine before.of_le rfl fun user => detentores_deposita.trans ?_
      have taken := Mailbox.countP_eraseIdx la (·.2.concede user)
      unfold detentores
      dsimp only at taken ⊢
      omega
  | producer la => exact before.of_le (contas_run _) fun user => (detentores_run _).le
  | exchange la sucesso => exact before.of_le rfl fun user => detentores_responde.le

theorem Run.exclusivo {t : List (Lance Packet R)} (h : Run protocolo t s) : s.Exclusivo := by
  refine Runs.Run.invariant (fun _ s => s.Exclusivo) h ?_ ?_
  · intro user
    exact Nat.zero_le _
  · intro t s e r s' run before hs
    exact hs.move.exclusivo (Run.emDia run) before

theorem peso_le_detentores {sessao : Sessao Packet} (la : s.sessoes[i]? = some sessao)
    (user : String) : sessao.peso user ≤ s.detentores user := by
  have mine := Mailbox.le_sum la (·.peso user)
  unfold detentores
  omega

/-- Session `i` is live and runs `usersession/3` as the user, and has not sent its logout. -/
def Autenticada (s : Portal Packet R) (i : Nat) (user : String) : Prop :=
  s.estado i = some (.sessao (.texto user))

/-- A granted login reply for the user is under way to a session or in its mailbox. -/
def ConcessaoPendente (s : Portal Packet R) (user : String) : Prop :=
  (∃ x ∈ s.transito, x.2.concede user = true) ∨
    ∃ sessao ∈ s.sessoes, ∃ m ∈ sessao.caixa, m.concede user = true

theorem Autenticada.peso (h : s.Autenticada i user) :
    ∃ sessao, s.sessoes[i]? = some sessao ∧ 1 ≤ sessao.peso user := by
  obtain ⟨sessao, la, running⟩ := Option.map_eq_some_iff.1 h
  refine ⟨sessao, la, ?_⟩
  rw [Sessao.peso, running, if_pos rfl]
  exact Nat.le_add_right 1 _

theorem Autenticada.unica {j : Nat} (hi : s.Autenticada i user) (hj : s.Autenticada j user)
    (held : s.detentores user ≤ 1) : i = j := by
  by_contra other
  obtain ⟨sessao, la, one⟩ := hi.peso
  obtain ⟨outra, la', two⟩ := hj.peso
  have rest := detentores_poe la .morta user
  have still : (s.poe i .morta).sessoes[j]? = some outra := by
    rw [sessoes_poe la, if_neg other, la']
  have more := peso_le_detentores still user
  rw [Sessao.peso_morta] at rest
  omega

theorem ConcessaoPendente.detentores (h : s.ConcessaoPendente user) :
    1 ≤ s.detentores user := by
  cases h with
  | inl sent =>
      obtain ⟨x, hx, granted⟩ := sent
      have some_grant : 0 < s.transito.countP (·.2.concede user) :=
        List.countP_pos_iff.2 ⟨x, hx, granted⟩
      unfold Portal.detentores
      omega
  | inr delivered =>
      obtain ⟨sessao, hs, m, hm, granted⟩ := delivered
      obtain ⟨i, la⟩ := List.getElem?_of_mem hs
      have some_grant : 0 < sessao.caixa.countP (·.concede user) :=
        List.countP_pos_iff.2 ⟨m, hm, granted⟩
      refine le_trans ?_ (peso_le_detentores la user)
      unfold Sessao.peso
      omega

end Portal

/-- In every reachable state each user has at most one live session in `usersession/3` that
has not sent its logout; without the manager's flag the user has none, and no granted reply
is under way. -/
theorem liveSessions {t : List (Lance Packet R)} {s : Portal Packet R}
    (h : Portal.Run protocolo t s) (user : String) :
    (∀ i j, s.Autenticada i user → s.Autenticada j user → i = j) ∧
      (s.contas.ativa user = false →
        (∀ i, ¬s.Autenticada i user) ∧ ¬s.ConcessaoPendente user) := by
  have held := Portal.Run.exclusivo h user
  refine ⟨?_, ?_⟩
  · intro i j hi hj
    refine hi.unica hj (held.trans ?_)
    split_ifs <;> omega
  · intro livre
    rw [livre] at held
    refine ⟨fun i hi => ?_, fun pending => ?_⟩
    · obtain ⟨sessao, la, one⟩ := hi.peso
      exact absurd (one.trans (Portal.peso_le_detentores la user)) (by simpa using held)
    · exact absurd pending.detentores (by simpa using held)

/-- Two connections log in with the same account; the second is refused. -/
def twoLogins : List (Evento (AuthReq ⊕ Decodificada Binary32)) :=
  [.aceita, .aceita, .tcp 0 (.inl ⟨.texto "noite", .texto "mongo"⟩),
    .tcp 1 (.inl ⟨.texto "noite", .texto "mongo"⟩), .recebe 0, .recebe 1, .gestor 0, .gestor 0,
    .entrega 0, .entrega 0, .recebe 0, .recebe 1]

theorem twoLogins_happen : (Portal.corrida .direto twoLogins).isSome := by decide +kernel

theorem liveSessions_noite :
    ∃ (t : List (Lance (AuthReq ⊕ Decodificada Binary32) Binary32))
      (s : Portal (AuthReq ⊕ Decodificada Binary32) Binary32),
      Portal.Run .direto t s ∧ t.length = 12 ∧ s.Autenticada 0 "noite" ∧
        ∀ i, s.Autenticada i "noite" → i = 0 := by
  have run := Portal.run_corrida twoLogins_happen
  have first : ((Portal.corrida .direto twoLogins).get twoLogins_happen).2.estado 0 =
      some (.sessao (.texto "noite")) := by decide +kernel
  exact ⟨_, _, run, by decide +kernel, first,
    fun i hi => (liveSessions run "noite").1 i 0 hi first⟩

end PeerLanding.Frontend
