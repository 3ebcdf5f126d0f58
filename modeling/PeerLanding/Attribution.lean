import PeerLanding.LiveSessions
import PeerLanding.Provenance

/-! Who is behind a request that reaches an exchange. The user's name enters a session with
the manager's grant and is written over the client's own field, so it can be traced back to
a login that the manager has processed. -/

namespace PeerLanding.Frontend

open Exchange

variable {Packet R : Type} {protocolo : Protocolo Packet R}

/-! ### Rewritten requests -/

theorem Termo.encode_eq_some {termo : Termo} {s : String} :
    termo.encode = some s ↔ termo = .texto s := by
  cases termo <;> simp [encode]

/-- The session of `user` has written its name into the message. -/
def Assinada (user : String) (msg : Decodificada R) : Prop :=
  msg.tipo.Pedido ∧ msg.de (.texto user) = msg

theorem assinada_de {msg : Decodificada R} (tipo : msg.tipo.Pedido) (user : String) :
    Assinada user (msg.de (.texto user)) := by
  unfold Assinada Decodificada.de
  split_ifs <;> exact ⟨tipo, rfl⟩

theorem encodeOpcional_some {texto : Termo} {s : Option String}
    (h : encodeOpcional (some texto) = some s) : ∃ nome, texto = .texto nome ∧ s = some nome := by
  obtain ⟨nome, encoded, rfl⟩ := Option.map_eq_some_iff.1 h
  exact ⟨nome, Termo.encode_eq_some.1 encoded, rfl⟩

theorem Assinada.mensagem {user : String} {msg : Decodificada R} {m : Mensagem R}
    (h : Assinada user msg) (sent : msg.encode = some m) : usersession user m = some m := by
  obtain ⟨tipo, juro, quantia, empresa, investidor⟩ := msg
  obtain ⟨pedido, signed⟩ := h
  simp only [Decodificada.encode, Option.bind_eq_bind, Option.bind_eq_some_iff,
    Termo.encode_eq_some] at sent
  obtain ⟨t, rfl, c, hc, i, hi, hm⟩ := sent
  cases hm
  unfold Decodificada.de at signed
  unfold usersession
  simp only [Termo.Pedido, Termo.texto.injEq] at pedido signed
  split_ifs at signed with bid
  · simp only [Decodificada.mk.injEq, true_and] at signed
    obtain ⟨nome, same, rfl⟩ := encodeOpcional_some (signed ▸ hi)
    cases same
    obtain rfl | rfl := bid <;> simp
  · simp only [Decodificada.mk.injEq, true_and, and_true] at signed
    obtain ⟨nome, same, rfl⟩ := encodeOpcional_some (signed ▸ hc)
    cases same
    rw [not_or] at bid
    obtain rfl | rfl | rfl | rfl := pedido <;> simp at bid ⊢

theorem encode_empresa {msg : Decodificada R} {m : Mensagem R} {empresa : Termo}
    (named : msg.empresa = some empresa) (sent : msg.encode = some m) :
    empresa.encode = m.empresa := by
  simp only [Decodificada.encode, Option.bind_eq_bind, Option.bind_eq_some_iff] at sent
  obtain ⟨t, _, c, hc, i, _, hm⟩ := sent
  cases hm
  rw [named] at hc
  obtain ⟨nome, rfl, rfl⟩ := encodeOpcional_some hc
  rfl

/-! ### Where the name comes from -/

/-- The account manager has processed a login of session `i` with the user's stored password,
while the user's flag was not set. -/
def Concedido (t : List (Lance Packet R)) (i : Nat) (user : String) : Prop :=
  ∃ e ∈ t, ∃ n conta, e.label = .gestor n ∧
    e.pre.pedidos[n]? = some (i, .login (.texto user) (.texto conta.password)) ∧
    e.pre.contas user = some conta ∧ conta.ativa = false

/-- An answer that carries a type grants a login that the manager has processed. -/
def Legitima (t : List (Lance Packet R)) (i : Nat) (m : Recado Packet) : Prop :=
  ∀ p tipo, m = .gestor ⟨p, .tipo tipo⟩ →
    ∃ user password, p = .login (.texto user) password ∧ Concedido t i user

/-- A logged-in session has a user whose login has been processed. -/
def Identificada (t : List (Lance Packet R)) (i : Nat) (estado : Estado) : Prop :=
  ∀ username, estado = .sessao username ∨ estado = .logout username →
    ∃ user, username = .texto user ∧ Concedido t i user

/-- Whatever a session or a producer has or has sent belongs to a user whose login has been
processed, and what was sent goes where the table says. -/
abbrev Atribuido (t : List (Lance Packet R)) : Portal Packet R → Prop :=
  Portal.Guarda (Legitima t) (Identificada t)
    (fun p => ∃ user, Concedido t p.sessao user ∧ Assinada user p.msg)
    fun q => ∃ user, Concedido t q.sessao user ∧ usersession user q.mensagem = some q.mensagem ∧
      producer q.mensagem = some q.endereco

section Passos

variable {t : List (Lance Packet R)} {s s' : Portal Packet R} {e : Evento Packet}
  {r : Option (Nat × Escrita)} {i : Nat} {m : Recado Packet} {user : String}

theorem Concedido.mono (h : Concedido t i user) (l : Lance Packet R) :
    Concedido (t ++ [l]) i user := by
  obtain ⟨e, he, granted⟩ := h
  exact ⟨e, List.mem_append_left _ he, granted⟩

theorem Legitima.mono (h : Legitima t i m) (l : Lance Packet R) : Legitima (t ++ [l]) i m := by
  intro p tipo hm
  obtain ⟨user, password, hp, granted⟩ := h p tipo hm
  exact ⟨user, password, hp, granted.mono l⟩

theorem Atribuido.mono (h : Atribuido t s) (l : Lance Packet R) : Atribuido (t ++ [l]) s := by
  refine Portal.Guarda.mono h (fun i m hm => hm.mono l) ?_ ?_ ?_
  · intro i estado state username logged
    obtain ⟨user, hu, granted⟩ := state username logged
    exact ⟨user, hu, granted.mono l⟩
  · rintro p ⟨user, granted, signed⟩
    exact ⟨user, granted.mono l, signed⟩
  · rintro q ⟨user, granted, signed⟩
    exact ⟨user, granted.mono l, signed⟩

theorem identificada_of_not {estado : Estado} (outside : ∀ username, estado ≠ .sessao username)
    (inside : ∀ username, estado ≠ .logout username) : Identificada t i estado := by
  intro username logged
  cases logged with
  | inl session => exact absurd session (outside username)
  | inr leaving => exact absurd leaving (inside username)

theorem Sessao.Recebe.identificada {sessao sessao' : Sessao Packet} {efeito : Efeito R}
    (fez : sessao.Recebe protocolo sessao' efeito) (espera : sessao.SoEspera)
    (estado : Identificada t i sessao.estado) (caixa : ∀ m ∈ sessao.caixa, Legitima t i m) :
    Identificada t i sessao'.estado ∧ ∀ msg, efeito = .spawn msg →
      ∃ user, Concedido t i user ∧ Assinada user msg := by
  cases fez with
  | pede | recusada | termina =>
      exact ⟨identificada_of_not (by simp [Sessao.morta]) (by simp [Sessao.morta]), by simp⟩
  | aceite =>
      obtain rfl := espera.login
      obtain ⟨user, password, hp, granted⟩ := caixa _ (List.mem_cons_self ..) _ _ rfl
      cases hp
      refine ⟨?_, by simp⟩
      intro username logged
      refine ⟨user, ?_, granted⟩
      simpa [eq_comm] using logged
  | pedido fica lido tipo =>
      refine ⟨estado, ?_⟩
      rintro msg ⟨⟩
      obtain ⟨user, rfl, granted⟩ := estado _ (.inl rfl)
      exact ⟨user, granted, assinada_de tipo user⟩
  | sai => exact ⟨fun name logged => estado name (by simpa using logged), by simp⟩
  | escreve => exact ⟨estado, by simp⟩

theorem Decide.concedido {contas : Contas} {p : Solicitacao} {valor : Valor} {tipo n : Nat}
    (h : Decide s.contas p valor contas) (answer : valor = .tipo tipo)
    (here : ⟨s, .gestor n, r, s'⟩ ∈ t) (la : s.pedidos[n]? = some (i, p)) :
    ∃ user password, p = .login (.texto user) password ∧ Concedido t i user := by
  cases h with
  | @concede user conta found livre =>
      exact ⟨user, _, rfl, _, here, n, conta, rfl, la, found, livre⟩
  | liberta found ativa => cases answer
  | recusa livre => cases answer

theorem Portal.Move.atribuido (h : s.Move protocolo e r s') (emDia : s.EmDia)
    (before : Atribuido t s) : Atribuido (t ++ [⟨s, e, r, s'⟩]) s' := by
  have now := before.mono ⟨s, e, r, s'⟩
  have last : ⟨s, e, r, s'⟩ ∈ t ++ [(⟨s, e, r, s'⟩ : Lance Packet R)] :=
    List.mem_append_right _ (List.mem_singleton_self _)
  refine h.guarda now (fun i packet => nofun) (fun i => nofun)
    (fun i => identificada_of_not (by simp) (by simp))
    (fun i => identificada_of_not (by simp) (by simp)) ?_ ?_ (fun _ _ _ _ => nofun) ?_
    (fun _ _ => nofun)
  · intro i sessao sessao' efeito la fez _
    exact fez.identificada (emDia.soEspera la fez.vivo) (now.estados i sessao la)
      (now.caixas i sessao la)
  · rintro n i p rfl la q tipo hm
    simp only [Recado.gestor.injEq, Resposta.mk.injEq] at hm
    obtain ⟨rfl, answer⟩ := hm
    exact (gestor_decide s.contas p).concedido answer last la
  · intro p empresa endereco mensagem hp named rota sent
    obtain ⟨user, granted, signed⟩ := now.producers p hp
    refine ⟨user, granted, signed.mensagem sent, ?_⟩
    rw [Frontend.producer, ← encode_empresa named sent, rota]

end Passos

theorem Portal.Run.atribuido {t : List (Lance Packet R)} {s : Portal Packet R}
    (h : Portal.Run protocolo t s) : Atribuido t s := by
  refine Runs.Run.invariant Atribuido h Portal.guarda_inicial ?_
  intro t s e r s' run before hs
  exact hs.move.atribuido (Portal.Run.emDia run) before

/-! ### The manager's map -/

theorem loop_append (contas : Contas) (c d : List Conversa) :
    loop contas (c ++ d) = loop (loop contas c) d := by
  induction c generalizing contas with
  | nil => rfl
  | cons m c ih => cases m <;> exact ih _

theorem Decide.loop {contas contas' : Contas} {p : Solicitacao} {valor : Valor}
    (h : Decide contas p valor contas') : ∃ c, contas' = loop contas c := by
  cases h with
  | @concede user conta la livre =>
      refine ⟨[.login user conta.password], ?_⟩
      simp [Frontend.loop, Frontend.login, la, livre]
  | @liberta user conta la ativa =>
      refine ⟨[.logout user], ?_⟩
      simp [Frontend.loop, Frontend.logout, la, ativa]
  | recusa livre => exact ⟨[], rfl⟩

theorem Portal.Run.contas {t : List (Lance Packet R)} {s : Portal Packet R}
    (h : Portal.Run protocolo t s) : ∃ c, s.contas = loop accountService c := by
  refine Runs.Run.invariant (fun _ s => ∃ c, s.contas = loop accountService c) h ⟨[], rfl⟩ ?_
  intro t s e r s' run before hs
  have unchanged (same : s'.contas = s.contas) : ∃ c, s'.contas = loop accountService c := by
    rw [same]
    exact before
  cases hs.move with
  | @gestor n i p la =>
      obtain ⟨c, hc⟩ := before
      obtain ⟨d, hd⟩ := (gestor_decide s.contas p).loop
      refine ⟨c ++ d, ?_⟩
      rw [loop_append, ← hc]
      exact hd
  | producer la => exact unchanged (Portal.contas_run _)
  | recebe la fez => exact unchanged (Portal.contas_aplica _)
  | _ => exact unchanged rfl

theorem Concedido.autenticado {t : List (Lance Packet R)} {s : Portal Packet R}
    (run : Portal.Run protocolo t s) {i : Nat} {user : String} (h : Concedido t i user) :
    Autenticado user := by
  obtain ⟨e, he, n, conta, _, _, found, livre⟩ := h
  obtain ⟨u, before, _, _⟩ := run.of_mem he
  obtain ⟨c, hc⟩ := Portal.Run.contas before
  refine ⟨c, conta.password, conta.tipo, ?_⟩
  rw [← hc, login, found]
  simp [livre]

/-- What a producer has sent is what `usersession/3` made of it for an authenticated user. -/
theorem Portal.Run.encaminhada {t : List (Lance Packet R)} {s : Portal Packet R}
    (h : Portal.Run protocolo t s) {q : Enviado R} (hq : q ∈ s.enviados) :
    ∃ user, Encaminhada user q.mensagem q.mensagem q.endereco := by
  obtain ⟨user, granted, signed, route⟩ := (Portal.Run.atribuido h).enviados q hq
  exact ⟨user, granted.autenticado h, signed, route⟩

/-! ### The main result -/

/-- The request is a bid or a loan of the user, or an auction or an emission of it. -/
def DoUtilizador (user : String) (m : Mensagem R) : Prop :=
  (m.tipo = "licitar" ∨ m.tipo = "emprestimo") ∧ m.investidor = some user ∨
    (m.tipo = "leilao" ∨ m.tipo = "emissao") ∧ m.empresa = some user

theorem usersession_doUtilizador {user : String} {m : Mensagem R}
    (h : usersession user m = some m) : DoUtilizador user m := by
  unfold usersession at h
  unfold DoUtilizador
  split_ifs at h with bid loan auction issue
  · exact .inl ⟨.inl bid, (congrArg Mensagem.investidor (Option.some.inj h)).symm⟩
  · exact .inl ⟨.inr loan, (congrArg Mensagem.investidor (Option.some.inj h)).symm⟩
  · exact .inr ⟨.inl auction, (congrArg Mensagem.empresa (Option.some.inj h)).symm⟩
  · exact .inr ⟨.inr issue, (congrArg Mensagem.empresa (Option.some.inj h)).symm⟩

/-- Session `i` takes the manager's grant of its login as the first message, and enters
`usersession/3` with the user of that login. -/
def Entra (e : Lance Packet R) (i : Nat) (username : Termo) : Prop :=
  e.label = .recebe i ∧ ∃ user password tipo caixa, username = .texto user ∧
    e.pre.sessoes[i]? = some ⟨.login username password,
      .gestor ⟨.login username password, .tipo tipo⟩ :: caixa⟩

theorem Sessao.Recebe.entra {sessao sessao' : Sessao Packet} {efeito : Efeito R}
    (h : sessao.Recebe protocolo sessao' efeito) (espera : sessao.SoEspera) {username : Termo}
    (now : sessao'.estado = .sessao username) :
    sessao.estado = .sessao username ∨ ∃ password tipo caixa, sessao =
      ⟨.login username password, .gestor ⟨.login username password, .tipo tipo⟩ :: caixa⟩ := by
  cases h with
  | aceite =>
      obtain rfl := espera.login
      cases now
      exact .inr ⟨_, _, _, rfl⟩
  | pedido fica lido tipo => exact .inl now
  | escreve fica => exact .inl now
  | _ => cases now

theorem Portal.Move.entra {s s' : Portal Packet R} {e : Evento Packet}
    {r : Option (Nat × Escrita)} (h : s.Move protocolo e r s') (emDia : s.EmDia) {i : Nat}
    {username : Termo} (now : s'.estado i = some (.sessao username))
    (before : s.estado i ≠ some (.sessao username)) :
    e = .recebe i ∧ ∃ password tipo caixa, s.sessoes[i]? = some ⟨.login username password,
      .gestor ⟨.login username password, .tipo tipo⟩ :: caixa⟩ := by
  cases h with
  | aceita =>
      obtain same | ⟨_, nova⟩ := Portal.sessoes_aceita (s := s) (j := i)
      · rw [Portal.estado, same] at now
        exact absurd now before
      · rw [Portal.estado, nova] at now
        cases now
  | tcp j packet => exact absurd (Portal.estado_deposita ▸ now) before
  | tcpClosed j => exact absurd (Portal.estado_deposita ▸ now) before
  | @recebe j sessao sessao' efeito la fez =>
      rw [Portal.estado_aplica, Portal.estado_poe la] at now
      split_ifs at now with here
      · subst here
        obtain was | ⟨password, tipo, caixa, grant⟩ :=
          fez.entra (emDia.soEspera la fez.vivo) (Option.some.inj now)
        · rw [Portal.estado, la, Option.map_some, was] at before
          exact absurd rfl before
        · exact ⟨rfl, password, tipo, caixa, grant ▸ la⟩
      · exact absurd now before
  | morre j =>
      cases la : s.sessoes[j]? with
      | none =>
          rw [Portal.poe_none la] at now
          exact absurd now before
      | some sessao =>
          rw [Portal.estado_poe la] at now
          split_ifs at now with here
          · cases now
          · exact absurd now before
  | gestor la => exact absurd now before
  | entrega la => exact absurd (Portal.estado_deposita ▸ now) before
  | producer la =>
      rw [Portal.estado_run] at now
      exact absurd now before
  | exchange la sucesso => exact absurd now before

/-- Every request that an exchange receives names the user of its session, whose login with
the stored password the manager has granted while the flag was not set; and a session enters
`usersession/3` only by taking the manager's grant of its own login. -/
theorem attribution {t : List (Lance Packet R)} {s : Portal Packet R}
    (h : Portal.Run protocolo t s) :
    (∀ q ∈ s.enviados, ∃ user, Concedido t q.sessao user ∧ DoUtilizador user q.mensagem) ∧
      ∀ e ∈ t, ∀ i username, e.post.estado i = some (.sessao username) →
        e.pre.estado i ≠ some (.sessao username) → Entra e i username := by
  refine ⟨?_, ?_⟩
  · intro q hq
    obtain ⟨user, granted, signed, _⟩ := (Portal.Run.atribuido h).enviados q hq
    exact ⟨user, granted, usersession_doUtilizador signed⟩
  · intro e he i username now before
    obtain ⟨u, run, step, _⟩ := h.of_mem he
    obtain ⟨label, password, tipo, caixa, la⟩ :=
      step.move.entra (Portal.Run.emDia run) now before
    have legit := (Portal.Run.atribuido run).caixas i _ la _ (List.mem_cons_self ..)
    obtain ⟨user, _, same, _⟩ := legit _ _ rfl
    cases same
    exact ⟨label, user, _, tipo, caixa, rfl, la⟩

/-- An investor forges the investor of its bid, and the bid reaches the exchange as its own. -/
def forgedBid : List (Evento (AuthReq ⊕ Decodificada Binary32)) :=
  [.aceita, .tcp 0 (.inl ⟨.texto "noite", .texto "mongo"⟩), .recebe 0, .gestor 0, .entrega 0,
    .recebe 0, .tcp 0 (.inr ⟨.texto "licitar", some (.intBitsToFloat 0x3f800000), some 100,
      some (.texto "CanecaLda"), some (.texto "sapin")⟩), .recebe 0, .producer 0]

theorem forgedBid_happens : (Portal.corrida .direto forgedBid).isSome := by decide +kernel

theorem attribution_forged :
    ∃ (t : List (Lance (AuthReq ⊕ Decodificada Binary32) Binary32))
      (s : Portal (AuthReq ⊕ Decodificada Binary32) Binary32) (q : Enviado Binary32),
      Portal.Run .direto t s ∧ s.enviados = [q] ∧ q.mensagem.tipo = "licitar" ∧
        q.mensagem.investidor = some "noite" ∧
        ∃ user, Concedido t q.sessao user ∧ DoUtilizador user q.mensagem := by
  have run := Portal.run_corrida forgedBid_happens
  have sent : ((Portal.corrida .direto forgedBid).get forgedBid_happens).2.enviados =
      [⟨0, 0, "tcp://localhost:4000", "licitar", some (.intBitsToFloat 0x3f800000), some 100,
        some "CanecaLda", some "noite"⟩] := by decide +kernel
  refine ⟨_, _, _, run, sent, rfl, rfl, ?_⟩
  exact (attribution run).1 _ (by rw [sent]; exact List.mem_singleton_self _)

end PeerLanding.Frontend
