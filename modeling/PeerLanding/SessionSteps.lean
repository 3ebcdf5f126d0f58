import PeerLanding.Sessions

/-! What one receive does to a session, and what one step does to the front-end. -/

namespace PeerLanding.Frontend

open Exchange

variable {Packet R : Type} {protocolo : Protocolo Packet R}

def Contas.ativa (contas : Contas) (user : String) : Bool := (contas user).any (·.ativa)

section Contas

variable {contas : Contas} {user outro : String} {conta : Conta}

theorem Contas.ativa_of_some (h : contas user = some conta) :
    contas.ativa user = conta.ativa := by
  rw [ativa, h, Option.any_some]

@[simp] theorem Contas.ativa_update_self :
    Contas.ativa (Function.update contas user (some conta)) user = conta.ativa := by
  rw [ativa, Function.update_self, Option.any_some]

theorem Contas.ativa_update_of_ne (h : outro ≠ user) :
    Contas.ativa (Function.update contas outro (some conta)) user = contas.ativa user := by
  rw [ativa, Function.update_of_ne h.symm, ativa]

end Contas

/-- A request to the manager is granted, ends a session, or is answered `invalid`. -/
inductive Decide (contas : Contas) : Solicitacao → Valor → Contas → Prop
  | concede {user : String} {conta : Conta} (la : contas user = some conta)
      (livre : conta.ativa = false) :
      Decide contas (.login (.texto user) (.texto conta.password)) (.tipo conta.tipo)
        (Function.update contas user (some { conta with ativa := true }))
  | liberta {user : String} {conta : Conta} (la : contas user = some conta)
      (ativa : conta.ativa = true) :
      Decide contas (.logout (.texto user)) .ok
        (Function.update contas user (some { conta with ativa := false }))
  | recusa {p : Solicitacao}
      (livre : ∀ user, p = .logout (.texto user) → contas.ativa user = false) :
      Decide contas p .invalid contas

theorem gestor_decide (contas : Contas) (p : Solicitacao) :
    Decide contas p (gestor contas p).1 (gestor contas p).2 := by
  cases p with
  | login user password =>
      have denied (h : gestor contas (.login user password) = (.invalid, contas)) :
          Decide contas (.login user password) (gestor contas (.login user password)).1
            (gestor contas (.login user password)).2 := by
        rw [h]
        exact .recusa (by simp)
      cases user with
      | outro => exact denied rfl
      | texto user =>
          cases password with
          | outro => exact denied rfl
          | texto password =>
              cases la : contas user with
              | none => exact denied (by simp [gestor, login, la])
              | some conta =>
                  by_cases granted : conta.password = password ∧ conta.ativa = false
                  · have answer : gestor contas (.login (.texto user) (.texto password)) =
                        (.tipo conta.tipo,
                          Function.update contas user (some { conta with ativa := true })) := by
                      simp [gestor, login, la, granted]
                    rw [answer, ← granted.1]
                    exact .concede la granted.2
                  · exact denied (by simp [gestor, login, la, granted])
  | logout user =>
      cases user with
      | outro => exact .recusa (by simp)
      | texto user =>
          by_cases ativa : contas.ativa user = true
          · obtain ⟨conta, la, ativa⟩ := (Option.any_eq_true _ _).1 ativa
            have answer : gestor contas (.logout (.texto user)) =
                (.ok, Function.update contas user (some { conta with ativa := false })) := by
              simp [gestor, logout, la, ativa]
            rw [answer]
            exact .liberta la ativa
          · have answer : gestor contas (.logout (.texto user)) = (.invalid, contas) := by
              cases la : contas user <;> simp_all [gestor, logout, Contas.ativa]
            rw [answer]
            refine .recusa ?_
            intro u hu
            cases hu
            simpa using ativa

/-- The `tipo` of a request that `usersession/3` hands to a producer. -/
def Termo.Pedido (tipo : Termo) : Prop :=
  tipo = .texto "licitar" ∨ tipo = .texto "emprestimo" ∨ tipo = .texto "leilao" ∨
    tipo = .texto "emissao"

instance (tipo : Termo) : Decidable tipo.Pedido := inferInstanceAs (Decidable (_ ∨ _))

/-- The request for the producer: bids and loans name the user as the investor, auctions and
emissions as the company. -/
def Decodificada.de (username : Termo) (msg : Decodificada R) : Decodificada R :=
  if msg.tipo = .texto "licitar" ∨ msg.tipo = .texto "emprestimo" then
    { msg with investidor := some username }
  else { msg with empresa := some username }

theorem Sessao.pedido_eq (username : Termo) (msg : Decodificada R) :
    pedido username msg =
      if msg.tipo.Pedido then (.sessao username, .spawn (msg.de username))
      else if msg.tipo = .texto "logout" then (.logout username, .solicita (.logout username))
      else (.fim, .nada) := by
  unfold pedido Termo.Pedido Decodificada.de
  split_ifs <;> simp_all

inductive Sessao.Recebe (protocolo : Protocolo Packet R) :
    Sessao Packet → Sessao Packet → Efeito R → Prop
  | pede {packet : Packet} {authReq : AuthReq} {caixa : List (Recado Packet)}
      (lido : protocolo.authReq packet = some authReq) :
      Recebe protocolo ⟨.autentica, .tcp packet :: caixa⟩
        ⟨.login authReq.username authReq.password, caixa⟩
        (.solicita (.login authReq.username authReq.password))
  | recusada {user password : Termo} {p : Solicitacao} {caixa : List (Recado Packet)} :
      Recebe protocolo ⟨.login user password, .gestor ⟨p, .invalid⟩ :: caixa⟩
        ⟨.autentica, caixa⟩ (.send (.authRep false 0))
  | aceite {user password : Termo} {p : Solicitacao} {tipo : Nat}
      {caixa : List (Recado Packet)} :
      Recebe protocolo ⟨.login user password, .gestor ⟨p, .tipo tipo⟩ :: caixa⟩
        ⟨.sessao user, caixa⟩ (.send (.authRep true tipo))
  | pedido {user : Termo} {packet : Packet} {msg : Decodificada R}
      {antes depois : List (Recado Packet)}
      (fica : ∀ m ∈ antes, usersession3 protocolo user m = none)
      (lido : protocolo.mensagem packet = some msg) (tipo : msg.tipo.Pedido) :
      Recebe protocolo ⟨.sessao user, antes ++ .tcp packet :: depois⟩
        ⟨.sessao user, antes ++ depois⟩ (.spawn (msg.de user))
  | sai {user : Termo} {packet : Packet} {msg : Decodificada R}
      {antes depois : List (Recado Packet)}
      (fica : ∀ m ∈ antes, usersession3 protocolo user m = none)
      (lido : protocolo.mensagem packet = some msg) (tipo : msg.tipo = .texto "logout") :
      Recebe protocolo ⟨.sessao user, antes ++ .tcp packet :: depois⟩
        ⟨.logout user, antes ++ depois⟩ (.solicita (.logout user))
  | escreve {user : Termo} {pid : Nat} {sucesso : Bool} {antes depois : List (Recado Packet)}
      (fica : ∀ m ∈ antes, usersession3 protocolo user m = none) :
      Recebe protocolo ⟨.sessao user, antes ++ .producer pid sucesso :: depois⟩
        ⟨.sessao user, antes ++ depois⟩ (.send (.reply sucesso))
  | termina {sessao : Sessao Packet} {m : Recado Packet} {antes depois : List (Recado Packet)}
      (caixa : sessao.caixa = antes ++ m :: depois)
      (fica : ∀ b ∈ antes, trata protocolo sessao.estado b = none)
      (fim : trata protocolo sessao.estado m = some (.fim, .nada)) :
      Recebe protocolo sessao .morta .nada

theorem Sessao.nada_of_fim {estado : Estado} {m : Recado Packet} {efeito : Efeito R}
    (h : trata protocolo estado m = some (.fim, efeito)) : efeito = .nada := by
  cases estado with
  | autentica =>
      cases m with
      | tcp packet =>
          cases lido : protocolo.authReq packet <;> simp_all [trata, usersession2]
      | _ => simp_all [trata, usersession2]
  | login user password =>
      cases m with
      | gestor resposta =>
          obtain ⟨p, valor⟩ := resposta
          cases valor <;> simp_all [trata, login]
      | _ => simp_all [trata, login]
  | sessao user =>
      cases m with
      | tcp packet =>
          cases lido : protocolo.mensagem packet with
          | none => simp_all [trata, usersession3]
          | some msg =>
              simp only [trata, usersession3, lido, pedido_eq, Option.some.injEq] at h
              split_ifs at h
              · cases h
              · cases h
              · cases h
                rfl
      | _ => simp_all [trata, usersession3]
  | logout user => simp_all [trata]
  | fim => cases h

theorem Sessao.sem_antes {estado : Estado} {antes : List (Recado Packet)}
    (fica : ∀ b ∈ antes, trata protocolo estado b = none)
    (outro : ∀ user, estado ≠ .sessao user) (vivo : estado ≠ .fim) : antes = [] := by
  cases antes with
  | nil => rfl
  | cons b antes =>
      have skipped := fica b (List.mem_cons_self ..)
      cases estado with
      | sessao user => exact absurd rfl (outro user)
      | fim => exact absurd rfl vivo
      | _ => cases skipped

theorem Sessao.recebe_spec {sessao sessao' : Sessao Packet} {efeito : Efeito R}
    (h : sessao.recebe protocolo = some (sessao', efeito)) :
    Recebe protocolo sessao sessao' efeito := by
  obtain ⟨estado, caixa⟩ := sessao
  unfold recebe at h
  rw [Option.map_eq_some_iff] at h
  obtain ⟨⟨⟨novo, feito⟩, resto⟩, taken, heq⟩ := h
  obtain ⟨antes, m, depois, rfl, rfl, treated, fica⟩ := Mailbox.receive_eq_some taken
  rw [Prod.mk.injEq] at heq
  obtain ⟨rfl, rfl⟩ := heq
  by_cases hfim : novo = .fim
  · subst hfim
    obtain rfl := nada_of_fim treated
    rw [if_pos rfl]
    exact .termina rfl fica treated
  · rw [if_neg hfim]
    cases estado with
    | autentica =>
        obtain rfl := sem_antes fica (by simp) (by simp)
        cases m with
        | tcp packet =>
            cases lido : protocolo.authReq packet with
            | none => simp_all [trata, usersession2]
            | some authReq =>
                simp only [trata, usersession2, lido, Option.some.injEq, Prod.mk.injEq] at treated
                obtain ⟨rfl, rfl⟩ := treated
                exact .pede lido
        | _ => simp_all [trata, usersession2]
    | login user password =>
        obtain rfl := sem_antes fica (by simp) (by simp)
        cases m with
        | gestor resposta =>
            obtain ⟨p, valor⟩ := resposta
            cases valor with
            | tipo tipo =>
                simp only [trata, login, Option.some.injEq, Prod.mk.injEq] at treated
                obtain ⟨rfl, rfl⟩ := treated
                exact .aceite
            | invalid =>
                simp only [trata, login, Option.some.injEq, Prod.mk.injEq] at treated
                obtain ⟨rfl, rfl⟩ := treated
                exact .recusada
            | ok => simp_all [trata, login]
        | _ => simp_all [trata, login]
    | sessao user =>
        cases m with
        | tcp packet =>
            cases lido : protocolo.mensagem packet with
            | none => simp_all [trata, usersession3]
            | some msg =>
                simp only [trata, usersession3, lido, pedido_eq, Option.some.injEq] at treated
                split_ifs at treated with tipo sair
                · cases treated
                  exact .pedido fica lido tipo
                · cases treated
                  exact .sai fica lido sair
                · cases treated
                  exact absurd rfl hfim
        | producer pid sucesso =>
            simp only [trata, usersession3, Option.some.injEq, Prod.mk.injEq] at treated
            obtain ⟨rfl, rfl⟩ := treated
            exact .escreve fica
        | _ => simp_all [trata, usersession3]
    | logout user => simp_all [trata]
    | fim => cases treated

namespace Portal

variable {s : Portal Packet R} {i j : Nat} {m : Recado Packet} {sessao : Sessao Packet}

theorem sessoes_aceita : s.aceita.sessoes[j]? = s.sessoes[j]? ∨
    s.sessoes[j]? = none ∧ s.aceita.sessoes[j]? = some ⟨.autentica, []⟩ := by
  unfold aceita
  by_cases hj : j < s.sessoes.length
  · exact .inl (List.getElem?_append_left hj)
  · by_cases new : j = s.sessoes.length
    · right
      simp [new]
    · left
      have beyond : s.sessoes.length < j := by omega
      rw [List.getElem?_eq_none (by simp; omega), List.getElem?_eq_none (by omega)]

theorem sessoes_poe (la : s.sessoes[i]? = some sessao) (novo : Sessao Packet) :
    (s.poe i novo).sessoes[j]? = if i = j then some novo else s.sessoes[j]? := by
  have inside := (List.getElem?_eq_some_iff.1 la).1
  unfold poe
  rw [List.getElem?_set]
  split_ifs <;> simp_all

theorem poe_none (la : s.sessoes[i]? = none) (novo : Sessao Packet) : s.poe i novo = s := by
  unfold poe
  rw [List.set_eq_of_length_le (List.getElem?_eq_none_iff.1 la)]

theorem deposita_some (la : s.sessoes[i]? = some sessao) (m : Recado Packet) :
    s.deposita i m = s.poe i (sessao.deposita m) := by
  unfold deposita poe
  rw [List.modify_eq_set_getElem?, la]
  rfl

theorem deposita_none (la : s.sessoes[i]? = none) (m : Recado Packet) : s.deposita i m = s := by
  unfold deposita
  rw [List.modify_eq_self (List.getElem?_eq_none_iff.1 la)]

end Portal

theorem Sessao.Recebe.vivo {sessao sessao' : Sessao Packet} {efeito : Efeito R}
    (h : sessao.Recebe protocolo sessao' efeito) : sessao.estado ≠ .fim := by
  cases h with
  | termina caixa fica fim =>
      intro dead
      rw [dead] at fim
      cases fim
  | _ => simp

inductive Portal.Move (protocolo : Protocolo Packet R) (s : Portal Packet R) :
    Evento Packet → Option (Nat × Escrita) → Portal Packet R → Prop
  | aceita : Move protocolo s .aceita none s.aceita
  | tcp (i : Nat) (packet : Packet) :
      Move protocolo s (.tcp i packet) none (s.deposita i (.tcp packet))
  | tcpClosed (i : Nat) : Move protocolo s (.tcpClosed i) none (s.deposita i .tcpClosed)
  | recebe {i : Nat} {sessao sessao' : Sessao Packet} {efeito : Efeito R}
      (la : s.sessoes[i]? = some sessao) (fez : sessao.Recebe protocolo sessao' efeito) :
      Move protocolo s (.recebe i) ((s.poe i sessao').aplica i efeito).1
        ((s.poe i sessao').aplica i efeito).2
  | morre (i : Nat) : Move protocolo s (.morre i) none (s.poe i .morta)
  | gestor {n i : Nat} {p : Solicitacao} (la : s.pedidos[n]? = some (i, p)) :
      Move protocolo s (.gestor n) none
        ({ s with pedidos := s.pedidos.eraseIdx n, contas := (gestor s.contas p).2 }.responde i
          (.gestor ⟨p, (gestor s.contas p).1⟩))
  | entrega {n i : Nat} {m : Recado Packet} (la : s.transito[n]? = some (i, m)) :
      Move protocolo s (.entrega n) none
        ({ s with transito := s.transito.eraseIdx n }.deposita i m)
  | producer {n : Nat} {p : Producer R} (la : s.producers[n]? = some p) :
      Move protocolo s (.producer n) none ({ s with producers := s.producers.eraseIdx n }.run p)
  | exchange {n : Nat} {q : Enviado R} (la : s.enviados[n]? = some q) (sucesso : Bool) :
      Move protocolo s (.exchange n sucesso) none
        ({ s with enviados := s.enviados.eraseIdx n }.responde q.sessao
          (.producer q.pid sucesso))

theorem Portal.Passa.move {s s' : Portal Packet R} {e : Evento Packet}
    {r : Option (Nat × Escrita)} (h : s.Passa protocolo e r s') : s.Move protocolo e r s' := by
  unfold Passa at h
  cases e with
  | aceita =>
      cases h
      exact .aceita
  | tcp i packet =>
      cases h
      exact .tcp i packet
  | tcpClosed i =>
      cases h
      exact .tcpClosed i
  | recebe i =>
      simp only [proximo] at h
      cases la : s.sessoes[i]? with
      | none => simp [la] at h
      | some sessao =>
          simp only [la, Option.map_eq_some_iff] at h
          obtain ⟨⟨sessao', efeito⟩, took, heq⟩ := h
          have seen := Move.recebe la (Sessao.recebe_spec took)
          rw [heq] at seen
          exact seen
  | morre i =>
      cases h
      exact .morre i
  | gestor n =>
      simp only [proximo] at h
      cases la : s.pedidos[n]? with
      | none => simp [la] at h
      | some x =>
          simp only [la] at h
          cases h
          exact .gestor la
  | entrega n =>
      simp only [proximo] at h
      cases la : s.transito[n]? with
      | none => simp [la] at h
      | some x =>
          simp only [la] at h
          cases h
          exact .entrega la
  | producer n =>
      simp only [proximo] at h
      cases la : s.producers[n]? with
      | none => simp [la] at h
      | some p =>
          simp only [la] at h
          cases h
          exact .producer la
  | exchange n sucesso =>
      simp only [proximo] at h
      cases la : s.enviados[n]? with
      | none => simp [la] at h
      | some q =>
          simp only [la] at h
          cases h
          exact .exchange la sucesso

end PeerLanding.Frontend
