import PeerLanding.Attribution
import PeerLanding.Identity
import PeerLanding.LockedAccounts

/-! Which request a reply on a client's socket answers. Every request of a session runs in a
process of its own, and the reply that comes back carries no number: it can be traced by the
pid of that process, which the session does not see. -/

namespace PeerLanding.Frontend

open Exchange

variable {Packet R : Type} {protocolo : Protocolo Packet R}

/-! ### What a run shows of the requests of one session -/

def Recado.remetente : Recado Packet → Option Nat
  | .producer pid _ => some pid
  | _ => none

def Sessao.toma (protocolo : Protocolo Packet R) (sessao : Sessao Packet) : Option Nat :=
  (sessao.caixa.find? fun m => (trata protocolo sessao.estado m).isSome).bind Recado.remetente

def Efeito.novo : Efeito R → Option (Decodificada R)
  | .spawn msg => some msg
  | _ => none

def Efeito.resposta : Efeito R → Option Bool
  | .send (.reply sucesso) => some sucesso
  | _ => none

namespace Lance

/-- The request that session `i` hands to a new producer, with the producer's pid. -/
def pedido (i : Nat) (e : Lance Packet R) : Option (Nat × Decodificada R) :=
  if e.pre.novoPid < e.post.novoPid then
    (e.post.producers.getLast?.filter (·.sessao = i)).map fun p => (p.pid, p.msg)
  else none

def escrita (i : Nat) (e : Lance Packet R) : Option Bool :=
  match e.result with
  | some (j, .reply sucesso) => if j = i then some sucesso else none
  | _ => none

/-- The answer that a producer gets, from its exchange, or gives itself, for a company that is
not in the table. -/
def veredicto (e : Lance Packet R) : Option (Nat × Bool) :=
  match e.label with
  | .exchange n sucesso => (e.pre.enviados[n]?).map fun q => (q.pid, sucesso)
  | .producer n =>
      (e.pre.producers[n]?).bind fun p => p.msg.empresa.bind fun empresa =>
        if empresa.encode.bind (empresas.lookup ·) = none then some (p.pid, false) else none
  | _ => none

def respondido (protocolo : Protocolo Packet R) (i : Nat) (e : Lance Packet R) : Option Nat :=
  (e.escrita i).bind fun _ => (e.pre.sessoes[i]?).bind (Sessao.toma protocolo)

end Lance

def pedidos (i : Nat) (t : List (Lance Packet R)) : List (Nat × Decodificada R) :=
  t.filterMap (Lance.pedido i)

def escritas (i : Nat) (t : List (Lance Packet R)) : List Bool := t.filterMap (Lance.escrita i)

def veredictos (t : List (Lance Packet R)) : List (Nat × Bool) := t.filterMap Lance.veredicto

def respondidos (protocolo : Protocolo Packet R) (i : Nat) (t : List (Lance Packet R)) :
    List Nat :=
  t.filterMap (Lance.respondido protocolo i)

section Concat

variable (i : Nat) (t : List (Lance Packet R)) (e : Lance Packet R)

theorem pedidos_concat : pedidos i (t ++ [e]) = pedidos i t ++ (e.pedido i).toList := by
  cases h : e.pedido i <;> simp [pedidos, h]

theorem escritas_concat : escritas i (t ++ [e]) = escritas i t ++ (e.escrita i).toList := by
  cases h : e.escrita i <;> simp [escritas, h]

theorem veredictos_concat : veredictos (t ++ [e]) = veredictos t ++ e.veredicto.toList := by
  cases h : e.veredicto <;> simp [veredictos, h]

theorem respondidos_concat (protocolo : Protocolo Packet R) :
    respondidos protocolo i (t ++ [e]) =
      respondidos protocolo i t ++ (e.respondido protocolo i).toList := by
  cases h : e.respondido protocolo i <;> simp [respondidos, h]

end Concat

def Recado.de (pid : Nat) (m : Recado Packet) : Bool := decide (m.remetente = some pid)

/-- The requests of session `i` with this pid that are under way: with their producer, at an
exchange, or answered and not yet taken. -/
def Portal.curso (s : Portal Packet R) (i pid : Nat) : Nat :=
  s.producers.countP (fun p => decide (p.sessao = i ∧ p.pid = pid)) +
    s.enviados.countP (fun q => decide (q.sessao = i ∧ q.pid = pid)) +
    s.transito.countP (fun x => decide (x.1 = i) && x.2.de pid) +
    (s.caixa i).countP (·.de pid)

/-- Nothing of session `i` is under way. -/
def Portal.Sossegada (s : Portal Packet R) (i : Nat) : Prop := ∀ pid, s.curso i pid = 0

/-! ### One step -/

section Passos

variable {s s' : Portal Packet R} {e : Evento Packet} {r : Option (Nat × Escrita)}
  {i j pid : Nat} {m : Recado Packet} {sessao sessao' : Sessao Packet} {efeito : Efeito R}

@[simp] theorem Lance.pedido_of_novoPid (same : s'.novoPid = s.novoPid) :
    Lance.pedido i ⟨s, e, r, s'⟩ = none := by
  simp [Lance.pedido, same]

@[simp] theorem Lance.respondido_of_escrita {l : Lance Packet R} (h : l.escrita i = none) :
    l.respondido protocolo i = none := by
  simp [Lance.respondido, h]

namespace Portal

@[simp] theorem novoPid_poe (novo : Sessao Packet) : (s.poe i novo).novoPid = s.novoPid := rfl

theorem curso_poe (la : s.sessoes[j]? = some sessao) (novo : Sessao Packet) (i pid : Nat) :
    (s.poe j novo).curso i pid + (if j = i then sessao.caixa.countP (·.de pid) else 0) =
      s.curso i pid + if j = i then novo.caixa.countP (·.de pid) else 0 := by
  unfold curso
  rw [caixa_poe la]
  split_ifs with hj
  · subst hj
    simp [poe, caixa_of_some la]
    omega
  · simp [poe]

theorem curso_deposita_le : (s.deposita j m).curso i pid ≤
    s.curso i pid + if j = i ∧ m.de pid = true then 1 else 0 := by
  cases la : s.sessoes[j]? with
  | none =>
      rw [deposita_none la]
      exact Nat.le_add_right _ _
  | some sessao =>
      have count := curso_poe la (sessao.deposita m) i pid
      have more := sessao.countP_deposita m (·.de pid)
      rw [deposita_some la]
      by_cases hj : j = i
      · simp only [hj, if_true, true_and] at *
        omega
      · simp only [hj, if_false, false_and] at *
        omega

theorem curso_deposita {estado : Estado} (vivo : s.estado i = some estado)
    (aberto : estado ≠ .fim) : (s.deposita j m).curso i pid =
      s.curso i pid + if j = i ∧ m.de pid = true then 1 else 0 := by
  cases la : s.sessoes[j]? with
  | none =>
      rw [deposita_none la, if_neg]
      · rfl
      · rintro ⟨rfl, _⟩
        simp [Portal.estado, la] at vivo
  | some sessao =>
      have count := curso_poe la (sessao.deposita m) i pid
      rw [deposita_some la]
      by_cases hj : j = i
      · subst hj
        rw [estado_of_some la, Option.some.injEq] at vivo
        rw [Sessao.deposita, if_neg (vivo ▸ aberto)] at count ⊢
        simp only [if_true, true_and, List.countP_append, List.countP_singleton] at *
        omega
      · simp only [hj, if_false, false_and] at *
        omega

theorem curso_responde : (s.responde j m).curso i pid =
    s.curso i pid + if j = i ∧ m.de pid = true then 1 else 0 := by
  unfold curso caixa responde
  simp only [List.countP_append, List.countP_singleton, Bool.and_eq_true, decide_eq_true_eq]
  omega

theorem curso_entrega_le {n : Nat} (la : s.transito[n]? = some (j, m)) :
    ({ s with transito := s.transito.eraseIdx n }.deposita j m).curso i pid ≤
      s.curso i pid := by
  have count := Mailbox.countP_eraseIdx la fun x => decide (x.1 = i) && x.2.de pid
  refine curso_deposita_le.trans ?_
  simp only [Bool.and_eq_true, decide_eq_true_eq] at count
  unfold curso caixa
  dsimp only
  omega

theorem curso_entrega {n : Nat} (la : s.transito[n]? = some (j, m)) {estado : Estado}
    (vivo : s.estado i = some estado) (aberto : estado ≠ .fim) :
    ({ s with transito := s.transito.eraseIdx n }.deposita j m).curso i pid = s.curso i pid := by
  have count := Mailbox.countP_eraseIdx la fun x => decide (x.1 = i) && x.2.de pid
  simp only [Bool.and_eq_true, decide_eq_true_eq] at count
  refine (curso_deposita ?_ aberto).trans ?_
  · exact vivo
  unfold curso caixa
  dsimp only
  omega

end Portal

/-- A reply is written for the message of a producer; otherwise none of these is taken, unless
the session ends. -/
theorem Sessao.Recebe.conta (fez : sessao.Recebe protocolo sessao' efeito) :
    (∃ p sucesso username, efeito.resposta = some sucesso ∧ efeito.novo = none ∧
      sessao.toma protocolo = some p ∧ .producer p sucesso ∈ sessao.caixa ∧
      sessao'.estado = .sessao username ∧
      ∀ pid, sessao'.caixa.countP (·.de pid) + (if p = pid then 1 else 0) =
        sessao.caixa.countP (·.de pid)) ∨
    efeito.resposta = none ∧
      ((∀ pid, sessao'.caixa.countP (·.de pid) = sessao.caixa.countP (·.de pid)) ∨
        sessao' = .morta ∧ efeito.novo = none) := by
  cases fez with
  | @escreve username p sucesso antes depois fica =>
      left
      have skipped : antes.find? (fun m => (usersession3 protocolo username m).isSome) = none := by
        simpa [Option.isSome_iff_ne_none] using fica
      have taken : (usersession3 protocolo username (.producer p sucesso)).isSome = true := rfl
      refine ⟨p, sucesso, username, rfl, rfl, ?_, by simp, rfl, ?_⟩
      · simp [toma, trata, List.find?_append, skipped, taken, Recado.remetente]
      · intro pid
        simp [List.countP_cons, Recado.de, Recado.remetente]
        omega
  | termina caixa fica fim => exact .inr ⟨rfl, .inr ⟨rfl, rfl⟩⟩
  | _ =>
      right
      refine ⟨rfl, .inl ?_⟩
      intro pid
      simp [Recado.de, Recado.remetente]

namespace Portal

theorem novoPid_aplica (efeito : Efeito R) :
    (s.aplica j efeito).2.novoPid = s.novoPid + efeito.novo.toList.length := by
  cases efeito <;> rfl

theorem curso_aplica (efeito : Efeito R) : (s.aplica j efeito).2.curso i pid = s.curso i pid +
    if efeito.novo.isSome = true ∧ j = i ∧ s.novoPid = pid then 1 else 0 := by
  cases efeito with
  | spawn msg =>
      simp only [aplica, curso, caixa, List.countP_append, List.countP_singleton,
        decide_eq_true_eq, Efeito.novo, Option.isSome_some, true_and]
      omega
  | _ => simp [aplica, curso, caixa, Efeito.novo]

theorem pedido_recebe (j : Nat) (novo : Sessao Packet) (efeito : Efeito R) :
    Lance.pedido i ⟨s, e, r, ((s.poe j novo).aplica j efeito).2⟩ =
      if j = i then efeito.novo.map fun msg => (s.novoPid, msg) else none := by
  cases efeito with
  | spawn msg =>
      by_cases hj : j = i <;> simp [Lance.pedido, aplica, poe, Option.filter, Efeito.novo, hj]
  | _ =>
      rw [Lance.pedido_of_novoPid (by rfl)]
      simp [Efeito.novo]

theorem escrita_recebe (j : Nat) (novo : Sessao Packet) (efeito : Efeito R)
    (s' : Portal Packet R) :
    Lance.escrita i ⟨s, e, ((s.poe j novo).aplica j efeito).1, s'⟩ =
      if j = i then efeito.resposta else none := by
  cases efeito with
  | send escrita => cases escrita <;> simp [Lance.escrita, aplica, Efeito.resposta]
  | _ => simp [Lance.escrita, aplica, Efeito.resposta]

theorem respondido_recebe (protocolo : Protocolo Packet R) (la : s.sessoes[j]? = some sessao)
    (novo : Sessao Packet) (efeito : Efeito R) (s' : Portal Packet R) :
    Lance.respondido protocolo i ⟨s, e, ((s.poe j novo).aplica j efeito).1, s'⟩ =
      if j = i then efeito.resposta.bind fun _ => sessao.toma protocolo else none := by
  rw [Lance.respondido, escrita_recebe]
  split_ifs with hj
  · subst hj
    rw [la]
    rfl
  · rfl

@[simp] theorem novoPid_run (p : Producer R) : (s.run p).novoPid = s.novoPid := by
  have ran := s.run_corre p
  generalize s.run p = fim at ran ⊢
  cases ran <;> rfl

theorem curso_aceita : s.aceita.curso i pid = s.curso i pid := by
  have same : s.aceita.caixa i = s.caixa i := by
    unfold caixa
    cases sessoes_aceita (s := s) (j := i) with
    | inl same => rw [same]
    | inr nova =>
        rw [nova.1, nova.2]
        rfl
  unfold curso
  rw [same]
  rfl

theorem curso_morre_le : (s.poe j .morta).curso i pid ≤ s.curso i pid := by
  cases la : s.sessoes[j]? with
  | none => rw [poe_none la]
  | some sessao =>
      have count := curso_poe la .morta i pid
      simp only [Sessao.morta, List.countP_nil, ite_self] at count
      exact Nat.le.intro count

theorem curso_gestor {n : Nat} {p : Solicitacao} (contas : Contas) (valor : Valor) :
    ({ s with pedidos := s.pedidos.eraseIdx n, contas }.responde j
      (.gestor ⟨p, valor⟩)).curso i pid = s.curso i pid := by
  rw [curso_responde]
  simp [Recado.de, Recado.remetente, curso, caixa]

theorem curso_exchange {n : Nat} {q : Enviado R} (la : s.enviados[n]? = some q)
    (sucesso : Bool) :
    ({ s with enviados := s.enviados.eraseIdx n }.responde q.sessao
      (.producer q.pid sucesso)).curso i pid = s.curso i pid := by
  have count := Mailbox.countP_eraseIdx la fun q => decide (q.sessao = i ∧ q.pid = pid)
  rw [curso_responde]
  simp only [Recado.de, Recado.remetente, decide_eq_true_eq, Option.some.injEq] at count ⊢
  unfold curso caixa
  dsimp only
  omega

theorem curso_run {n : Nat} {p : Producer R} (la : s.producers[n]? = some p) :
    ({ s with producers := s.producers.eraseIdx n }.run p).curso i pid ≤ s.curso i pid ∧
      ((p.sessao = i → p.pid = pid → p.msg.Atendivel) →
        ({ s with producers := s.producers.eraseIdx n }.run p).curso i pid =
          s.curso i pid) := by
  have count := Mailbox.countP_eraseIdx la fun q => decide (q.sessao = i ∧ q.pid = pid)
  have ran := run_corre { s with producers := s.producers.eraseIdx n } p
  generalize Portal.run { s with producers := s.producers.eraseIdx n } p = fim at ran ⊢
  simp only [decide_eq_true_eq] at count
  cases ran with
  | falha fails =>
      refine ⟨?_, fun fine => ?_⟩
      · unfold curso caixa
        dsimp only
        omega
      · rw [if_neg fun mine => fails (fine mine.1 mine.2)] at count
        unfold curso caixa
        dsimp only
        omega
  | recusa named fora =>
      rw [curso_responde]
      simp only [Recado.de, Recado.remetente, decide_eq_true_eq, Option.some.injEq]
      have same : curso { s with producers := s.producers.eraseIdx n } i pid +
          (if p.sessao = i ∧ p.pid = pid then 1 else 0) = s.curso i pid := by
        unfold curso caixa
        dsimp only
        omega
      exact ⟨same.le, fun _ => same⟩
  | @envia empresa endereco mensagem named rota sent =>
      have same : curso { s with
          producers := s.producers.eraseIdx n
          enviados := s.enviados ++ [⟨p.pid, p.sessao, endereco, mensagem⟩] } i pid =
            s.curso i pid := by
        unfold curso caixa
        simp only [List.countP_append, List.countP_singleton, decide_eq_true_eq]
        omega
      exact ⟨same.le, fun _ => same⟩

/-- Requests under way come from the session, and leave with a reply that it writes. -/
theorem Move.curso_le (h : s.Move protocolo e r s') (i pid : Nat) :
    s'.curso i pid + (if Lance.respondido protocolo i ⟨s, e, r, s'⟩ = some pid then 1 else 0) ≤
      s.curso i pid +
        if (Lance.pedido i ⟨s, e, r, s'⟩).map Prod.fst = some pid then 1 else 0 := by
  have quiet (silent : r = none) (less : s'.curso i pid ≤ s.curso i pid) :
      s'.curso i pid +
          (if Lance.respondido protocolo i ⟨s, e, r, s'⟩ = some pid then 1 else 0) ≤
        s.curso i pid +
          if (Lance.pedido i ⟨s, e, r, s'⟩).map Prod.fst = some pid then 1 else 0 := by
    rw [Lance.respondido_of_escrita (by rw [silent]; rfl), if_neg (by simp)]
    omega
  cases h with
  | aceita => exact quiet rfl curso_aceita.le
  | tcp j packet =>
      exact quiet rfl (curso_deposita_le.trans (by simp [Recado.de, Recado.remetente]))
  | tcpClosed j =>
      exact quiet rfl (curso_deposita_le.trans (by simp [Recado.de, Recado.remetente]))
  | @recebe j sessao sessao' efeito la fez =>
      have count := curso_poe la sessao' i pid
      rw [respondido_recebe _ la, pedido_recebe, curso_aplica]
      by_cases hj : j = i
      · simp only [hj, if_true, true_and] at *
        obtain ⟨p, sucesso, username, reply, novo, toma, _, _, taken⟩ |
          ⟨none, same | ⟨dead, novo⟩⟩ := fez.conta
        · have mine := taken pid
          simp [reply, novo, toma]
          omega
        · have mine := same pid
          cases hn : efeito.novo <;> simp [none, hn] at * <;> omega
        · simp [none, novo, dead, Sessao.morta] at *
          omega
      · simp only [hj, if_false, false_and, and_false] at *
        simp
        omega
  | morre j => exact quiet rfl curso_morre_le
  | gestor la => exact quiet rfl (curso_gestor _ _).le
  | entrega la => exact quiet rfl (curso_entrega_le la)
  | producer la => exact quiet rfl (curso_run la).1
  | exchange la sucesso => exact quiet rfl (curso_exchange la sucesso).le

theorem Move.le_curso (h : s.Move protocolo e r s') {username : Termo}
    (vivo : s'.estado i = some (.sessao username)) (pid : Nat)
    (fine : ∀ n p, e = .producer n → s.producers[n]? = some p → p.sessao = i → p.pid = pid →
      p.msg.Atendivel) :
    s.curso i pid +
        (if (Lance.pedido i ⟨s, e, r, s'⟩).map Prod.fst = some pid then 1 else 0) ≤
      s'.curso i pid +
        if Lance.respondido protocolo i ⟨s, e, r, s'⟩ = some pid then 1 else 0 := by
  have quiet (none_new : s'.novoPid = s.novoPid) (same : s.curso i pid ≤ s'.curso i pid) :
      s.curso i pid +
          (if (Lance.pedido i ⟨s, e, r, s'⟩).map Prod.fst = some pid then 1 else 0) ≤
        s'.curso i pid +
          if Lance.respondido protocolo i ⟨s, e, r, s'⟩ = some pid then 1 else 0 := by
    rw [Lance.pedido_of_novoPid none_new, if_neg (by simp)]
    omega
  cases h with
  | aceita => exact quiet rfl curso_aceita.ge
  | tcp j packet =>
      rw [estado_deposita] at vivo
      exact quiet rfl (by rw [curso_deposita vivo (by simp)]; exact Nat.le_add_right _ _)
  | tcpClosed j =>
      rw [estado_deposita] at vivo
      exact quiet rfl (by rw [curso_deposita vivo (by simp)]; exact Nat.le_add_right _ _)
  | @recebe j sessao sessao' efeito la fez =>
      have count := curso_poe la sessao' i pid
      rw [respondido_recebe _ la, pedido_recebe, curso_aplica]
      rw [estado_aplica, estado_poe la] at vivo
      by_cases hj : j = i
      · simp only [hj, if_true, true_and] at *
        obtain ⟨p, sucesso, username, reply, novo, toma, _, _, taken⟩ |
          ⟨none, same | ⟨dead, novo⟩⟩ := fez.conta
        · have mine := taken pid
          simp [reply, novo, toma]
          omega
        · have mine := same pid
          cases hn : efeito.novo <;> simp [none, hn] at * <;> omega
        · simp [dead, Sessao.morta] at vivo
      · simp only [hj, if_false, false_and, and_false] at *
        simp
        omega
  | morre j =>
      cases la : s.sessoes[j]? with
      | none => exact quiet rfl (by rw [poe_none la])
      | some sessao =>
          have count := curso_poe la .morta i pid
          rw [estado_poe la] at vivo
          split_ifs at vivo with hj
          · cases vivo
          · rw [if_neg hj, if_neg hj] at count
            exact quiet rfl (by omega)
  | gestor la => exact quiet rfl (curso_gestor _ _).ge
  | @entrega n j m la =>
      rw [estado_deposita] at vivo
      exact quiet rfl (curso_entrega la vivo (by simp)).ge
  | @producer n p la =>
      refine quiet ?_ ((curso_run la).2 (fine n p rfl la)).ge
      rw [novoPid_run]
  | exchange la sucesso => exact quiet rfl (curso_exchange la sucesso).ge

end Portal

/-- What a step does for session `i`: nothing that can be seen, a new request, or a reply for
one that is taken from its mailbox. -/
inductive Lance.Faz (protocolo : Protocolo Packet R) (i : Nat) (l : Lance Packet R) : Prop
  | nada (pedido : l.pedido i = none) (escrita : l.escrita i = none)
      (respondido : l.respondido protocolo i = none) (pids : l.pre.novoPid ≤ l.post.novoPid)
  | pede {msg : Decodificada R} (pedido : l.pedido i = some (l.pre.novoPid, msg))
      (escrita : l.escrita i = none) (respondido : l.respondido protocolo i = none)
      (pids : l.post.novoPid = l.pre.novoPid + 1)
  | escreve {pid : Nat} {sucesso : Bool} (pedido : l.pedido i = none)
      (escrita : l.escrita i = some sucesso) (respondido : l.respondido protocolo i = some pid)
      (taken : .producer pid sucesso ∈ l.pre.caixa i) (pids : l.post.novoPid = l.pre.novoPid)

theorem Portal.Move.faz (h : s.Move protocolo e r s') (i : Nat) :
    Lance.Faz protocolo i ⟨s, e, r, s'⟩ := by
  have quiet (silent : r = none) (same : s'.novoPid = s.novoPid) :
      Lance.Faz protocolo i ⟨s, e, r, s'⟩ := by
    have written : Lance.escrita i ⟨s, e, r, s'⟩ = none := by
      rw [silent]
      rfl
    exact .nada (Lance.pedido_of_novoPid same) written (Lance.respondido_of_escrita written)
      same.ge
  cases h with
  | producer la => exact quiet rfl (by rw [Portal.novoPid_run])
  | tcp j packet => exact quiet rfl rfl
  | @recebe j sessao sessao' efeito la fez =>
      have pedido := Portal.pedido_recebe (s := s) (i := i) (e := .recebe j)
        (r := ((s.poe j sessao').aplica j efeito).1) j sessao' efeito
      have escrita := Portal.escrita_recebe (s := s) (i := i) (e := .recebe j) j sessao' efeito
        ((s.poe j sessao').aplica j efeito).2
      have respondido := Portal.respondido_recebe (i := i) (e := .recebe j) protocolo la sessao'
        efeito ((s.poe j sessao').aplica j efeito).2
      have pids := Portal.novoPid_aplica (s := s.poe j sessao') (j := j) efeito
      by_cases hj : j = i
      · subst hj
        rw [if_pos rfl] at pedido escrita respondido
        obtain ⟨p, sucesso, username, reply, novo, toma, taken, _, _⟩ | ⟨none, _⟩ := fez.conta
        · rw [novo] at pedido pids
          rw [reply] at escrita respondido
          rw [Option.bind_some, toma] at respondido
          exact .escreve pedido escrita respondido (by rwa [Portal.caixa_of_some la]) pids
        · rw [none] at escrita respondido
          cases novo : efeito.novo with
          | none =>
              rw [novo] at pedido pids
              exact .nada pedido escrita respondido pids.ge
          | some msg =>
              rw [novo] at pedido pids
              exact .pede pedido escrita respondido pids
      · rw [if_neg hj] at pedido escrita respondido
        exact .nada pedido escrita respondido (by rw [pids]; exact Nat.le_add_right _ _)
  | _ => exact quiet rfl rfl

end Passos

end PeerLanding.Frontend
