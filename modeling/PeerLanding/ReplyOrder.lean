import PeerLanding.RequestReplies

/-! Replies and requests over whole runs. Every reply is the answer to a request of its own,
and nothing but the failure of a producer loses one; but replies are written in the order in
which the producers answer, which is the order of the requests only for a client that waits. -/

namespace PeerLanding.Frontend

open Exchange

variable {Packet R : Type} {protocolo : Protocolo Packet R}

def pids (i : Nat) (t : List (Lance Packet R)) : List Nat := (pedidos i t).map Prod.fst

theorem pids_concat (i : Nat) (t : List (Lance Packet R)) (e : Lance Packet R) :
    pids i (t ++ [e]) = pids i t ++ ((e.pedido i).map Prod.fst).toList := by
  rw [pids, pedidos_concat, List.map_append, pids]
  cases e.pedido i <;> rfl

/-- The requests under way are requests of the session, and their replies are the answers. -/
abbrev Origem (i : Nat) (t : List (Lance Packet R)) : Portal Packet R → Prop :=
  Portal.Guarda (fun j m => j = i → ∀ pid sucesso, m = .producer pid sucesso →
      pid ∈ pids i t ∧ (pid, sucesso) ∈ veredictos t)
    (fun _ _ => True) (fun p => p.sessao = i → (p.pid, p.msg) ∈ pedidos i t)
    fun q => q.sessao = i → q.pid ∈ pids i t

section Passos

variable {t : List (Lance Packet R)} {s s' : Portal Packet R} {e : Evento Packet}
  {r : Option (Nat × Escrita)} {i : Nat}

namespace Portal

/-! ### Pids -/

theorem Run.tomadas (h : Run protocolo t s) (i : Nat) : Tomadas (pids i t) s.novoPid := by
  refine Runs.Run.invariant (fun t s => Tomadas (pids i t) s.novoPid) h ?_ ?_
  · exact List.pairwise_singleton _ _
  · intro t s e r s' _ before hs
    rw [pids_concat]
    cases hs.move.faz i with
    | nada pedido escrita respondido later =>
        rw [pedido]
        simpa using before.mono later
    | pede pedido escrita respondido new =>
        rw [pedido, new]
        exact before.nova
    | escreve pedido escrita respondido taken same =>
        rw [pedido, same]
        simpa using before

/-- A pid is under way or answered at most once, and not at all before it is given out. -/
theorem Run.conta (h : Run protocolo t s) (i pid : Nat) :
    s.curso i pid + (respondidos protocolo i t).count pid ≤ if pid < s.novoPid then 1 else 0 := by
  refine Runs.Run.invariant (fun t s => s.curso i pid + (respondidos protocolo i t).count pid ≤
    if pid < s.novoPid then 1 else 0) h ?_ ?_
  · exact Nat.zero_le _
  · intro t s e r s' _ before hs
    have moved := hs.move.curso_le i pid
    rw [respondidos_concat, List.count_append]
    cases hs.move.faz i with
    | nada pedido escrita respondido later =>
        rw [pedido, respondido] at moved
        rw [respondido]
        simp at moved later ⊢
        split_ifs at before ⊢ <;> omega
    | pede pedido escrita respondido new =>
        rw [pedido, respondido] at moved
        rw [respondido]
        simp at moved new ⊢
        split_ifs at before moved ⊢ <;> omega
    | @escreve pid' sucesso pedido escrita respondido taken same =>
        rw [pedido, respondido] at moved
        rw [respondido]
        simp [List.count_singleton] at moved same ⊢
        rw [same]
        omega

/-! ### Where replies come from -/

theorem Run.origem (h : Run protocolo t s) (i : Nat) : Origem i t s := by
  refine Runs.Run.invariant (Origem i) h guarda_inicial ?_
  intro t s e r s' _ before hs
  have older : ∀ pid ∈ pids i t, pid ∈ pids i (t ++ [(⟨s, e, r, s'⟩ : Lance Packet R)]) := by
    intro pid hp
    rw [pids_concat]
    exact List.mem_append_left _ hp
  have answered : ∀ x, Lance.veredicto ⟨s, e, r, s'⟩ = some x →
      x ∈ veredictos (t ++ [(⟨s, e, r, s'⟩ : Lance Packet R)]) := by
    intro x hx
    rw [veredictos_concat, hx]
    simp
  have now : Origem i (t ++ [⟨s, e, r, s'⟩]) s := by
    refine Guarda.mono before ?_ (fun _ _ _ => trivial) ?_ ?_
    · intro j m hm hj pid sucesso same
      obtain ⟨mine, verdict⟩ := hm hj pid sucesso same
      refine ⟨older pid mine, ?_⟩
      rw [veredictos_concat]
      exact List.mem_append_left _ verdict
    · intro p hp mine
      rw [pedidos_concat]
      exact List.mem_append_left _ (hp mine)
    · exact fun q hq mine => older q.pid (hq mine)
  refine hs.move.guarda now (fun j packet _ _ _ => nofun) (fun j _ _ _ => nofun)
    (fun _ => trivial) (fun _ => trivial) ?_ (fun _ _ _ _ _ => nofun) ?_ ?_ ?_
  · intro j sessao sessao' efeito la fez post
    refine ⟨trivial, ?_⟩
    rintro msg rfl mine
    have new : Lance.pedido i ⟨s, e, r, s'⟩ = some (s.novoPid, msg) := by
      rw [post, pedido_recebe, if_pos mine]
      rfl
    rw [pedidos_concat, new]
    simp
  · rintro n p empresa rfl la named fora mine pid sucesso ⟨⟩
    refine ⟨List.mem_map_of_mem (now.producers p (List.mem_of_getElem? la) mine), ?_⟩
    refine answered _ ?_
    simp [Lance.veredicto, la, named, fora]
  · intro p empresa endereco mensagem hp named rota sent mine
    exact List.mem_map_of_mem (now.producers p hp mine)
  · rintro n q sucesso rfl la mine pid _ ⟨⟩
    refine ⟨now.enviados q (List.mem_of_getElem? la) mine, answered _ ?_⟩
    simp [Lance.veredicto, la]

end Portal

/-- Every reply on the socket is the answer to a request of the session. -/
theorem escritas_respondidos (h : Portal.Run protocolo t s) (i : Nat) :
    List.Forall₂ (fun sucesso pid => (pid, sucesso) ∈ veredictos t) (escritas i t)
        (respondidos protocolo i t) ∧
      respondidos protocolo i t ⊆ pids i t := by
  refine Runs.Run.invariant (fun t _ => List.Forall₂ (fun sucesso pid =>
    (pid, sucesso) ∈ veredictos t) (escritas i t) (respondidos protocolo i t) ∧
      respondidos protocolo i t ⊆ pids i t) h ?_ ?_
  · exact ⟨.nil, List.nil_subset _⟩
  · intro t s e r s' run before hs
    have older : List.Forall₂ (fun sucesso pid =>
        (pid, sucesso) ∈ veredictos (t ++ [(⟨s, e, r, s'⟩ : Lance Packet R)]))
        (escritas i t) (respondidos protocolo i t) := by
      refine before.1.imp fun sucesso pid verdict => ?_
      rw [veredictos_concat]
      exact List.mem_append_left _ verdict
    rw [escritas_concat, respondidos_concat, pids_concat]
    cases hs.move.faz i with
    | nada pedido escrita respondido later =>
        rw [escrita, respondido, pedido]
        simpa using ⟨older, before.2⟩
    | pede pedido escrita respondido new =>
        rw [escrita, respondido, pedido]
        simpa using ⟨older, List.subset_append_of_subset_left _ before.2⟩
    | @escreve pid sucesso pedido escrita respondido taken same =>
        obtain ⟨sessao, la, here⟩ : ∃ sessao, s.sessoes[i]? = some sessao ∧
            .producer pid sucesso ∈ sessao.caixa := by
          cases la : s.sessoes[i]? with
          | none => simp [Portal.caixa, la] at taken
          | some sessao => exact ⟨sessao, rfl, by simpa [Portal.caixa, la] using taken⟩
        obtain ⟨mine, verdict⟩ :=
          (Portal.Run.origem run i).caixas i sessao la _ here rfl pid sucesso rfl
        rw [escrita, respondido, pedido]
        refine ⟨List.rel_append older (.cons ?_ .nil), ?_⟩
        · rw [veredictos_concat]
          exact List.mem_append_left _ verdict
        · simpa [List.append_subset] using ⟨before.2, mine⟩

/-! ### No reply is missing -/

/-- The session is not in `usersession/3` yet. -/
def Estado.Antes : Option Estado → Prop
  | none => True
  | some .autentica => True
  | some (.login _ _) => True
  | _ => False

theorem Portal.Move.antes (h : s.Move protocolo e r s') (now : Estado.Antes (s'.estado i)) :
    Estado.Antes (s.estado i) ∧ Lance.pedido i ⟨s, e, r, s'⟩ = none := by
  cases h with
  | aceita =>
      refine ⟨?_, Lance.pedido_of_novoPid rfl⟩
      cases Portal.sessoes_aceita (s := s) (j := i) with
      | inl same => rwa [Portal.estado, same] at now
      | inr nova =>
          rw [Portal.estado, nova.1]
          trivial
  | tcp j packet => exact ⟨by rwa [Portal.estado_deposita] at now, Lance.pedido_of_novoPid rfl⟩
  | tcpClosed j => exact ⟨by rwa [Portal.estado_deposita] at now, Lance.pedido_of_novoPid rfl⟩
  | @recebe j sessao sessao' efeito la fez =>
      rw [Portal.estado_aplica, Portal.estado_poe la] at now
      rw [Portal.pedido_recebe]
      split_ifs at now ⊢ with hj
      · subst hj
        rw [Portal.estado_of_some la]
        cases fez with
        | pede lido => exact ⟨trivial, rfl⟩
        | recusada => exact ⟨trivial, rfl⟩
        | _ => exact now.elim
      · exact ⟨now, rfl⟩
  | morre j =>
      cases la : s.sessoes[j]? with
      | none =>
          rw [Portal.poe_none la] at now ⊢
          exact ⟨now, Lance.pedido_of_novoPid rfl⟩
      | some sessao =>
          rw [Portal.estado_poe la] at now
          split_ifs at now with hj
          · exact now.elim
          · exact ⟨now, Lance.pedido_of_novoPid rfl⟩
  | gestor la => exact ⟨now, Lance.pedido_of_novoPid rfl⟩
  | entrega la => exact ⟨by rwa [Portal.estado_deposita] at now, Lance.pedido_of_novoPid rfl⟩
  | producer la =>
      rw [Portal.estado_run] at now
      exact ⟨now, Lance.pedido_of_novoPid (by rw [Portal.novoPid_run])⟩
  | exchange la sucesso => exact ⟨now, Lance.pedido_of_novoPid rfl⟩

theorem Portal.Run.antes (h : Portal.Run protocolo t s) (i : Nat) :
    Estado.Antes (s.estado i) → pids i t = [] := by
  refine Runs.Run.invariant (fun t s => Estado.Antes (s.estado i) → pids i t = []) h ?_ ?_
  · exact fun _ => rfl
  · intro t s e r s' _ before hs now
    obtain ⟨earlier, none_new⟩ := hs.move.antes now
    rw [pids_concat, before earlier, none_new]
    rfl

theorem Portal.Move.vinha (h : s.Move protocolo e r s') (emDia : s.EmDia) {username : Termo}
    (now : s'.estado i = some (.sessao username)) :
    s.estado i = some (.sessao username) ∨ Estado.Antes (s.estado i) := by
  by_cases before : s.estado i = some (.sessao username)
  · exact .inl before
  · obtain ⟨_, password, tipo, caixa, la⟩ := h.entra emDia now before
    right
    rw [Portal.estado_of_some la]
    trivial

theorem count_toList {α : Type} [DecidableEq α] (o : Option α) (a : α) :
    o.toList.count a = if o = some a then 1 else 0 := by
  cases o with
  | none => rfl
  | some b => simp [List.count_singleton]

theorem mesmo_pid {p q : Nat × Decodificada R} (hp : p ∈ pedidos i t) (hq : q ∈ pedidos i t)
    (nodup : (pids i t).Nodup) (same : p.1 = q.1) : p = q :=
  List.inj_on_of_nodup_map nodup hp hq same

/-- While the session goes on, a request whose producer does not fail is under way or has been
answered. -/
theorem presente (h : Portal.Run protocolo t s) (i : Nat) :
    (∃ username, s.estado i = some (.sessao username)) → ∀ p ∈ pedidos i t, p.2.Atendivel →
      1 ≤ s.curso i p.1 + (respondidos protocolo i t).count p.1 := by
  refine Runs.Run.invariant (fun t s => (∃ username, s.estado i = some (.sessao username)) →
    ∀ p ∈ pedidos i t, p.2.Atendivel →
      1 ≤ s.curso i p.1 + (respondidos protocolo i t).count p.1) h ?_ ?_
  · intro _ p hp
    cases hp
  · rintro t s e r s' run before hs ⟨username, vivo⟩ p hp fine
    have tomadas := Portal.Run.tomadas (run.snoc hs) i
    have kept := hs.move.le_curso vivo p.1 ?_
    · rw [respondidos_concat, List.count_append, count_toList]
      rw [pedidos_concat, List.mem_append] at hp
      cases hp with
      | inl old =>
          cases hs.move.vinha (Portal.Run.emDia run) vivo with
          | inl vinha =>
              have earlier := before ⟨username, vinha⟩ p old fine
              omega
          | inr antes =>
              have mine : p.1 ∈ pids i t := List.mem_map_of_mem old
              rw [Portal.Run.antes run i antes] at mine
              cases mine
      | inr new =>
          rw [Option.mem_toList] at new
          rw [new, Option.map_some, if_pos rfl] at kept
          omega
    · intro n q _ la mine same
      have asked := (Portal.Run.origem run i).producers q (List.mem_of_getElem? la) mine
      have there : (q.pid, q.msg) ∈ pedidos i (t ++ [(⟨s, e, r, s'⟩ : Lance Packet R)]) := by
        rw [pedidos_concat]
        exact List.mem_append_left _ asked
      have one := mesmo_pid there hp tomadas.nodup same
      rwa [← one] at fine

/-! ### One answer for each request -/

/-- The producers and the requests at exchanges with this pid, of any session. -/
def Portal.aberto (s : Portal Packet R) (pid : Nat) : Nat :=
  s.producers.countP (fun p => decide (p.pid = pid)) +
    s.enviados.countP (fun q => decide (q.pid = pid))

theorem Portal.Move.aberto (h : s.Move protocolo e r s') (pid : Nat) :
    s'.aberto pid + (if (Lance.veredicto ⟨s, e, r, s'⟩).map Prod.fst = some pid then 1 else 0) ≤
      s.aberto pid + if s.novoPid ≤ pid ∧ pid < s'.novoPid then 1 else 0 := by
  cases h with
  | @recebe j sessao sessao' efeito la fez =>
      cases efeito with
      | spawn msg =>
          have silent : Lance.veredicto ⟨s, .recebe j, ((s.poe j sessao').aplica j (.spawn msg)).1,
              ((s.poe j sessao').aplica j (.spawn msg)).2⟩ = none := rfl
          have pids : ((s.poe j sessao').aplica j (.spawn msg)).2.novoPid = s.novoPid + 1 := rfl
          have one_more : ((s.poe j sessao').aplica j (.spawn msg)).2.aberto pid =
              s.aberto pid + if s.novoPid = pid then 1 else 0 := by
            simp only [Portal.aberto, Portal.aplica, Portal.poe, List.countP_append,
              List.countP_singleton, decide_eq_true_eq]
            omega
          rw [silent, if_neg (by simp), pids, one_more]
          split_ifs <;> omega
      | _ => exact Nat.le_add_right _ _
  | @producer n p la =>
      have count := Mailbox.countP_eraseIdx la fun p => decide (p.pid = pid)
      have ran := Portal.run_corre { s with producers := s.producers.eraseIdx n } p
      generalize Portal.run { s with producers := s.producers.eraseIdx n } p = fim at ran ⊢
      simp only [decide_eq_true_eq] at count
      cases ran with
      | falha fails =>
          have silent : Lance.veredicto (R := R) ⟨s, .producer n, none,
              { s with producers := s.producers.eraseIdx n }⟩ = none := by
            simp only [Lance.veredicto, la, Option.bind_some]
            cases named : p.msg.empresa with
            | none => rfl
            | some empresa =>
                rw [Option.bind_some, if_neg fun fora => fails ⟨empresa, named, .inl fora⟩]
          rw [silent, if_neg (by simp)]
          unfold Portal.aberto
          dsimp only
          omega
      | recusa named fora =>
          simp [Lance.veredicto, la, named, fora]
          unfold Portal.aberto Portal.responde
          dsimp only
          omega
      | envia named rota sent =>
          simp [Lance.veredicto, la, named, rota]
          unfold Portal.aberto
          simp
          omega
  | @exchange n q la sucesso =>
      have count := Mailbox.countP_eraseIdx la fun q => decide (q.pid = pid)
      simp only [decide_eq_true_eq] at count
      simp [Lance.veredicto, la]
      unfold Portal.aberto Portal.responde
      dsimp only
      omega
  | morre j => exact Nat.le_add_right _ _
  | tcp j packet => exact Nat.le_add_right _ _
  | _ => exact Nat.le_add_right _ _

theorem Portal.Run.aberto (h : Portal.Run protocolo t s) (pid : Nat) :
    s.aberto pid + ((veredictos t).map Prod.fst).count pid ≤ if pid < s.novoPid then 1 else 0 := by
  refine Runs.Run.invariant (fun t s => s.aberto pid + ((veredictos t).map Prod.fst).count pid ≤
    if pid < s.novoPid then 1 else 0) h ?_ ?_
  · exact Nat.zero_le _
  · intro t s e r s' _ before hs
    have moved := hs.move.aberto pid
    have later : s.novoPid ≤ s'.novoPid := by
      cases hs.move.faz 0 with
      | nada pedido escrita respondido later => exact later
      | pede pedido escrita respondido new => exact new.ge.trans' (Nat.le_succ _)
      | escreve pedido escrita respondido taken same => exact same.ge
    rw [veredictos_concat, List.map_append, List.count_append, ← Option.toList_map, count_toList]
    split_ifs at before moved ⊢ <;> omega

theorem veredictos_nodup (h : Portal.Run protocolo t s) :
    ((veredictos t).map Prod.fst).Nodup := by
  rw [List.nodup_iff_count_le_one]
  intro pid
  have once := Portal.Run.aberto h pid
  split_ifs at once <;> omega

theorem respondidos_nodup (h : Portal.Run protocolo t s) (i : Nat) :
    (respondidos protocolo i t).Nodup := by
  rw [List.nodup_iff_count_le_one]
  intro pid
  have once := Portal.Run.conta h i pid
  split_ifs at once <;> omega

/-! ### The order of the replies -/

/-- Every request is read when the ones before it have been answered. -/
def EsperaCada (i : Nat) (t : List (Lance Packet R)) : Prop :=
  ∀ u e, u ++ [e] <+: t → (e.pedido i).isSome = true →
    (escritas i u).length = (pedidos i u).length

def EmOrdem (i : Nat) (t : List (Lance Packet R)) : Prop :=
  ∀ (k : Nat) (sucesso : Bool), (escritas i t)[k]? = some sucesso →
    ∃ pid : Nat, (pids i t)[k]? = some pid ∧ (pid, sucesso) ∈ veredictos t

theorem respondidos_espera (h : Portal.Run protocolo t s) (i : Nat) :
    EsperaCada i t → respondidos protocolo i t = pids i t ∨
      ∃ pid, respondidos protocolo i t ++ [pid] = pids i t := by
  refine Runs.Run.invariant (fun t _ => EsperaCada i t → respondidos protocolo i t = pids i t ∨
    ∃ pid, respondidos protocolo i t ++ [pid] = pids i t) h ?_ ?_
  · exact fun _ => .inl rfl
  · intro t s e r s' run before hs espera
    have earlier := before fun u l hu => espera u l (hu.trans (List.prefix_append _ _))
    have whole := run.snoc hs
    rw [respondidos_concat, pids_concat]
    cases hs.move.faz i with
    | nada pedido escrita respondido later =>
        rw [pedido, respondido]
        simpa using earlier
    | @pede msg pedido escrita respondido new =>
        have answered := espera t _ List.prefix_rfl (by rw [pedido]; rfl)
        rw [(escritas_respondidos run i).1.length_eq] at answered
        have every : respondidos protocolo i t = pids i t := by
          obtain same | ⟨pid, last⟩ := earlier
          · exact same
          · have length := congrArg List.length last
            simp [pids, answered] at length
        right
        rw [pedido, respondido, every]
        exact ⟨s.novoPid, by simp⟩
    | @escreve pid sucesso pedido escrita respondido taken same =>
        have nodup := respondidos_nodup whole i
        have mine := (escritas_respondidos whole i).2
        rw [respondidos_concat, respondido] at nodup mine
        rw [pids_concat, pedido] at mine
        simp only [Option.toList_some, Option.map_none, Option.toList_none, List.append_nil]
          at nodup mine
        left
        rw [pedido, respondido]
        simp only [Option.toList_some, Option.map_none, Option.toList_none, List.append_nil]
        have asked : pid ∈ pids i t := mine (by simp)
        have fresh : pid ∉ respondidos protocolo i t := by
          intro again
          exact (List.nodup_append.1 nodup).2.2 pid again pid (by simp) rfl
        obtain every | ⟨last, all⟩ := earlier
        · exact absurd (every ▸ asked) fresh
        · rw [← all, List.mem_append, List.mem_singleton] at asked
          obtain again | rfl := asked
          · exact absurd again fresh
          · exact all

theorem emOrdem_of_espera (h : Portal.Run protocolo t s) (espera : EsperaCada i t) :
    EmOrdem i t := by
  intro k sucesso written
  obtain ⟨length, answers⟩ := List.forall₂_iff_get.1 (escritas_respondidos h i).1
  obtain ⟨inside, rfl⟩ := List.getElem?_eq_some_iff.1 written
  have answered : k < (respondidos protocolo i t).length := length ▸ inside
  refine ⟨(respondidos protocolo i t)[k], ?_, answers k inside answered⟩
  obtain every | ⟨last, all⟩ := respondidos_espera h i espera
  · rw [← every, List.getElem?_eq_getElem answered]
  · rw [← all, List.getElem?_append_left answered, List.getElem?_eq_getElem answered]

/-! ### Sessions that are served -/

def Pede (protocolo : Protocolo Packet R) (packet : Packet) : Prop :=
  ∃ msg, protocolo.mensagem packet = some msg ∧ msg.tipo.Pedido

/-- The session is in `usersession/3`, and has nothing to read from its client but requests. -/
structure Portal.Serve (protocolo : Protocolo Packet R) (s : Portal Packet R) (i : Nat)
    (username : Termo) : Prop where
  estado : s.estado i = some (.sessao username)
  pacotes : ∀ packet, .tcp packet ∈ s.caixa i → Pede protocolo packet

/-- Session `i` has been authenticated, and since then has got nothing but requests. -/
def SoPedidos (protocolo : Protocolo Packet R) (i : Nat) (t : List (Lance Packet R)) : Prop :=
  ∃ v e w username, t = v ++ e :: w ∧ Portal.Serve protocolo e.post i username ∧
    ∀ l ∈ w, l.label ≠ .morre i ∧ ∀ packet, l.label = .tcp i packet → Pede protocolo packet

theorem Sessao.Recebe.serve {sessao sessao' : Sessao Packet} {efeito : Efeito R}
    {username : Termo} (fez : sessao.Recebe protocolo sessao' efeito)
    (estado : sessao.estado = .sessao username)
    (pacotes : ∀ packet, .tcp packet ∈ sessao.caixa → Pede protocolo packet) :
    sessao'.estado = .sessao username := by
  cases fez with
  | pedido fica lido tipo => exact estado
  | escreve fica => exact estado
  | @sai user packet msg antes depois fica lido tipo =>
      obtain ⟨msg', lido', pedido⟩ := pacotes packet (by simp)
      cases lido.symm.trans lido'
      rw [tipo] at pedido
      simp [Termo.Pedido] at pedido
  | @termina _ m antes depois caixa fica fim =>
      rw [estado] at fim
      cases m with
      | tcp packet =>
          obtain ⟨msg, lido, pedido⟩ := pacotes packet (by rw [caixa]; simp)
          simp [trata, usersession3, lido, pedido_eq, pedido] at fim
      | _ => simp [trata, usersession3] at fim
  | _ => cases estado

theorem Portal.Move.serve (h : s.Move protocolo e r s') (so : s.SoRespostas) {username : Termo}
    (before : s.Serve protocolo i username) (alive : e ≠ .morre i)
    (asks : ∀ packet, e = .tcp i packet → Pede protocolo packet) :
    s'.Serve protocolo i username := by
  obtain ⟨estado, pacotes⟩ := before
  cases h with
  | aceita =>
      obtain ⟨same, caixa⟩ := Portal.estado_aceita estado
      exact ⟨same, by rwa [caixa]⟩
  | tcp j packet =>
      refine ⟨by rwa [Portal.estado_deposita], ?_⟩
      intro packet' there
      obtain old | ⟨rfl, new⟩ := Portal.mem_caixa_deposita there
      · exact pacotes packet' old
      · cases new
        exact asks packet rfl
  | tcpClosed j =>
      refine ⟨by rwa [Portal.estado_deposita], ?_⟩
      intro packet' there
      obtain old | ⟨_, new⟩ := Portal.mem_caixa_deposita there
      · exact pacotes packet' old
      · cases new
  | @recebe j sessao sessao' efeito la fez =>
      refine ⟨?_, ?_⟩
      · rw [Portal.estado_aplica, Portal.estado_poe la]
        split_ifs with hj
        · subst hj
          rw [Portal.estado_of_some la, Option.some.injEq] at estado
          rw [Portal.caixa_of_some la] at pacotes
          rw [fez.serve estado pacotes]
        · exact estado
      · intro packet there
        rw [Portal.caixa_aplica, Portal.caixa_poe la] at there
        split_ifs at there with hj
        · subst hj
          rw [Portal.caixa_of_some la] at pacotes
          exact pacotes packet (fez.subset there)
        · exact pacotes packet there
  | morre j =>
      have other : j ≠ i := fun same => alive (same ▸ rfl)
      cases la : s.sessoes[j]? with
      | none =>
          rw [Portal.poe_none la]
          exact ⟨estado, pacotes⟩
      | some sessao =>
          refine ⟨?_, ?_⟩
          · rwa [Portal.estado_poe la, if_neg other]
          · rwa [Portal.caixa_poe la, if_neg other]
  | gestor la => exact ⟨estado, pacotes⟩
  | @entrega n j m la =>
      refine ⟨by rwa [Portal.estado_deposita], ?_⟩
      intro packet' there
      obtain old | ⟨_, new⟩ := Portal.mem_caixa_deposita there
      · exact pacotes packet' old
      · exact absurd new.symm ((so _ (List.mem_of_getElem? la)).2 packet')
  | producer la =>
      refine ⟨by rwa [Portal.estado_run], ?_⟩
      rwa [Portal.caixa_run]
  | exchange la sucesso => exact ⟨estado, pacotes⟩

theorem SoPedidos.viva (h : Portal.Run protocolo t s) (served : SoPedidos protocolo i t) :
    ∃ username, s.estado i = some (.sessao username) := by
  obtain ⟨v, e, w, username, rfl, start, only⟩ := served
  suffices now : s.Serve protocolo i username from ⟨username, now.estado⟩
  refine Runs.Run.invariant (fun t s => ∀ w, t = v ++ e :: w → (∀ l ∈ w, l.label ≠ .morre i ∧
    ∀ packet, l.label = .tcp i packet → Pede protocolo packet) → s.Serve protocolo i username)
    h ?_ ?_ w rfl only
  · intro w none_yet
    simp at none_yet
  · intro t s l r s' run before hs w split only
    obtain rfl | ⟨w, last, rfl⟩ := List.eq_nil_or_concat w
    · obtain rfl := List.singleton_inj.1 (List.append_inj' split rfl).2
      exact start
    · rw [List.concat_eq_append, ← List.cons_append, ← List.append_assoc] at split
      obtain ⟨earlier, one⟩ := List.append_inj' split rfl
      obtain rfl := List.singleton_inj.1 one
      rw [List.concat_eq_append] at only
      obtain ⟨alive, asks⟩ := only _ (List.mem_append_right _ (List.mem_singleton_self _))
      exact hs.move.serve (Portal.Run.soRespostas run)
        (before w earlier fun l hl => only l (List.mem_append_left _ hl)) alive asks

end Passos

/-- Every reply on a client's socket is the answer to a request of its own, and each request
gets one answer; once nothing of the session is under way, every request whose producer did not
fail has been answered; and the replies are in the order of the requests when each request is
read after the replies to the ones before it. -/
theorem requestReplies {t : List (Lance Packet R)} {s : Portal Packet R}
    (h : Portal.Run protocolo t s) (i : Nat) :
    ((veredictos t).map Prod.fst).Nodup ∧
      (∃ respondidos : List Nat, respondidos.Nodup ∧ respondidos ⊆ pids i t ∧
        List.Forall₂ (fun sucesso pid => (pid, sucesso) ∈ veredictos t) (escritas i t)
          respondidos ∧
        (SoPedidos protocolo i t → s.Sossegada i →
          ∀ p ∈ pedidos i t, p.2.Atendivel → p.1 ∈ respondidos)) ∧
      (EsperaCada i t → EmOrdem i t) := by
  obtain ⟨answers, mine⟩ := escritas_respondidos h i
  refine ⟨veredictos_nodup h, ⟨respondidos protocolo i t, respondidos_nodup h i, mine, answers,
    ?_⟩, emOrdem_of_espera h⟩
  intro served quiet p hp fine
  have there := presente h i (served.viva h) p hp fine
  rw [quiet p.1, Nat.zero_add] at there
  exact List.count_pos_iff.1 there

/-- `VinhoLda` sends two requests at once, and the answer to the second arrives first. -/
def swappedReplies : List (Evento (AuthReq ⊕ Decodificada Binary32)) :=
  [.aceita, .tcp 0 (.inl ⟨.texto "VinhoLda", .texto "mongo"⟩), .recebe 0, .gestor 0,
    .entrega 0, .recebe 0,
    .tcp 0 (.inr ⟨.texto "leilao", some (.intBitsToFloat 0x40000000), some 1000, none, none⟩),
    .tcp 0 (.inr ⟨.texto "licitar", some (.intBitsToFloat 0x3f800000), some 100,
      some (.texto "AguaLda"), none⟩),
    .recebe 0, .recebe 0, .producer 0, .producer 0, .exchange 0 true, .exchange 0 false,
    .entrega 1, .entrega 0, .recebe 0, .recebe 0]

theorem swappedReplies_happen : (Portal.corrida .direto swappedReplies).isSome := by
  decide +kernel

theorem SoPedidos.of_labels {t : List (Lance Packet R)} {eventos : List (Evento Packet)}
    {i n : Nat} (username : Termo) (labels : t.map (·.label) = eventos)
    (state : (t[n]?.map fun e => (e.post.estado i, e.post.caixa i)) =
      some (some (.sessao username), []))
    (ask : ∀ l ∈ eventos.drop (n + 1), l ≠ .morre i ∧
      ∀ packet, l = .tcp i packet → Pede protocolo packet) : SoPedidos protocolo i t := by
  obtain ⟨e, he, now⟩ := Option.map_eq_some_iff.1 state
  rw [Prod.mk.injEq] at now
  obtain ⟨inside, rfl⟩ := List.getElem?_eq_some_iff.1 he
  refine ⟨t.take n, t[n], t.drop (n + 1), username, ?_, ⟨now.1, ?_⟩, ?_⟩
  · rw [← List.drop_eq_getElem_cons inside, List.take_append_drop]
  · rw [now.2]
    simp
  · intro l hl
    refine ask l.label ?_
    rw [← labels, ← List.map_drop]
    exact List.mem_map_of_mem hl

theorem Portal.sossegada_of_nil {s : Portal Packet R} {i : Nat} (producers : s.producers = [])
    (enviados : s.enviados = []) (transito : s.transito = []) (caixa : s.caixa i = []) :
    s.Sossegada i := by
  intro pid
  simp [curso, producers, enviados, transito, caixa]

theorem not_emOrdem {t : List (Lance Packet R)} {i pid : Nat} {sucesso : Bool}
    (written : (escritas i t)[0]? = some sucesso) (asked : (pids i t)[0]? = some pid)
    (other : (pid, sucesso) ∉ veredictos t) : ¬EmOrdem i t := by
  intro ordered
  obtain ⟨pid', first, verdict⟩ := ordered 0 sucesso written
  rw [asked, Option.some.injEq] at first
  exact other (first ▸ verdict)

theorem swappedReplies_ask : ∀ l ∈ swappedReplies.drop 6, l ≠ .morre 0 ∧
    ∀ packet, l = .tcp 0 packet → Pede Protocolo.direto packet := by
  intro l hl
  simp only [swappedReplies, List.drop_succ_cons, List.drop_zero, List.mem_cons,
    List.not_mem_nil, or_false] at hl
  rcases hl with rfl | rfl | rfl | rfl | rfl | rfl | rfl | rfl | rfl | rfl | rfl | rfl
  · exact ⟨by simp, by rintro packet ⟨⟩; exact ⟨_, rfl, by decide⟩⟩
  · exact ⟨by simp, by rintro packet ⟨⟩; exact ⟨_, rfl, by decide⟩⟩
  all_goals exact ⟨by simp, by simp⟩

/-- All requests of the run have been answered, and the answers are in the other order. -/
theorem requestReplies_swapped :
    ∃ (t : List (Lance (AuthReq ⊕ Decodificada Binary32) Binary32))
      (s : Portal (AuthReq ⊕ Decodificada Binary32) Binary32), Portal.Run .direto t s ∧
      SoPedidos .direto 0 t ∧ s.Sossegada 0 ∧ pids 0 t = [0, 1] ∧
      veredictos t = [(0, true), (1, false)] ∧ escritas 0 t = [false, true] ∧ ¬EmOrdem 0 t := by
  refine ⟨_, _, Portal.run_corrida swappedReplies_happen, ?_, ?_, by decide +kernel,
    by decide +kernel, by decide +kernel, ?_⟩
  · refine SoPedidos.of_labels (n := 5) (.texto "VinhoLda")
      (Portal.labels_corrida swappedReplies_happen) ?_ swappedReplies_ask
    decide +kernel
  · refine Portal.sossegada_of_nil ?_ ?_ ?_ ?_ <;> decide +kernel
  · refine @not_emOrdem _ _ _ _ 0 false ?_ ?_ ?_ <;> decide +kernel

/-- In the same run both requests have been answered, each with its own verdict. -/
theorem requestReplies_vinhoLda :
    ∃ (t : List (Lance (AuthReq ⊕ Decodificada Binary32) Binary32))
      (s : Portal (AuthReq ⊕ Decodificada Binary32) Binary32), Portal.Run .direto t s ∧
      escritas 0 t = [false, true] ∧ ((veredictos t).map Prod.fst).Nodup ∧
      ∃ respondidos : List Nat, respondidos.Nodup ∧ respondidos ⊆ pids 0 t ∧
        List.Forall₂ (fun sucesso pid => (pid, sucesso) ∈ veredictos t) (escritas 0 t)
          respondidos := by
  have run := Portal.run_corrida swappedReplies_happen
  have written : escritas 0 ((Portal.corrida .direto swappedReplies).get
    swappedReplies_happen).1 = [false, true] := by decide +kernel
  obtain ⟨once, ⟨respondidos, nodup, mine, answers, _⟩, _⟩ := requestReplies run 0
  exact ⟨_, _, run, written, once, respondidos, nodup, mine, answers⟩

end PeerLanding.Frontend
